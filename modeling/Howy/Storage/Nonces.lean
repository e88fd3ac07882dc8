import Howy.Library.Runs
import Howy.Storage.Records
import Mathlib.Data.Finset.Insert

/-! The nonce generator of a backend: over all its calls, and whatever its random source does, no nonce comes
twice. -/

namespace Howy.Storage.Nonces

open Library

def maxEncryptionsPerKeyV1 : ℕ := 65536
def maxNonceTrackerCapacity : ℕ := 2 * maxEncryptionsPerKeyV1

/-- `fill_bytes` of a source in any state: it may repeat itself, and it may fail. -/
abbrev RandomSource (ρ : Type) := ρ → Except String GcmNonce × ρ

structure NonceGenerator (ρ : Type) where
  source : ρ
  seen : Finset GcmNonce
  accepted : ℕ
  ceiling : ℕ
  allocatedCapacity : Option ℕ

variable {ρ : Type} {fillBytes : RandomSource ρ} {reserved : Option ℕ}

def fromSource (source : ρ) : NonceGenerator ρ := ⟨source, ∅, 0, maxEncryptionsPerKeyV1, none⟩

def fromSourceWithCeiling (source : ρ) (ceiling : ℕ) : Except StorageError (NonceGenerator ρ) :=
  if ceiling = 0 ∨ maxEncryptionsPerKeyV1 < ceiling then .error .invalidNonceCeiling
  else .ok ⟨source, ∅, 0, ceiling, none⟩

/-- The one reservation of the tracker. `reserved` is the capacity the allocator gives, if it gives any. -/
def reserveTracker (reserved : Option ℕ) (g : NonceGenerator ρ) : NonceGenerator ρ × Except StorageError Unit :=
  if g.allocatedCapacity.isSome then (g, .ok ())
  else match reserved with
    | none => (g, .error (.allocationFailed "nonce tracker"))
    | some capacity =>
      if capacity < g.ceiling ∨ maxNonceTrackerCapacity < capacity then
        ({ g with seen := ∅ }, .error (.allocationFailed "nonce tracker"))
      else ({ g with allocatedCapacity := some capacity }, .ok ())

def drawNonce (fillBytes : RandomSource ρ) (g : NonceGenerator ρ) :
    NonceGenerator ρ × Except StorageError GcmNonce :=
  match fillBytes g.source with
  | (.error reason, source) => ({ g with source }, .error (.randomSource reason))
  | (.ok nonce, source) =>
    if nonce ∈ g.seen then ({ g with source }, .error .duplicateNonce)
    else match checkedAdd g.accepted 1 with
      | none => ({ g with source, seen := insert nonce g.seen }, .error .nonceWriteLimitExceeded)
      | some accepted => ({ g with source, seen := insert nonce g.seen, accepted }, .ok nonce)

def generate (fillBytes : RandomSource ρ) (g : NonceGenerator ρ) (reserved : Option ℕ) :
    NonceGenerator ρ × Except StorageError GcmNonce :=
  if g.ceiling ≤ g.accepted then (g, .error .nonceWriteLimitExceeded)
  else match reserveTracker reserved g with
    | (g, .error e) => (g, .error e)
    | (g, .ok ()) => drawNonce fillBytes g

def returned (past : List (Option ℕ × Except StorageError GcmNonce)) : List GcmNonce :=
  past.filterMap fun call => call.2.toOption

structure Tracks (ceiling : ℕ) (g : NonceGenerator ρ) (nonces : List GcmNonce) : Prop where
  nodup : nonces.Nodup
  seen : ∀ nonce, nonce ∈ g.seen ↔ nonce ∈ nonces
  accepted : g.accepted = nonces.length
  ceiling_eq : g.ceiling = ceiling
  accepted_le : g.accepted ≤ ceiling
  ceiling_le : ceiling ≤ maxEncryptionsPerKeyV1
  unallocated : g.allocatedCapacity = none → nonces = []

variable {c : ℕ} {g : NonceGenerator ρ} {nonces : List GcmNonce}

lemma tracks_reserveTracker (h : Tracks c g nonces) :
    Tracks c (reserveTracker reserved g).1 nonces ∧ (reserveTracker reserved g).1.accepted = g.accepted ∧
      ((reserveTracker reserved g).2 = .ok () → (reserveTracker reserved g).1.allocatedCapacity.isSome) := by
  unfold reserveTracker
  split
  next hs =>
    exact ⟨h, rfl, fun _ => hs⟩
  rename_i hs
  have hnil := h.unallocated (by simpa using hs)
  subst hnil
  split
  · exact ⟨h, rfl, nofun⟩
  split
  · exact ⟨⟨h.nodup, by simp, h.accepted, h.ceiling_eq, h.accepted_le, h.ceiling_le, fun _ => rfl⟩, rfl, nofun⟩
  · exact ⟨⟨h.nodup, h.seen, h.accepted, h.ceiling_eq, h.accepted_le, h.ceiling_le, fun _ => rfl⟩, rfl,
      fun _ => rfl⟩

lemma tracks_drawNonce (h : Tracks c g nonces) (hlt : g.accepted < c) (ha : g.allocatedCapacity.isSome) :
    Tracks c (drawNonce fillBytes g).1 (nonces ++ (drawNonce fillBytes g).2.toOption.toList) := by
  have hkeep (source : ρ) : Tracks c { g with source } (nonces ++ []) := by
    rw [List.append_nil]
    exact ⟨h.nodup, h.seen, h.accepted, h.ceiling_eq, h.accepted_le, h.ceiling_le, h.unallocated⟩
  rw [drawNonce]
  split
  · exact hkeep _
  rename_i nonce source _
  split
  · exact hkeep source
  rename_i hfresh
  have hmax : maxEncryptionsPerKeyV1 + 1 < 2 ^ 64 := by decide
  have hle := h.ceiling_le
  have hadd : checkedAdd g.accepted 1 = some (g.accepted + 1) := checkedAdd_eq_some.mpr ⟨by omega, rfl⟩
  rw [hadd]
  have hnew : nonce ∉ nonces := fun hmem => hfresh ((h.seen nonce).mpr hmem)
  refine ⟨?_, fun x => ?_, ?_, h.ceiling_eq, hlt, h.ceiling_le, fun hn => ?_⟩
  · exact h.nodup.append (List.nodup_singleton nonce) (List.disjoint_singleton.mpr hnew)
  · simp only [Finset.mem_insert, h.seen x, List.mem_append, Except.toOption, Option.toList_some,
      List.mem_singleton]
    exact or_comm
  · simp [h.accepted, Except.toOption]
  · rw [hn] at ha
    cases ha

lemma tracks_generate (h : Tracks c g nonces) :
    Tracks c (generate fillBytes g reserved).1 (nonces ++ (generate fillBytes g reserved).2.toOption.toList) := by
  have hsame {g' : NonceGenerator ρ} (h' : Tracks c g' nonces) : Tracks c g' (nonces ++ []) := by
    rwa [List.append_nil]
  rw [generate]
  split
  · exact hsame h
  rename_i hlt
  obtain ⟨ht, hacc, hsome⟩ := tracks_reserveTracker h
  split
  next e heq =>
    rw [heq] at ht
    exact hsame ht
  rename_i g' heq
  rw [heq] at ht hacc hsome
  have hroom : g'.accepted < c := by
    rw [hacc, ← h.ceiling_eq]
    exact Nat.lt_of_not_le hlt
  exact tracks_drawNonce ht hroom (hsome rfl)

lemma returned_concat (past : List (Option ℕ × Except StorageError GcmNonce)) (reserved : Option ℕ)
    (result : Except StorageError GcmNonce) :
    returned (past ++ [(reserved, result)]) = returned past ++ result.toOption.toList := by
  rw [returned, List.filterMap_append]
  cases result <;> rfl

lemma tracks_run (fillBytes : RandomSource ρ) (h : Tracks c g []) (calls : List (Option ℕ)) :
    Tracks c (final (generate fillBytes) g calls) (returned (trace (generate fillBytes) g calls)) := by
  refine @history_invariant _ _ _ _ (fun g past => Tracks c g (returned past))
    (fun g past reserved hpast => ?_) g h calls
  rw [returned_concat]
  exact tracks_generate hpast

lemma tracks_new {source : ρ} {ceiling : ℕ}
    (hg : g = fromSource source ∨ fromSourceWithCeiling source ceiling = .ok g) : Tracks g.ceiling g [] := by
  have hfresh {c : ℕ} (hc : c ≤ maxEncryptionsPerKeyV1) :
      Tracks c (⟨source, ∅, 0, c, none⟩ : NonceGenerator ρ) [] :=
    ⟨List.nodup_nil, by simp, rfl, rfl, Nat.zero_le c, hc, fun _ => rfl⟩
  rcases hg with rfl | hg
  · exact hfresh le_rfl
  rw [fromSourceWithCeiling] at hg
  split at hg
  · cases hg
  next hc =>
    cases hg
    exact hfresh (Nat.le_of_not_lt fun hlt => hc (.inr hlt))

theorem nonces_never_repeat (fillBytes : RandomSource ρ) (source : ρ) (ceiling : ℕ) (g : NonceGenerator ρ)
    (hg : g = fromSource source ∨ fromSourceWithCeiling source ceiling = .ok g) (calls : List (Option ℕ)) :
    (returned (trace (generate fillBytes) g calls)).Nodup ∧
    (returned (trace (generate fillBytes) g calls)).length = (final (generate fillBytes) g calls).accepted ∧
    (final (generate fillBytes) g calls).accepted ≤ g.ceiling ∧
    ∀ front call back, trace (generate fillBytes) g calls = front ++ call :: back →
      ((∃ e, call.2 = .error e) → ∀ nonce ∈ returned back, nonce ∉ returned front) ∧
      ((returned front).length = g.ceiling → ∀ later ∈ call :: back,
        later.2 = .error .nonceWriteLimitExceeded) := by
  have hnew := tracks_new hg
  have hrun := tracks_run fillBytes hnew calls
  refine ⟨hrun.nodup, hrun.accepted.symm, hrun.accepted_le, fun front call back hsplit =>
    ⟨fun _ => ?_, fun hfull => ?_⟩⟩
  · have hnodup := hrun.nodup
    rw [hsplit, returned, List.filterMap_append, List.nodup_append'] at hnodup
    intro nonce hback hfront
    refine hnodup.2.2 hfront ?_
    obtain ⟨x, hx, hn⟩ := List.mem_filterMap.mp hback
    exact List.mem_filterMap.mpr ⟨x, List.mem_cons_of_mem call hx, hn⟩
  · -- every later call meets a state that has accepted at least as many nonces
    intro later hlater
    obtain ⟨before, after, hmid⟩ := List.append_of_mem hlater
    rw [hmid, ← List.append_assoc] at hsplit
    obtain ⟨hpast, hresult, -⟩ := trace_split hsplit
    have hstate := tracks_run fillBytes hnew ((front ++ before).map Prod.fst)
    rw [← hpast] at hstate
    have hlen : g.ceiling ≤ (returned (front ++ before)).length := by
      rw [returned, List.filterMap_append, List.length_append]
      exact hfull ▸ Nat.le_add_right _ _
    rw [hresult, generate, if_pos (by rw [hstate.ceiling_eq, hstate.accepted]; exact hlen)]

def stutteringSource : RandomSource ℕ := fun n => (.ok (.filled 12 (UInt8.ofNat (n / 2))), n + 1)

theorem nonces_never_repeat_stuttering :
    ∃ g, fromSourceWithCeiling 0 2 = .ok g ∧
      (trace (generate stutteringSource) g (List.replicate 4 (some 2))).map Prod.snd =
        [.ok (.filled 12 0), .error .duplicateNonce, .ok (.filled 12 1),
          .error .nonceWriteLimitExceeded] ∧
      (returned (trace (generate stutteringSource) g (List.replicate 4 (some 2)))).Nodup :=
  ⟨_, rfl, by decide, (nonces_never_repeat stutteringSource 0 2 _ (.inr rfl) _).1⟩

end Howy.Storage.Nonces
