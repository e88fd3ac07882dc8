import Howy.Prompt.ActiveMoves
import Howy.Prompt.PendingMoves

/-! Which slots every critical section of the manager frees and fills. -/

namespace Howy.Prompt

open Library
open Daemon.Access (CanonicalIdentity)

structure Keeps (s s' : ManagerState) : Prop where
  terminal : s'.terminal = s.terminal
  instanceSecret : s'.instanceSecret = s.instanceSecret
  issuanceCounter : s.issuanceCounter ≤ s'.issuanceCounter

lemma Keeps.refl (s : ManagerState) : Keeps s s := ⟨rfl, rfl, le_rfl⟩

lemma Keeps.trans {s s' s'' : ManagerState} (h : Keeps s s') (h' : Keeps s' s'') : Keeps s s'' :=
  ⟨h'.terminal.trans h.terminal, h'.instanceSecret.trans h.instanceSecret,
    h.issuanceCounter.trans h'.issuanceCounter⟩

structure Effect (m : ManagerInner) (s s' : ManagerState) (freed filled : Option Slot) : Prop where
  moves : Moves m (tablesOf s) (tablesOf s') freed filled
  keeps : Keeps s s'

structure IsFresh (sha256 : Sha256) (s s' : ManagerState) (fresh : FreshToken) : Prop where
  lookup_eq : fresh.lookup = sha256 (tokenLookupInput s.instanceSecret fresh.token)
  token_eq : fresh.token = sha256 fresh.input
  input_eq : ∃ random, fresh.input = deriveTokenInput s.instanceSecret s'.issuanceCounter random
  counter_lt : s.issuanceCounter < s'.issuanceCounter
  counter_bound : s'.issuanceCounter < 2 ^ 64
  not_pending : s.pending.lookup fresh.lookup = none
  not_active : ∀ id a, s.active.lookup id = some a → a.tokenLookup ≠ fresh.lookup

lemma generateTokenLoop_spec (sha256 : Sha256) (n : ℕ) (s : ManagerState) :
    tablesOf (generateTokenLoop sha256 n s).2 = tablesOf s ∧ Keeps s (generateTokenLoop sha256 n s).2 ∧
      ∀ fresh, (generateTokenLoop sha256 n s).1 = .ok fresh →
        IsFresh sha256 s (generateTokenLoop sha256 n s).2 fresh := by
  induction n generalizing s with
  | zero => exact ⟨rfl, Keeps.refl s, fun fresh h => by cases h⟩
  | succ n ih =>
    rw [generateTokenLoop]
    split
    · exact ⟨rfl, Keeps.refl s, fun fresh h => by cases h⟩
    rename_i hlt
    -- every later attempt starts from the state with the counter advanced
    have hnext : ∀ e : Entropy, Keeps s { s with issuanceCounter := s.issuanceCounter + 1, entropy := e } :=
      fun e => ⟨rfl, rfl, Nat.le_succ _⟩
    have hretry : ∀ e : Entropy, let s' := { s with issuanceCounter := s.issuanceCounter + 1, entropy := e }
        tablesOf (generateTokenLoop sha256 n s').2 = tablesOf s ∧ Keeps s (generateTokenLoop sha256 n s').2 ∧
          ∀ fresh, (generateTokenLoop sha256 n s').1 = .ok fresh →
            IsFresh sha256 s (generateTokenLoop sha256 n s').2 fresh := by
      intro e s'
      obtain ⟨ht, hk, hf⟩ := ih s'
      refine ⟨ht, (hnext e).trans hk, fun fresh h => ?_⟩
      exact { hf fresh h with counter_lt := (Nat.lt_succ_self _).trans (hf fresh h).counter_lt }
    obtain ⟨random, entropy⟩ := generateNonzero s.entropy
    cases random with
    | none => exact ⟨rfl, hnext entropy, fun fresh h => by cases h⟩
    | some random =>
      simp only
      split
      · exact hretry entropy
      split
      next hfree =>
        refine ⟨rfl, hnext entropy, fun fresh h => ?_⟩
        cases h
        refine ⟨rfl, rfl, ⟨random, rfl⟩, Nat.lt_succ_self _, Nat.lt_of_not_le hlt,
          AList.lookup_eq_none.mpr hfree.1, fun id a ha he => hfree.2 ?_⟩
        exact List.any_eq_true.mpr ⟨a, mem_values.mpr ⟨id, ha⟩, constantTimeEq_iff.mpr he⟩
      · exact hretry entropy

variable {m : ManagerInner} {s s' : ManagerState} {c l : BindingDigest} {now : Instant} {token : PromptToken}
  {target : CanonicalIdentity} {connection : UInt64} {nonce : PromptNonce} {uid targetUid peerUid : UInt32}

lemma reserveBegin_ok (hs : Sound m (tablesOf s))
    (h : reserveBegin m s connection uid target = (.ok c, s')) : Effect m s s' none (some (.provisional c)) := by
  rw [reserveBegin] at h
  split at h
  · cases h
  rename_i hfree
  simp only [not_or, not_le] at hfree
  cases h
  exact ⟨moves_insertProvisional hs hfree.1 hfree.2.1 hfree.2.2.1 hfree.2.2.2, ⟨rfl, rfl, le_rfl⟩⟩

lemma reserveBegin_error {e : PromptStateError}
    (h : reserveBegin m s connection uid target = (.error e, s')) : s' = s := by
  rw [reserveBegin] at h
  split at h
  · cases h
    rfl
  · cases h

lemma effect_removeProvisional (hs : Sound m (tablesOf s)) (c : BindingDigest) :
    Effect m s (removeProvisional s c) (some (.provisional c)) none :=
  ⟨moves_eraseProvisional hs, ⟨rfl, rfl, le_rfl⟩⟩

def pendingOf (m : ManagerInner) (secret : InstanceSecret) (c : BindingDigest) (binding : PendingBinding) :
    PendingRecord where
  connectionBinding := c
  peerUid := binding.peerUid
  target := binding.target
  nonceBinding := m.sha256 (nonceInput secret binding.clientNonce)
  pamService := binding.pamService
  origin := binding.origin
  snapshot := binding.snapshot
  expiresAt := none
  shutdownWaker := none

lemma issueReserved_cases (hs : Sound m (tablesOf s)) {binding : PendingBinding} :
    (∃ e, (issueReserved m s c binding).1 = .error e ∧
      Effect m s (issueReserved m s c binding).2 (some (.provisional c)) none ∧
      (issueReserved m s c binding).2.pending = s.pending) ∨
    ∃ fresh s', issueReserved m s c binding = (.ok fresh, s') ∧
      Effect m s s' (some (.provisional c)) (some (.pending c fresh.lookup)) ∧
      IsFresh m.sha256 s s' fresh ∧ c = connectionBinding m.sha256 s.instanceSecret binding.connection ∧
      s'.pending = s.pending.insert fresh.lookup (pendingOf m s.instanceSecret c binding) ∧
      s'.active = s.active := by
  rw [issueReserved]
  split
  · exact .inl ⟨_, rfl, effect_removeProvisional hs c, rfl⟩
  rename_i hc
  rw [not_not, constantTimeEq_iff] at hc
  split
  next hnone =>
    refine .inl ⟨_, rfl, ?_, rfl⟩
    have he := effect_removeProvisional hs c
    rwa [removeProvisional, erase_of_lookup_eq_none hnone] at he
  rename_i hp
  have he := effect_removeProvisional hs c
  split
  · exact .inl ⟨_, rfl, he, rfl⟩
  rename_i hbound
  simp only [not_or, not_not] at hbound
  obtain ⟨ht, hk, hf⟩ := generateTokenLoop_spec m.sha256 entropyAttempts (removeProvisional s c)
  rw [← generateToken] at ht hk hf
  dsimp only
  generalize generateToken m.sha256 (removeProvisional s c) = outcome at ht hk hf
  obtain ⟨r, s1⟩ := outcome
  cases r with
  | error e =>
    refine .inl ⟨e, rfl, ⟨?_, he.keeps.trans hk⟩, congrArg Tables.pending ht⟩
    rw [ht]
    exact he.moves
  | ok fresh =>
    have hfresh := { hf fresh rfl with }
    have hprov : s1.provisional = s.provisional.erase c := congrArg Tables.provisional ht
    have hpend : s1.pending = s.pending := congrArg Tables.pending ht
    have hby : s1.pendingByConnection = s.pendingByConnection := congrArg Tables.pendingByConnection ht
    have hact : s1.active = s.active := congrArg Tables.active ht
    have hnext : s1.nextActive = s.nextActive := congrArg Tables.nextActive ht
    have hsecret : s1.instanceSecret = s.instanceSecret := hk.instanceSecret
    refine .inr ⟨fresh, _, rfl, ⟨?_, he.keeps.trans ⟨hk.terminal, hk.instanceSecret, hk.issuanceCounter⟩⟩,
      { hfresh with }, hc, ?_, hact⟩
    · have hm := moves_issue hs hp (r := pendingOf m s.instanceSecret c binding) rfl hbound.1.symm
        hfresh.not_pending hfresh.not_active
      simp only [hprov, hpend, hby, hact, hnext, hsecret, hbound.2]
      exact hm
    · simp only [hpend, hsecret, hbound.2]
      rfl

lemma effect_removePending (hs : Sound m (tablesOf s)) (hc : s.pendingByConnection.lookup c = some l) :
    Effect m s (removePending s c l).2 (some (.pending c l)) none := by
  refine ⟨?_, ⟨rfl, rfl, le_rfl⟩⟩
  simp only [removePending, hc]
  exact moves_removePending hs hc

lemma takePending_eq (hs : Sound m (tablesOf s)) (hc : s.pendingByConnection.lookup c = some l) :
    ∃ r, s.pending.lookup l = some r ∧ r.connectionBinding = c ∧ takePending m s c l token =
      (if m.sha256 (tokenLookupInput s.instanceSecret token) = l then .ok r else .error .invalid,
        (removePending s c l).2) := by
  obtain ⟨r, hl, hr⟩ := (hs.bijection c l).mp hc
  refine ⟨r, hl, hr, ?_⟩
  have hl' : (removePending s c l).1 = some r := hl
  by_cases ht : m.sha256 (tokenLookupInput s.instanceSecret token) = l
  · have hcond : ¬ (s.pendingByConnection.lookup c ≠ some l ∨
        ¬ constantTimeEq (m.sha256 (tokenLookupInput s.instanceSecret token)) l) := by
      simp [hc, constantTimeEq_iff.mpr ht]
    rw [takePending, if_neg hcond, if_pos ht]
    generalize removePending s c l = taken at hl' ⊢
    obtain ⟨record, s'⟩ := taken
    simp only at hl'
    rw [hl']
  · have hcond : s.pendingByConnection.lookup c ≠ some l ∨
        ¬ constantTimeEq (m.sha256 (tokenLookupInput s.instanceSecret token)) l :=
      .inr fun h => ht (constantTimeEq_iff.mp h)
    rw [takePending, if_pos hcond, if_neg ht, hc]

structure ClaimChecked (m : ManagerInner) (s : ManagerState) (c l : BindingDigest) (token : PromptToken)
    (nonce : PromptNonce) (peerUid targetUid : UInt32) (now : Instant) (r : PendingRecord) : Prop where
  lookup : s.pending.lookup l = some r
  connection : r.connectionBinding = c
  token : m.sha256 (tokenLookupInput s.instanceSecret token) = l
  peerUid : r.peerUid = peerUid
  targetUid : r.target.uid = targetUid
  nonce : r.nonceBinding = m.sha256 (nonceInput s.instanceSecret nonce)
  expiry : ∃ expiry, r.expiresAt = some expiry ∧ now < expiry

lemma expiryOk_iff {r : PendingRecord} :
    expiryOk r now ↔ ∃ expiry, r.expiresAt = some expiry ∧ now < expiry := by
  simp [expiryOk, Option.any_eq_true]

section

variable (hs : Sound m (tablesOf s)) (hc : s.pendingByConnection.lookup c = some l)

include hs hc

lemma claimCommit_cases : (∃ e, (claimCommit m s c l token nonce peerUid targetUid now).1 = .error e ∧
      Effect m s (claimCommit m s c l token nonce peerUid targetUid now).2 (some (.pending c l)) none ∧
      (claimCommit m s c l token nonce peerUid targetUid now).2.pending = s.pending.erase l) ∨
    ∃ r control s', claimCommit m s c l token nonce peerUid targetUid now =
        (.ok (⟨s.nextActive, r.peerUid, r.target, r.pamService, r.origin, r.snapshot⟩, control), s') ∧
      Effect m s s' (some (.pending c l)) (some (.claim s.nextActive)) ∧
      ClaimChecked m s c l token nonce peerUid targetUid now r ∧ control.cancelled = false ∧
      s'.pending = s.pending.erase l := by
  obtain ⟨r, hl, hr, htake⟩ := takePending_eq hs hc
  have he := effect_removePending hs hc
  rw [claimCommit, htake]
  by_cases ht : m.sha256 (tokenLookupInput s.instanceSecret token) = l
  · rw [if_pos ht]
    simp only
    split
    · exact .inl ⟨_, rfl, he, rfl⟩
    rename_i hchecks
    simp only [not_or, not_not, constantTimeEq_iff, expiryOk_iff] at hchecks
    obtain ⟨-, hpeer, htarget, hnonce, hexpiry⟩ := hchecks
    split
    · exact .inl ⟨_, rfl, he, rfl⟩
    rename_i hmax
    split
    · exact .inl ⟨_, rfl, he, rfl⟩
    have hbump := sound_bump he.moves.sound (Nat.le_succ _)
    split
    · have hfill := moves_insertClaim he.moves.sound (AList.lookup_erase _ _)
        (fun id a ha => hs.pending_ne_active l r id a hl ha) (Nat.lt_of_not_le hmax)
      refine .inr ⟨r, _, _, rfl, ⟨he.moves.trans_fill hfill ?_, ⟨rfl, rfl, le_rfl⟩⟩,
        ⟨hl, hr, ht, hpeer, htarget, hnonce, hexpiry⟩, rfl, rfl⟩
      rintro _ ⟨⟩ ⟨k, hk⟩
      exact absurd (hs.active_lt _ _ hk) (Nat.lt_irrefl _)
    · exact .inl ⟨_, rfl, ⟨⟨hbump, he.moves.free, he.moves.occupied⟩, ⟨rfl, rfl, le_rfl⟩⟩, rfl⟩
  · rw [if_neg ht]
    exact .inl ⟨_, rfl, he, rfl⟩

lemma cancelPending_effect :
    Effect m s (cancelPending m s c l token nonce peerUid targetUid now).2 (some (.pending c l)) none ∧
      (cancelPending m s c l token nonce peerUid targetUid now).2.pending = s.pending.erase l ∧
      ((cancelPending m s c l token nonce peerUid targetUid now).1 = .ok () →
        ∃ r, ClaimChecked m s c l token nonce peerUid targetUid now r) := by
  obtain ⟨r, hl, hr, htake⟩ := takePending_eq hs hc
  have he := effect_removePending hs hc
  rw [cancelPending, htake]
  by_cases ht : m.sha256 (tokenLookupInput s.instanceSecret token) = l
  · rw [if_pos ht]
    simp only
    split
    next hchecks =>
      rw [constantTimeEq_iff, expiryOk_iff] at hchecks
      obtain ⟨hpeer, htarget, hnonce, hexpiry⟩ := hchecks
      exact ⟨he, rfl, fun _ => ⟨r, hl, hr, ht, hpeer, htarget, hnonce, hexpiry⟩⟩
    · exact ⟨he, rfl, fun h => by cases h⟩
  · rw [if_neg ht]
    exact ⟨he, rfl, fun h => by cases h⟩

lemma activatePending_cases
    {deadline : Instant} {waker : Option ℕ} : Effect m s (activatePending s c l deadline waker).2 none none ∧
      ∃ r waker', s.pending.lookup l = some r ∧
        (activatePending s c l deadline waker).2.pending =
          s.pending.insert l { r with expiresAt := some deadline, shutdownWaker := waker' } ∧
        (r.expiresAt = none → (activatePending s c l deadline waker).1 = .ok deadline) := by
  obtain ⟨r, hl, hr⟩ := (hs.bijection c l).mp hc
  rw [activatePending, if_neg (not_not.mpr hc), show s.pending.lookup l = some r from hl]
  simp only
  split
  next hsome =>
    refine ⟨⟨moves_updatePending hs hl rfl rfl, ⟨rfl, rfl, le_rfl⟩⟩, r, r.shutdownWaker, rfl, rfl, ?_⟩
    intro hnone
    rw [hnone] at hsome
    cases hsome
  · exact ⟨⟨moves_updatePending hs hl rfl rfl, ⟨rfl, rfl, le_rfl⟩⟩, r, waker, rfl, rfl, fun _ => rfl⟩

end

structure PromotionChecked (control : Option ActiveControl) (expected : CommitClaim) (binding : CommitBinding)
    (now : Instant) : Prop where
  control : ∃ c, control = some c ∧ c.cancelled = false ∧ now < c.deadline
  peerUid : expected.peerUid = binding.peerUid
  target : expected.target = binding.target
  pamService : expected.pamService = binding.pamService
  origin : expected.origin = binding.origin
  snapshot : expected.snapshot = binding.snapshot

lemma promoteClaim_cases (hs : Sound m (tablesOf s)) {expected : CommitClaim} {k : BindingDigest}
    (hid : s.active.lookup expected.activeId = some (.claim k)) {control : Option ActiveControl}
    {binding : CommitBinding} : (∃ e, promoteClaim s control expected binding now =
      (.error e, { s with active := s.active.erase expected.activeId })) ∨
    ∃ s', promoteClaim s control expected binding now = (.ok (), s') ∧
      Effect m s s' (some (.claim expected.activeId)) (some (.lease expected.activeId)) ∧
      PromotionChecked control expected binding now ∧ s'.pending = s.pending := by
  simp only [promoteClaim, hid]
  cases control with
  | none => exact .inl ⟨.invalid, by simp⟩
  | some c =>
    simp only
    split
    · exact .inl ⟨_, rfl⟩
    rename_i hvalid
    simp only [Bool.and_eq_true, not_not, Bool.not_eq_true', decide_eq_true_eq, beq_iff_eq,
      SecuritySnapshot.constantTimeEq_iff] at hvalid
    obtain ⟨⟨⟨⟨⟨⟨hcancelled, hnow⟩, hpeer⟩, htarget⟩, hservice⟩, horigin⟩, hsnapshot⟩ := hvalid
    exact .inr ⟨_, rfl, ⟨moves_promote hs hid, ⟨rfl, rfl, le_rfl⟩⟩,
      ⟨⟨c, rfl, hcancelled, hnow⟩, hpeer, htarget, hservice, horigin, hsnapshot⟩, rfl⟩

end Howy.Prompt
