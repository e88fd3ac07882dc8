import Howy.Prompt.StepOutcomes

namespace Howy.Prompt.Accounting

open Library

variable {m : ManagerInner} {w : World}

lemma invariant_initial {entropy : Entropy} {secret : InstanceSecret} {counter : ℕ} :
    Invariant m (initial entropy secret counter) where
  sound := sound_of_empty ⟨rfl, rfl, rfl, rfl⟩
  owned _ := by
    refine ⟨?_, ?_, ?_⟩
    · intro x hx
      cases x with
      | provisional c | pending c l | claim id | lease id =>
        exact absurd hx (by simp [Occupied, initial, tablesOf])
    · intro h x hx
      exact absurd hx (by simp [initial])
    · intro h h' x x' hx
      exact absurd hx (by simp [initial])
  closed h := by cases h
  fresh h x hx := absurd hx (by simp [initial])

lemma invariant_reachable (m : ManagerInner) (entropy : Entropy) (secret : InstanceSecret) (counter : ℕ)
    (events : List Event) : Invariant m (reached m (initial entropy secret counter) events) := by
  have hstep : ∀ w e, Invariant m w → Invariant m (step m w e).1 := fun _ e h => invariant_step h e
  exact final_invariant hstep invariant_initial events

lemma not_occupied_of_empty {s : ManagerState} (h : Empty s) {x : Slot} : ¬ Occupied (tablesOf s) x := by
  cases x with
  | provisional c => simp [Occupied, tablesOf, h.provisional]
  | pending c l => simp [Occupied, tablesOf, h.pending]
  | claim id | lease id => simp [Occupied, tablesOf, h.active]

lemma exists_owner (hw : Invariant m w) {x : Slot} (hx : Occupied (tablesOf w.state) x) :
    ∃! h, ∃ y, w.handles.lookup h = some y ∧ slotOf y = x := by
  cases ht : w.state.terminal with
  | false => exact (hw.owned ht).existsUnique hx
  | true => exact absurd hx (not_occupied_of_empty (hw.closed ht))

lemma empty_of_no_handles (hw : Invariant m w) (hh : w.handles = ∅) : Empty w.state := by
  have hfree : ∀ x, ¬ Occupied (tablesOf w.state) x := by
    intro x hx
    obtain ⟨h, ⟨y, hy, -⟩, -⟩ := exists_owner hw hx
    rw [hh] at hy
    cases hy
  have hpending : ∀ l, w.state.pending.lookup l = none := by
    intro l
    cases h : w.state.pending.lookup l with
    | none => rfl
    | some r => exact absurd ⟨r, h, rfl⟩ (hfree (.pending r.connectionBinding l))
  refine ⟨?_, eq_empty_of_lookup hpending, ?_, ?_⟩
  · refine eq_empty_of_lookup fun c => ?_
    cases h : w.state.provisional.lookup c with
    | none => rfl
    | some p => exact absurd ⟨p, h⟩ (hfree (.provisional c))
  · refine eq_empty_of_lookup fun c => ?_
    cases h : w.state.pendingByConnection.lookup c with
    | none => rfl
    | some l =>
      obtain ⟨r, hr, -⟩ := (hw.sound.bijection c l).mp h
      have hnone := hpending l
      rw [show w.state.pending.lookup l = some r from hr] at hnone
      cases hnone
  · refine eq_empty_of_lookup fun id => ?_
    cases h : w.state.active.lookup id with
    | none => rfl
    | some a =>
      cases a with
      | claim l => exact absurd ⟨l, h⟩ (hfree (.claim id))
      | active l => exact absurd ⟨l, h⟩ (hfree (.lease id))

theorem prompt_manager_accounting (m : ManagerInner) (entropy : Entropy) (secret : InstanceSecret) (counter : ℕ)
    (events : List Event) :
    let w := reached m (initial entropy secret counter) events
    pendingTotal w.state ≤ m.maxPendingGlobal ∧
    (∀ uid, pendingForUid w.state uid ≤ m.maxPendingPerUid) ∧
    size w.state.active ≤ m.maxActive ∧
    (∀ c l, w.state.pendingByConnection.lookup c = some l →
      ∃ r, w.state.pending.lookup l = some r ∧ r.connectionBinding = c) ∧
    (∀ l r, w.state.pending.lookup l = some r → ∃! c, w.state.pendingByConnection.lookup c = some l) ∧
    (∀ c, ¬ (c ∈ w.state.provisional ∧ c ∈ w.state.pendingByConnection)) ∧
    (∀ l r id a, w.state.pending.lookup l = some r → w.state.active.lookup id = some a → a.tokenLookup ≠ l) ∧
    (∀ id id' a a', w.state.active.lookup id = some a → w.state.active.lookup id' = some a' →
      a.tokenLookup = a'.tokenLookup → id = id') ∧
    (∀ x, Occupied (tablesOf w.state) x → ∃! h, ∃ y, w.handles.lookup h = some y ∧ slotOf y = x) ∧
    (w.handles = ∅ → Empty w.state) := by
  intro w
  have hi := invariant_reachable m entropy secret counter events
  have hs := hi.sound
  refine ⟨hs.total_le, hs.forUid_le, hs.active_le, fun c l h => (hs.bijection c l).mp h, ?_, ?_,
    hs.pending_ne_active, hs.active_inj, fun x hx => exists_owner hi hx, empty_of_no_handles hi⟩
  · intro l r hr
    refine ⟨r.connectionBinding, (hs.bijection _ l).mpr ⟨r, hr, rfl⟩, fun c hc => ?_⟩
    obtain ⟨r', hr', rfl⟩ := (hs.bijection c l).mp hc
    have hrr := hr'.symm.trans hr
    rw [Option.some.inj hrr]
  · rintro c ⟨hp, hb⟩
    obtain ⟨p, hp⟩ := mem_iff_lookup.mp hp
    obtain ⟨l, hb⟩ := mem_iff_lookup.mp hb
    have hnone : w.state.pendingByConnection.lookup c = none := hs.provisional_free c p hp
    rw [hnone] at hb
    cases hb

end Howy.Prompt.Accounting
