import Howy.Prompt.Answers

namespace Howy.Prompt

open Library

def Covered (w : World) : Prop :=
  ∀ id c, w.controls.lookup id = some c →
    c.cancelled = true ∨ id ∈ w.state.active ∨ ∃ k ∈ w.cleanups, id ∈ k.controls

variable {m : ManagerInner} {w w' : World}

lemma covered_failClosed (hw : Covered w) : Covered (failClosed w) := by
  intro id c hid
  refine (hw id c hid).imp_right ?_
  rintro (ha | ⟨k, hk, hid⟩)
  · exact .inr ⟨_, List.mem_append_right _ List.mem_cons_self, AList.mem_keys.mp ha⟩
  · exact .inr ⟨k, List.mem_append_left _ hk, hid⟩

lemma lookup_cancelControl (w : World) (id j : ℕ) : (cancelControl w id).controls.lookup j =
      if j = id then (w.controls.lookup id).map (fun c => { c with cancelled := true }) else
      w.controls.lookup j := by
  unfold cancelControl
  by_cases hj : j = id
  · subst hj
    rw [if_pos rfl]
    split
    next hc =>
      rw [AList.lookup_insert, hc]
      rfl
    next hc =>
      rw [hc]
      rfl
  · rw [if_neg hj]
    split
    · rw [AList.lookup_insert_ne hj]
    · rfl

lemma covered_cancelControl {id : ℕ} (hw : ∀ j c, j ≠ id → w.controls.lookup j = some c →
      c.cancelled ∨ j ∈ w.state.active ∨ ∃ k ∈ w.cleanups, j ∈ k.controls) : Covered (cancelControl w id) := by
  intro j c hj
  rw [lookup_cancelControl] at hj
  obtain ⟨controls, hc⟩ := cancelControl_eq
  split at hj
  · obtain ⟨c', -, rfl⟩ := Option.map_eq_some_iff.mp hj
    exact .inl rfl
  next hne =>
    rw [hc]
    exact hw j c hne hj

lemma lookup_foldl_cancelControl (ids : List ℕ) (w : World) (j : ℕ) :
    (ids.foldl cancelControl w).controls.lookup j =
      (w.controls.lookup j).map (fun c => if j ∈ ids then { c with cancelled := true } else c) := by
  induction ids generalizing w with
  | nil => simp
  | cons id ids ih =>
    rw [List.foldl_cons, ih, lookup_cancelControl]
    by_cases hj : j = id
    · subst hj
      rw [if_pos rfl, Option.map_map]
      congr 1
      funext c
      simp
    · simp [hj]

lemma covered_runCleanup {k : FailClosedCleanup} {rest : List FailClosedCleanup} (hw : Covered w)
    (hk : w.cleanups = k :: rest) : Covered (runCleanup { w with cleanups := rest } k) := by
  intro j c hj
  rw [runCleanup, lookup_foldl_cancelControl] at hj
  obtain ⟨c', hc', rfl⟩ := Option.map_eq_some_iff.mp hj
  obtain ⟨controls, hcontrols⟩ := foldl_cancelControl_eq
    { w with cleanups := rest, shutStreams := w.shutStreams ++ k.shutdownWakers }
  rw [runCleanup, hcontrols]
  by_cases hmem : j ∈ k.controls
  · rw [if_pos hmem]
    exact .inl rfl
  rw [if_neg hmem]
  refine (hw j c' hc').imp_right (Or.imp_right ?_)
  rintro ⟨k', hk', hjk⟩
  rw [hk, List.mem_cons] at hk'
  rcases hk' with rfl | hk'
  · exact absurd hjk hmem
  · exact ⟨k', hk', hjk⟩

lemma active_of_effect {s s' : ManagerState} {freed filled : Option Slot} {q : ℕ → Prop}
    (he : Effect m s s' freed filled)
    (hfreed : ∀ id, freed = some (.claim id) ∨ freed = some (.lease id) → filled = some (.lease id) ∨ q id)
    (id : ℕ) (hid : id ∈ s.active) : id ∈ s'.active ∨ q id := by
  have hmem : ∀ x : Slot, x = .claim id ∨ x = .lease id → Occupied (tablesOf s') x → id ∈ s'.active := by
    rintro x (rfl | rfl) ⟨k, hk⟩ <;> exact mem_iff_lookup.mpr ⟨_, hk⟩
  have hkeep : ∀ x : Slot, x = .claim id ∨ x = .lease id → Occupied (tablesOf s) x → id ∈ s'.active ∨ q id := by
    intro x hx ho
    by_cases hf : freed = some x
    · refine (hfreed id (by rwa [hf, Option.some.injEq, Option.some.injEq])).imp_left fun hl => ?_
      exact hmem _ (.inr rfl) ((he.moves.occupied _).mpr (.inr hl.symm))
    · exact .inl (hmem x hx ((he.moves.occupied x).mpr (.inl ⟨ho, Ne.symm hf⟩)))
  obtain ⟨a, ha⟩ := mem_iff_lookup.mp hid
  cases a with
  | claim l => exact hkeep _ (.inl rfl) ⟨l, ha⟩
  | active l => exact hkeep _ (.inr rfl) ⟨l, ha⟩

end Howy.Prompt
