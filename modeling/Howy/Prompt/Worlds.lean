import Howy.Prompt.Sections

namespace Howy.Prompt

open Library

structure Empty (s : ManagerState) : Prop where
  provisional : s.provisional = ∅
  pending : s.pending = ∅
  pendingByConnection : s.pendingByConnection = ∅
  active : s.active = ∅

structure Invariant (m : ManagerInner) (w : World) : Prop where
  sound : Sound m (tablesOf w.state)
  owned : w.state.terminal = false → Owned slotOf w.handles (Occupied (tablesOf w.state))
  closed : w.state.terminal = true → Empty w.state
  fresh : ∀ h x, w.handles.lookup h = some x → h < w.nextHandle

lemma sound_of_empty {m : ManagerInner} {s : ManagerState} (h : Empty s) : Sound m (tablesOf s) := by
  obtain ⟨hp, hq, hb, ha⟩ := h
  constructor <;> simp [tablesOf, hp, hq, hb, ha, size, countValues]

variable {m : ManagerInner} {w w' : World} {x : Handle}

lemma invariant_of_terminal (ht : w.state.terminal) (he : Empty w.state)
    (hf : ∀ h x, w.handles.lookup h = some x → h < w.nextHandle) : Invariant m w where
  sound := sound_of_empty he
  owned h := by
    rw [ht] at h
    cases h
  closed _ := he
  fresh := hf

lemma empty_failClosed : Empty (failClosed w).state := ⟨rfl, rfl, rfl, rfl⟩

section

variable (h : ∀ h x, w.handles.lookup h = some x → h < w.nextHandle)

include h

lemma fresh_consume {k : ℕ} : ∀ h x, (consume w k).handles.lookup h = some x → h < (consume w k).nextHandle := by
  intro h' x hx
  exact h h' x (lookup_of_erase hx).1

lemma lookup_nextHandle : w.handles.lookup w.nextHandle = none := by
  cases hl : w.handles.lookup w.nextHandle with
  | none => rfl
  | some x => exact absurd (h _ x hl) (Nat.lt_irrefl _)

lemma fresh_addHandle : ∀ h y, (addHandle w x).handles.lookup h = some y → h < (addHandle w x).nextHandle := by
  intro k y hy
  rw [addHandle, lookup_insert_eq] at hy
  simp only [addHandle]
  split at hy
  · omega
  · have := h k y hy
    omega

end

lemma locked_cases {α : Type} (f : ManagerState → Outcome α) :
    (w.poisoned ∧ locked w f = (.error .unavailable, failClosed w)) ∨
    (w.poisoned = false ∧ w.state.terminal ∧ locked w f = (.error .unavailable, w)) ∨
    (w.poisoned = false ∧ w.state.terminal = false ∧
      locked w f = ((f w.state).1, { w with state := (f w.state).2 })) := by
  unfold locked
  cases hp : w.poisoned with
  | true => exact .inl ⟨rfl, by simp⟩
  | false =>
    cases ht : w.state.terminal with
    | true => exact .inr (.inl ⟨rfl, rfl, by simp⟩)
    | false => exact .inr (.inr ⟨rfl, rfl, by simp⟩)

lemma cancelControl_eq {id : ℕ} : ∃ controls, cancelControl w id = { w with controls := controls } := by
  unfold cancelControl
  split
  · exact ⟨_, rfl⟩
  · exact ⟨w.controls, rfl⟩

lemma foldl_cancelControl_eq {ids : List ℕ} (w : World) :
    ∃ controls, ids.foldl cancelControl w = { w with controls := controls } := by
  induction ids generalizing w with
  | nil => exact ⟨w.controls, rfl⟩
  | cons id ids ih =>
    obtain ⟨controls, hc⟩ := cancelControl_eq
    obtain ⟨controls', hc'⟩ := ih { w with controls := controls }
    exact ⟨controls', by rw [List.foldl_cons, hc, hc']⟩

lemma failClosed_state (ht : w.state.terminal) (he : Empty w.state) : (failClosed w).state = w.state := by
  obtain ⟨hp, hq, hb, ha⟩ := he
  simp [failClosed, failClosedLocked, ← ht, ← hp, ← hq, ← hb, ← ha]

lemma lookup_of_issue_handle (hw : Invariant m w) (ht : w.state.terminal = false) {h : ℕ} {c l : BindingDigest}
    {token : PromptToken} (hx : w.handles.lookup h = some (.issue c l token)) :
    w.state.pendingByConnection.lookup c = some l := (hw.sound.bijection c l).mpr ((hw.owned ht).live h _ hx)

lemma invariant_of_same (hw : Invariant m w) (hs : w'.state = w.state) (hh : w'.handles = w.handles)
    (hn : w'.nextHandle = w.nextHandle) : Invariant m w' := by
  obtain ⟨h1, h2, h3, h4⟩ := hw
  exact ⟨hs ▸ h1, by rw [hs, hh]; exact h2, by rw [hs]; exact h3, by rw [hh, hn]; exact h4⟩

variable {s' : ManagerState} (hw : Invariant m w) (ht : w.state.terminal = false)

include hw ht

lemma invariant_keep (he : Effect m w.state s' none none) (hs : w'.state = s')
    (hh : w'.handles = w.handles) (hn : w'.nextHandle = w.nextHandle) : Invariant m w' where
  sound := hs ▸ he.moves.sound
  owned _ := by
    rw [hs, hh]
    exact (hw.owned ht).congr fun x => by rw [he.moves.occupied]; simp
  closed h := by
    rw [hs, he.keeps.terminal, ht] at h
    cases h
  fresh := by
    rw [hh, hn]
    exact hw.fresh

lemma invariant_add (he : Effect m w.state s' none (some (slotOf x))) (hs : w'.state = s')
    (hh : w'.handles = w.handles.insert w.nextHandle x) (hn : w'.nextHandle = w.nextHandle + 1) :
    Invariant m w' where
  sound := hs ▸ he.moves.sound
  owned _ := by
    rw [hs, hh]
    refine (hw.owned ht).insert (lookup_nextHandle hw.fresh) (he.moves.free _ rfl) fun y => ?_
    rw [he.moves.occupied]
    simp
  closed h := by
    rw [hs, he.keeps.terminal, ht] at h
    cases h
  fresh := by
    rw [hh, hn]
    exact fresh_addHandle hw.fresh

lemma invariant_drop {h : ℕ} (hx : w.handles.lookup h = some x)
    (he : Effect m w.state s' (some (slotOf x)) none) (hs : w'.state = s')
    (hh : w'.handles = w.handles.erase h) (hn : w'.nextHandle = w.nextHandle) : Invariant m w' where
  sound := hs ▸ he.moves.sound
  owned _ := by
    rw [hs, hh]
    refine (hw.owned ht).erase hx fun y => ?_
    rw [he.moves.occupied]
    simp
  closed h := by
    rw [hs, he.keeps.terminal, ht] at h
    cases h
  fresh := by
    rw [hh, hn]
    exact fresh_consume hw.fresh

lemma invariant_swap {h : ℕ} {y : Handle} (hx : w.handles.lookup h = some x)
    (he : Effect m w.state s' (some (slotOf x)) (some (slotOf y))) (hs : w'.state = s')
    (hh : w'.handles = (w.handles.erase h).insert w.nextHandle y) (hn : w'.nextHandle = w.nextHandle + 1) :
    Invariant m w' where
  sound := hs ▸ he.moves.sound
  owned _ := by
    rw [hs, hh]
    have hmid : Owned slotOf (w.handles.erase h) fun z => Occupied (tablesOf w.state) z ∧ z ≠ slotOf x :=
      (hw.owned ht).erase hx fun _ => Iff.rfl
    refine hmid.insert (lookup_nextHandle (fresh_consume hw.fresh))
      (fun hz => he.moves.free _ rfl hz.1) fun z => ?_
    rw [he.moves.occupied]
    simp
  closed h := by
    rw [hs, he.keeps.terminal, ht] at h
    cases h
  fresh := by
    rw [hh, hn]
    exact fresh_addHandle (fresh_consume hw.fresh)

end Howy.Prompt
