import Howy.Library.Tables

/-! Slots of a resource that live handles own, one handle for every slot in use. -/

namespace Howy.Library

variable {H X S : Type} [DecidableEq H] {slotOf : X → S} {handles : Table H X} {occupied occupied' : S → Prop}

structure Owned (slotOf : X → S) (handles : Table H X) (occupied : S → Prop) : Prop where
  owner : ∀ s, occupied s → ∃ h x, handles.lookup h = some x ∧ slotOf x = s
  live : ∀ h x, handles.lookup h = some x → occupied (slotOf x)
  unique : ∀ h h' x x', handles.lookup h = some x → handles.lookup h' = some x' → slotOf x = slotOf x' → h = h'

namespace Owned

section

variable (ho : Owned slotOf handles occupied)

include ho

lemma congr (h : ∀ s, occupied' s ↔ occupied s) : Owned slotOf handles occupied' where
  owner s hs := ho.owner s ((h s).mp hs)
  live k x hx := (h _).mpr (ho.live k x hx)
  unique := ho.unique

lemma insert {k : H} {x : X} (hk : handles.lookup k = none)
    (hx : ¬ occupied (slotOf x)) (h : ∀ s, occupied' s ↔ occupied s ∨ s = slotOf x) :
    Owned slotOf (handles.insert k x) occupied' := by
  have hold : ∀ {l y}, handles.lookup l = some y → slotOf y ≠ slotOf x :=
    fun hy he => hx (he ▸ ho.live _ _ hy)
  refine ⟨?_, ?_, ?_⟩
  · intro s hs
    rcases (h s).mp hs with hs | rfl
    · obtain ⟨l, y, hy, rfl⟩ := ho.owner s hs
      have hne : l ≠ k := by
        rintro rfl
        rw [hk] at hy
        cases hy
      exact ⟨l, y, by rw [lookup_insert_eq, if_neg hne, hy], rfl⟩
    · exact ⟨k, x, AList.lookup_insert _, rfl⟩
  · intro l y hy
    rw [lookup_insert_eq] at hy
    split at hy
    · cases hy
      exact (h _).mpr (.inr rfl)
    · exact (h _).mpr (.inl (ho.live l y hy))
  · intro l l' y y' hy hy' he
    rw [lookup_insert_eq] at hy hy'
    split at hy <;> split at hy'
    next hl hl' =>
      rw [hl, hl']
    · cases hy
      exact absurd he.symm (hold hy')
    · cases hy'
      exact absurd he (hold hy)
    · exact ho.unique l l' y y' hy hy' he

lemma erase {k : H} {x : X} (hk : handles.lookup k = some x)
    (h : ∀ s, occupied' s ↔ occupied s ∧ s ≠ slotOf x) : Owned slotOf (handles.erase k) occupied' := by
  refine ⟨?_, ?_, ?_⟩
  · intro s hs
    obtain ⟨hs, hne⟩ := (h s).mp hs
    obtain ⟨l, y, hy, rfl⟩ := ho.owner s hs
    have hl : l ≠ k := by
      rintro rfl
      rw [hk, Option.some.injEq] at hy
      exact hne (by rw [hy])
    exact ⟨l, y, by rw [lookup_erase_eq, if_neg hl, hy], rfl⟩
  · intro l y hy
    rw [lookup_erase_eq] at hy
    split at hy
    · cases hy
    next hl =>
      exact (h _).mpr ⟨ho.live l y hy, fun he => hl (ho.unique l k y x hy hk he)⟩
  · intro l l' y y' hy hy' he
    rw [lookup_erase_eq] at hy hy'
    split at hy
    · cases hy
    · split at hy'
      · cases hy'
      · exact ho.unique l l' y y' hy hy' he

lemma existsUnique {s : S} (hs : occupied s) : ∃! h, ∃ x, handles.lookup h = some x ∧ slotOf x = s := by
  obtain ⟨h, x, hx, hxs⟩ := ho.owner s hs
  refine ⟨h, ⟨x, hx, hxs⟩, ?_⟩
  rintro h' ⟨x', hx', hxs'⟩
  exact ho.unique h' h x' x hx' hx (hxs'.trans hxs.symm)

end

end Owned

end Howy.Library
