import Mathlib.Data.List.Infix

/-! Replacing the first occurrence of one word in another. -/

namespace Howy.Library

variable {α : Type} [DecidableEq α] {old new r : List α}

def replaceFirst (old new : List α) : List α → Option (List α)
  | [] => if old = [] then some new else none
  | a :: l =>
    if old <+: a :: l then some (new ++ (a :: l).drop old.length) else (replaceFirst old new l).map (a :: ·)

lemma replaceFirst_eq_some {l : List α} (h : replaceFirst old new l = some r) :
    ∃ front back, l = front ++ (old ++ back) ∧ r = front ++ (new ++ back) ∧
      ∀ front' back', l = front' ++ (old ++ back') → front.length ≤ front'.length := by
  induction l generalizing r with
  | nil =>
    rw [replaceFirst] at h
    split at h
    next ho =>
      cases h
      exact ⟨[], [], by rw [ho]; rfl, by rw [List.append_nil]; rfl, fun _ _ _ => Nat.zero_le _⟩
    · cases h
  | cons a l ih =>
    rw [replaceFirst] at h
    split at h
    next hp =>
      obtain ⟨back, hb⟩ := hp
      cases h
      refine ⟨[], back, hb.symm, ?_, fun _ _ _ => Nat.zero_le _⟩
      rw [← hb, List.drop_left, List.nil_append]
    next hp =>
      obtain ⟨r, hr, rfl⟩ := Option.map_eq_some_iff.mp h
      obtain ⟨front, back, rfl, rfl, hfirst⟩ := ih hr
      refine ⟨a :: front, back, rfl, rfl, fun front' back' he => ?_⟩
      cases front' with
      | nil => exact absurd ⟨back', he.symm⟩ hp
      | cons b front' =>
        rw [List.cons_append, List.cons.injEq] at he
        exact Nat.succ_le_succ (hfirst front' back' he.2)

lemma replaceFirst_isSome (h : old ≠ []) (new front back : List α) :
    ∃ r, replaceFirst old new (front ++ (old ++ back)) = some r := by
  induction front with
  | nil =>
    obtain ⟨a, l, hl⟩ : ∃ a l, old ++ back = a :: l := List.exists_cons_of_ne_nil (by simp [h])
    rw [List.nil_append, hl, replaceFirst, if_pos (hl ▸ List.prefix_append old back)]
    exact ⟨_, rfl⟩
  | cons a front ih =>
    obtain ⟨r, hr⟩ := ih
    rw [List.cons_append, replaceFirst]
    split
    · exact ⟨_, rfl⟩
    · exact ⟨a :: r, by rw [hr]; rfl⟩

lemma replaceFirst_append {a c tail : List α} (h : replaceFirst old new (a ++ (old ++ c) ++ tail) = some r) :
    ∃ front, r = front ++ tail := by
  obtain ⟨front, back, hl, rfl, hfirst⟩ := replaceFirst_eq_some h
  have hle := hfirst a (c ++ tail) (by simp only [List.append_assoc])
  have hl' : a ++ (old ++ c) ++ tail = (front ++ old) ++ back := by rw [hl, List.append_assoc]
  rcases List.append_eq_append_iff.mp hl' with ⟨x, hx, hb⟩ | ⟨x, hx, hb⟩
  · have hx0 : x = [] := by
      have := congrArg List.length hx
      simp only [List.length_append] at this
      exact List.length_eq_zero_iff.mp (by omega)
    rw [hx0, List.nil_append] at hb
    exact ⟨front ++ new, by rw [hb, List.append_assoc]⟩
  · exact ⟨front ++ (new ++ x), by rw [hb]; simp only [List.append_assoc]⟩

end Howy.Library
