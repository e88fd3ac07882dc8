import Howy.Library.Bytes
import Mathlib.Data.Set.Function

/-! Codes that can be read field by field. -/

namespace Howy.Library

variable {α β : Type} {f : α → List β} {s : Set α}

/-- What a field is and where it ends does not depend on what follows it. -/
def Separates (f : α → List β) (s : Set α) : Prop :=
  ∀ a ∈ s, ∀ b ∈ s, ∀ x y, f a ++ x = f b ++ y → a = b ∧ x = y

lemma Separates.flatMap_inj (h : Separates f s) (hne : ∀ a, f a ≠ []) {as bs : List α} (ha : ∀ a ∈ as, a ∈ s)
    (hb : ∀ b ∈ bs, b ∈ s) (he : as.flatMap f = bs.flatMap f) : as = bs := by
  induction as generalizing bs with
  | nil =>
    cases bs with
    | nil => rfl
    | cons b bs => exact absurd (List.append_eq_nil_iff.mp he.symm).1 (hne b)
  | cons a as ih =>
    cases bs with
    | nil => exact absurd (List.append_eq_nil_iff.mp he).1 (hne a)
    | cons b bs =>
      rw [List.forall_mem_cons] at ha hb
      obtain ⟨rfl, hrest⟩ := h a ha.1 b hb.1 _ _ he
      rw [ih ha.2 hb.2 hrest]

lemma separates_of_length {n : ℕ} (hf : Set.InjOn f s) (hn : ∀ a, (f a).length = n) : Separates f s := by
  intro a ha b hb x y h
  obtain ⟨hab, hxy⟩ := List.append_inj h (by rw [hn, hn])
  exact ⟨hf ha hb hab, hxy⟩

lemma separates_leBytes :
    Separates (fun field : List UInt8 => leBytes 8 field.length ++ field) {field | field.length < 2 ^ 64} := by
  intro a ha b hb x y h
  simp only [List.append_assoc] at h
  obtain ⟨hlen, hrest⟩ := List.append_inj h (by rw [length_leBytes, length_leBytes])
  exact List.append_inj hrest (leBytes_injOn ha hb hlen)

end Howy.Library
