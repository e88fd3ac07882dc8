import Mathlib.Data.List.Chain
import Mathlib.Data.List.Forall2

/-! Chains of values and lists that only grow. -/

namespace Howy.Library

variable {α : Type} {R : α → α → Prop} {l l' : List α}

lemma chain_steps {P : ℕ → α → α → Prop} (h0 : ∀ a, P 0 a a) (hstep : ∀ n a b c, P n a b → R b c → P (n + 1) a c)
    (hl : l.IsChain R) (i n : ℕ) (h : i + n < l.length) : P n l[i] l[i + n] := by
  induction n with
  | zero => exact h0 _
  | succ n ih => exact hstep n _ _ _ (ih (by omega)) (List.isChain_iff_getElem.mp hl (i + n) h)

lemma chain_forall {P : α → Prop} (hstep : ∀ a b, R a b → P b) (hl : l.IsChain R)
    (hhead : ∀ a ∈ l.head?, P a) : ∀ a ∈ l, P a := by
  induction l with
  | nil => nofun
  | cons a l ih =>
    rw [List.forall_mem_cons]
    refine ⟨hhead a rfl, ih hl.tail ?_⟩
    intro b hb
    cases l with
    | nil => cases hb
    | cons c l =>
      obtain rfl : c = b := Option.some.inj hb
      exact hstep a c (List.isChain_cons_cons.mp hl).1

def Grows (R : α → α → Prop) (l l' : List α) : Prop := ∃ front back, l' = front ++ back ∧ List.Forall₂ R l front

lemma grows_refl (h : ∀ a, R a a) (l : List α) : Grows R l l :=
  ⟨l, [], (List.append_nil l).symm, List.forall₂_same.mpr fun a _ => h a⟩

lemma Grows.append_right (h : Grows R l l') (more : List α) : Grows R l (l' ++ more) := by
  obtain ⟨front, back, rfl, hfront⟩ := h
  exact ⟨front, back ++ more, List.append_assoc _ _ _, hfront⟩

lemma Grows.trans_forall₂ {T : α → α → Prop} (htrans : ∀ a b c, R a b → T b c → R a c) {l'' : List α}
    (h : Grows R l l') (h' : List.Forall₂ T l' l'') : Grows R l l'' := by
  obtain ⟨front, back, rfl, hfront⟩ := h
  induction hfront generalizing l'' with
  | nil => exact ⟨[], l'', rfl, .nil⟩
  | cons hab _ ih =>
    cases h' with
    | cons hbc hrest =>
      obtain ⟨front', back', rfl, hfront'⟩ := ih hrest
      exact ⟨_ :: front', back', rfl, .cons (htrans _ _ _ hab hbc) hfront'⟩

lemma eq_of_filter_zip_ne_nil [DecidableEq α] (hlen : l'.length = l.length)
    (h : ((l.zip l').filter fun p => p.1 != p.2) = []) : l' = l := by
  induction l generalizing l' with
  | nil => exact List.length_eq_zero_iff.mp hlen
  | cons a l ih =>
    cases l' with
    | nil => cases hlen
    | cons b l' =>
      rw [List.zip_cons_cons, List.filter_eq_nil_iff, List.forall_mem_cons] at h
      have hab : a = b := by simpa using h.1
      rw [hab, ih (Nat.succ_injective hlen) (List.filter_eq_nil_iff.mpr h.2)]

lemma of_filter_zip_eq_singleton [DecidableEq α] {x y : α} (hlen : l'.length = l.length)
    (h : ((l.zip l').filter fun p => p.1 != p.2) = [(x, y)]) :
    ∃ before after, l = before ++ x :: after ∧ l' = before ++ y :: after := by
  induction l generalizing l' with
  | nil => cases h
  | cons a l ih =>
    cases l' with
    | nil => cases hlen
    | cons b l' =>
      rw [List.zip_cons_cons, List.filter_cons] at h
      split at h
      · obtain ⟨hab, hrest⟩ := List.cons.inj h
        cases hab
        rw [eq_of_filter_zip_ne_nil (Nat.succ_injective hlen) hrest]
        exact ⟨[], l, rfl, rfl⟩
      next hab =>
        obtain ⟨before, after, rfl, rfl⟩ := ih (Nat.succ_injective hlen) h
        have hab : a = b := by simpa using hab
        exact ⟨a :: before, after, rfl, by rw [hab, List.cons_append]⟩

end Howy.Library
