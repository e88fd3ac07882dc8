import Howy.Library.Decoding
import Mathlib.Data.List.Forall2

/-! Validators that say what is wrong: a sequence of checks, and what their acceptance means. -/

namespace Howy.Library

variable {ε α β : Type} {l : List α}

def require (p : Prop) [Decidable p] (e : ε) : Except ε Unit := if p then .ok () else .error e

def checkSome (f : α → Except ε Unit) : Option α → Except ε Unit
  | none => .ok ()
  | some a => f a

def checkAll (f : α → Except ε Unit) : List α → Except ε Unit
  | [] => .ok ()
  | a :: l => do
    f a
    checkAll f l

@[simp] lemma require_eq_ok {p : Prop} [Decidable p] {e : ε} : require p e = .ok () ↔ p := by
  by_cases h : p <;> simp [require]

@[simp] lemma then_eq_ok {x : Except ε Unit} {f : Unit → Except ε β} {b : β} :
    (x >>= f) = .ok b ↔ x = .ok () ∧ f () = .ok b := by
  rw [bind_eq_ok]
  exact ⟨fun ⟨(), h⟩ => h, fun h => ⟨(), h⟩⟩

@[simp] lemma checkAll_eq_ok {f : α → Except ε Unit} : checkAll f l = .ok () ↔ ∀ a ∈ l, f a = .ok () := by
  induction l with
  | nil => simp [checkAll]
  | cons a l ih => rw [checkAll, then_eq_ok, ih, List.forall_mem_cons]

lemma mapM_eq_ok {f : α → Except ε β} {r : List β} :
    l.mapM f = .ok r ↔ List.Forall₂ (fun a b => f a = .ok b) l r := by
  induction l generalizing r with
  | nil =>
    rw [List.mapM_nil, pure_eq_ok, List.forall₂_nil_left_iff]
    exact eq_comm
  | cons a l ih =>
    simp only [List.mapM_cons, bind_eq_ok, pure_eq_ok, List.forall₂_cons_left_iff, ih]
    constructor
    · rintro ⟨b, hb, r', hr, rfl⟩
      exact ⟨b, r', hb, hr, rfl⟩
    · rintro ⟨b, r', hb, hr, rfl⟩
      exact ⟨b, hb, r', hr, rfl⟩

end Howy.Library
