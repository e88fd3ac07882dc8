import Howy.Library.Programs
import Mathlib.Data.List.Induction
import Mathlib.Logic.Function.Basic

/-! Any number of calls running interleaved on one shared state. -/

namespace Howy.Library

structure System (C S K R : Type) : Type 1 where
  shared : S
  next : ℕ
  calls : ℕ → Option (K × Prog C S R)

inductive Event (C K : Type) where
  | invoke (call : K)
  | step (id : ℕ) (choice : C)

variable {C S K R : Type}

def start (s : S) : System C S K R := ⟨s, 0, fun _ => none⟩

variable (body : ℕ → K → Prog C S R)

def advance (x : System C S K R) (n : ℕ) (call : K) (c : C) : Prog C S R → System C S K R
  | .done _ => x
  | .act _ f k =>
    match f c x.shared with
    | none => x
    | some (y, s) => { x with shared := s, calls := Function.update x.calls n (some (call, k y)) }

def step (x : System C S K R) : Event C K → System C S K R
  | .invoke call =>
    { x with next := x.next + 1, calls := Function.update x.calls x.next (some (call, body x.next call)) }
  | .step n c =>
    match x.calls n with
    | none => x
    | some (call, p) => advance x n call c p

lemma step_cases {x : System C S K R} {e : Event C K} : step body x e = x ∨
    (∃ call, step body x e =
      { x with next := x.next + 1, calls := Function.update x.calls x.next (some (call, body x.next call)) }) ∨
    ∃ n call c, ∃ (γ : Type) (f : C → S → Option (γ × S)) (k : γ → Prog C S R), ∃ a s,
      x.calls n = some (call, .act γ f k) ∧ f c x.shared = some (a, s) ∧
        step body x e = { x with shared := s, calls := Function.update x.calls n (some (call, k a)) } := by
  cases e with
  | invoke call => exact .inr (.inl ⟨call, rfl⟩)
  | step n c =>
    rw [step]
    split
    · exact .inl rfl
    rename_i call p hp
    cases p with
    | done r => exact .inl rfl
    | act γ f k =>
      rw [advance]
      split
      · exact .inl rfl
      next a s hf =>
        exact .inr (.inr ⟨n, call, c, γ, f, k, a, s, hp, hf, rfl⟩)

def reached (s : S) (events : List (Event C K)) : System C S K R := events.foldl (step body) (start s)

@[simp] lemma reached_concat (s : S) (events : List (Event C K)) (e : Event C K) :
    reached body s (events ++ [e]) = step body (reached body s events) e := List.foldl_append

end Howy.Library
