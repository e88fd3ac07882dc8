import Mathlib.Tactic.Common

/-! When a decoder written in the state and error monads accepts its input. -/

namespace Howy.Library

variable {ε σ α β : Type} {p : Prop}

def failIf {m : Type → Type} [Monad m] [MonadExcept ε m] (p : Prop) [Decidable p] (e : ε) : m Unit :=
  if p then throw e else pure ()

variable {a : α} {s t : σ} {x : Except ε α} {e : ε}

@[simp] lemma bind_eq_ok {f : α → Except ε β} {b : β} : (x >>= f) = .ok b ↔ ∃ a, x = .ok a ∧ f a = .ok b := by
  cases x with
  | error e | ok a => simp [bind, Except.bind]

lemma ok_bind (a : α) (f : α → Except ε β) : ((.ok a : Except ε α) >>= f) = f a := rfl

lemma error_bind (e : ε) (f : α → Except ε β) : ((.error e : Except ε α) >>= f) = .error e := rfl

@[simp] lemma pure_eq_ok {b : α} : (pure a : Except ε α) = .ok b ↔ a = b := by
  simp [pure, Except.pure]

@[simp] lemma throw_eq_ok : ¬ (throw e : Except ε α) = .ok a := by
  simp [throw, throwThe]

@[simp] lemma mapError_eq_ok {ε' : Type} {f : ε → ε'} : x.mapError f = .ok a ↔ x = .ok a := by
  cases x with
  | error e | ok b => simp [Except.mapError]

@[simp] lemma failIf_eq_ok [Decidable p] {u : Unit} : (failIf p e : Except ε Unit) = .ok u ↔ ¬ p := by
  by_cases h : p
  · simp [failIf, h]
  · simp [failIf, pure, Except.pure]

lemma ite_error_eq_ok [Decidable p] : (if p then .error e else x) = .ok a ↔ ¬ p ∧ x = .ok a := by
  by_cases h : p <;> simp [h]

lemma exists_of_isOk (h : x.isOk) : ∃ a, x = .ok a := by
  cases x with
  | error e => cases h
  | ok a => exact ⟨a, rfl⟩

lemma exists_error_of_isOk (h : x.isOk = false) : ∃ e, x = .error e := by
  cases x with
  | error e => exact ⟨e, rfl⟩
  | ok a => cases h

def Accepts (x : StateT σ (Except ε) α) (s : σ) (a : α) (t : σ) : Prop := x.run s = .ok (a, t)

@[simp] lemma accepts_pure {b : α} : Accepts (pure a : StateT σ (Except ε) α) s b t ↔ a = b ∧ s = t := by
  simp [Accepts]

@[simp] lemma accepts_bind {x : StateT σ (Except ε) α} {f : α → StateT σ (Except ε) β} {b : β} :
    Accepts (x >>= f) s b t ↔ ∃ a u, Accepts x s a u ∧ Accepts (f a) u b t := by
  simp [Accepts]

lemma Accepts.bind {x : StateT σ (Except ε) α} {f : α → StateT σ (Except ε) β} {u : σ} {b : β}
    (hx : Accepts x s a u) (hf : Accepts (f a) u b t) : Accepts (x >>= f) s b t := accepts_bind.mpr ⟨a, u, hx, hf⟩

@[simp] lemma accepts_liftM : Accepts (liftM x : StateT σ (Except ε) α) s a t ↔ x = .ok a ∧ s = t := by
  cases x with
  | error e => simp [Accepts, bind, Except.bind]
  | ok b => simp [Accepts, bind, Except.bind, pure, Except.pure]

@[simp] lemma accepts_failIf [Decidable p] {u : Unit} :
    Accepts (failIf p e : StateT σ (Except ε) Unit) s u t ↔ ¬ p ∧ s = t := by
  by_cases h : p
  · simp [failIf, h, Accepts, throw, throwThe, Functor.map, Except.map]
  · simp [failIf, h]

lemma Accepts.check [Decidable p] {k : Unit → StateT σ (Except ε) α} (hp : ¬ p) (hk : Accepts (k ()) s a t) :
    Accepts (failIf p e >>= k) s a t := .bind (accepts_failIf.mpr ⟨hp, rfl⟩) hk

end Howy.Library
