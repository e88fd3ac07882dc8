import Howy.Library.Programs

/-! Programs of atomic actions that may fail with an error, and locks that a failing program still gives back. -/

namespace Howy.Library

variable {C S ε α β : Type} {f : C → S → Except ε α × S} {post : Except ε α → S → Prop} {R : Except ε β → Prop}

abbrev Attempt (C S ε α : Type) := ExceptT ε (Prog C S) α

def fromExcept (x : Except ε α) : Attempt C S ε α := ExceptT.mk (pure x)

def action (f : C → S → Except ε α × S) : Attempt C S ε α := ExceptT.mk (Prog.atomic fun c s => some (f c s))

def query (f : C → S → Except ε α) : Attempt C S ε α := action fun c s => (f c s, s)

def guarded (acquire : Attempt C S ε Unit) (release : S → S) (body : Attempt C S ε α) : Attempt C S ε α := do
  acquire
  ExceptT.mk do
    let r ← body.run
    Prog.atomic fun _ s => some (r, release s)

lemma unblocked_action : (action f).run.Unblocked := fun c s => ⟨(f c s).1, (f c s).2, rfl, trivial⟩

variable {k : α → Attempt C S ε β} {p x : Attempt C S ε α}

lemma unblocked_bindE (hx : x.run.Unblocked) (hk : ∀ a, (k a).run.Unblocked) : (x >>= k).run.Unblocked := by
  refine Prog.unblocked_bind hx fun r => ?_
  cases r with
  | ok a => exact hk a
  | error e => exact trivial

def Results (good : α → S → Prop) (bad : ε → S → Prop) : Except ε α → S → Prop
  | .ok a, s => good a s
  | .error e, s => bad e s

def OnResult (good : α → Prop) (bad : ε → Prop) : Except ε α → Prop
  | .ok a => good a
  | .error e => bad e

variable {L : Logic C S} {s : S}

lemma safe_bindE {post : Except ε β → S → Prop}
    (h : Safe L (Results (fun a s => Safe L post (k a).run s) fun e s => post (.error e) s) x.run s) :
    Safe L post (x >>= k).run s := by
  apply safe_bind
  apply Safe.weaken h
  intro r s' hr
  cases r with
  | ok a | error e => exact hr

lemma safe_action
    (h : ∀ c, L.choice c → L.guar s (f c s).2 ∧ L.inv (f c s).2 ∧
      ∀ s', L.rely (f c s).2 s' → L.inv s' → post (f c s).1 s') : Safe L post (action f).run s := by
  apply safe_atomic
  intro c a s' hc hf
  rw [Option.some.injEq, Prod.ext_iff] at hf
  obtain ⟨rfl, rfl⟩ := hf
  exact h c hc

lemma safe_guarded {acquire : Attempt C S ε Unit} {release : S → S} {body : Attempt C S ε α}
    (h : Safe L (Results (fun _ s => Safe L (fun r s => L.guar s (release s) ∧ L.inv (release s) ∧
      ∀ s', L.rely (release s) s' → L.inv s' → post r s') body.run s) fun e s => post (.error e) s)
      acquire.run s) :
    Safe L post (guarded acquire release body).run s := by
  apply safe_bindE
  apply Safe.weaken h
  intro r s' hr
  cases r with
  | error e => exact hr
  | ok a =>
    apply safe_bind
    apply Safe.weaken hr
    intro r s'' hr'
    apply safe_atomic
    intro c x t _ hx
    cases hx
    exact hr'

variable {A : C → Prop} {G : S → S → Prop} {P : S → Prop}

lemma Within.bindE {R₁ : α → Prop}
    (hx : Within A G P (OnResult R₁ fun e => R (.error e)) x.run) (hk : ∀ a, R₁ a → Within A G P R (k a).run) :
    Within A G P R (x >>= k).run := by
  apply within_bind
  apply Within.weaken hx
  intro r hr
  cases r with
  | ok a => exact hk a hr
  | error e => exact hr

lemma Within.andThen
    (hx : Within A G P (OnResult (fun _ => True) fun e => R (.error e)) x.run)
    (hk : ∀ a, Within A G P R (k a).run) :
    Within A G P R (x >>= k).run := Within.bindE hx fun a _ => hk a

variable {R : Except ε α → Prop}

lemma within_action
    (h : ∀ c s, A c → P s → G s (f c s).2 ∧ P (f c s).2 ∧ R (f c s).1) : Within A G P R (action f).run := by
  intro c s x s' hc hs hf
  rw [Option.some.injEq, Prod.ext_iff] at hf
  obtain ⟨rfl, rfl⟩ := hf
  exact h c s hc hs

variable {f : C → S → Except ε α}

lemma within_query (hG : ∀ s, G s s) (h : ∀ c s, A c → P s → R (f c s)) : Within A G P R (query f).run :=
  within_action fun c s hc hs => ⟨hG s, hs, h c s hc hs⟩

/-- A program that only looks: it leaves the state alone and gives `x`, unless it fails with an error in `F`. -/
def Finds (A : C → Prop) (P : S → Prop) (F : ε → Prop) (x : Except ε α) (p : Attempt C S ε α) : Prop :=
  Within A Eq P (fun r => r = x ∨ ∃ e, F e ∧ r = .error e) p.run

abbrev Reports (A : C → Prop) (P : S → Prop) (mayFail : Prop) (x : Except ε α) (p : Attempt C S ε α) : Prop :=
  Finds A P (fun _ => mayFail) x p

variable {F : ε → Prop} {x : Except ε α}

lemma Finds.within (h : Finds A P F x p) (hG : ∀ s, G s s) :
    Within A G P (OnResult (fun a => x = .ok a) fun _ => True) p.run := by
  apply Within.relax (Within.weaken h ?_) fun s _ hs => hs ▸ hG s
  intro r hr
  cases r with
  | error e => trivial
  | ok a =>
    rcases hr with hr | ⟨e, -, he⟩
    · exact hr.symm
    · cases he

lemma finds_pure {a : α} : Finds A P F (.ok a) (pure a : Attempt C S ε α) := .inl rfl

lemma finds_throw {e : ε} : Finds A P F (.error e) (throw e : Attempt C S ε α) := .inl rfl

lemma finds_fromExcept : Finds A P F x (fromExcept x) := .inl rfl

lemma finds_query
    (h : ∀ c s, A c → P s → f c s = x ∨ ∃ e, F e ∧ f c s = .error e) : Finds A P F x (query f) :=
  within_query (fun _ => rfl) h

lemma Finds.bind {y : α → Except ε β}
    (hp : Finds A P F x p) (hk : ∀ a, x = .ok a → Finds A P F (y a) (k a)) : Finds A P F (x >>= y) (p >>= k) := by
  apply within_bind
  apply Within.weaken hp
  rintro r (rfl | ⟨e, hF, rfl⟩)
  · cases r with
    | ok a => exact hk a rfl
    | error e => exact .inl rfl
  · exact .inr ⟨e, hF, rfl⟩

lemma Finds.ok_bind {a : α} {z : Except ε β}
    (hp : Finds A P F (.ok a) p) (hk : Finds A P F z (k a)) : Finds A P F z (p >>= k) :=
  Finds.bind (y := fun _ => z) hp fun b hb => by
    cases hb
    exact hk

end Howy.Library
