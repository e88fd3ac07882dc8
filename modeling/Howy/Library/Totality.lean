import Howy.Library.Sightings

/-! Programs that end for certain, as long as the surroundings choose within bounds. -/

namespace Howy.Library

variable {C S ε α β : Type} {A : C → Prop}

def Total (A : C → Prop) (Q : α → S → Prop) : Prog C S α → S → Prop
  | .done a, s => Q a s
  | .act _ f k, s => ∀ c, A c → ∃ x s', f c s = some (x, s') ∧ Total A Q (k x) s'

variable {Q Q' : α → S → Prop} {p : Prog C S α} {s : S}

lemma Total.weaken (h : Total A Q p s) (hq : ∀ a s, Q a s → Q' a s) : Total A Q' p s := by
  induction p generalizing s with
  | done a => exact hq a s h
  | act γ f k ih =>
    intro c hc
    obtain ⟨x, s', hf, hx⟩ := h c hc
    exact ⟨x, s', hf, ih x hx⟩

lemma total_bind {Q : β → S → Prop} {k : α → Prog C S β} (h : Total A (fun a s => Total A Q (k a) s) p s) :
    Total A Q (p >>= k) s := by
  induction p generalizing s with
  | done a => exact h
  | act γ f next ih =>
    intro c hc
    obtain ⟨x, s', hf, hx⟩ := h c hc
    exact ⟨x, s', hf, ih x hx⟩

lemma Total.ends (h : Total A Q p s) {choices : ℕ → C} (hc : ∀ i, A (choices i)) :
    ∃ n a s', p.run ((List.range n).map choices) s = some (a, s') ∧ Q a s' := by
  induction p generalizing s choices with
  | done a => exact ⟨0, a, s, rfl, h⟩
  | act γ f k ih =>
    obtain ⟨x, t, hf, hx⟩ := h (choices 0) (hc 0)
    obtain ⟨n, a, s', hrun, hq⟩ := ih x hx fun i => hc (i + 1)
    refine ⟨n + 1, a, s', ?_, hq⟩
    rw [List.range_succ_eq_map, List.map_cons, Prog.run_act hf, List.map_map]
    exact hrun

lemma total_of_answers {a : α} (h : Answers A s a p) (hq : Q a s) : Total A Q p s := by
  induction p with
  | done b =>
    cases h
    exact hq
  | act γ f k ih =>
    intro c hc
    obtain ⟨x, hf, hx⟩ := h c hc
    exact ⟨x, s, hf, ih x hx⟩

variable {Q : Except ε β → S → Prop} {x : Attempt C S ε α} {k : α → Attempt C S ε β}

lemma total_bindE (h : Total A (Results (fun a s => Total A Q (k a).run s) fun e s => Q (.error e) s) x.run s) :
    Total A Q (x >>= k).run s := by
  apply total_bind
  apply Total.weaken h
  intro r s' hr
  cases r with
  | ok a | error e => exact hr

lemma total_after {a : α} (hx : Sure A x s a) (hk : Total A Q (k a).run s) : Total A Q (x >>= k).run s :=
  total_bindE (total_of_answers hx hk)

lemma total_answersE {r : Except ε α} {y : α → Except ε β} {P : S → Prop} (hx : Answers A s r x.run) (hs : P s)
    (hk : ∀ a, r = .ok a → Total A (fun r' s' => r' = y a ∧ P s') (k a).run s) :
    Total A (fun r' s' => r' = (r >>= y) ∧ P s') (x >>= k).run s := by
  apply total_bindE
  apply total_of_answers hx
  cases r with
  | ok a => exact hk a rfl
  | error e => exact ⟨rfl, hs⟩

lemma total_guarded {acquire : Attempt C S ε Unit} {release : S → S} {body : Attempt C S ε β}
    (h : Total A (Results (fun _ s => Total A (fun r s => Q r (release s)) body.run s) fun e s => Q (.error e) s)
      acquire.run s) : Total A Q (guarded acquire release body).run s := by
  apply total_bindE
  apply Total.weaken h
  intro r s' hr
  cases r with
  | error e => exact hr
  | ok _ =>
    apply total_bind
    apply Total.weaken hr
    exact fun r t ht c _ => ⟨r, release t, rfl, ht⟩

lemma total_action {Q : Except ε α → S → Prop} {f : C → S → Except ε α × S}
    (h : ∀ c, A c → Q (f c s).1 (f c s).2) : Total A Q (action f).run s :=
  fun c hc => ⟨(f c s).1, (f c s).2, rfl, h c hc⟩

end Howy.Library
