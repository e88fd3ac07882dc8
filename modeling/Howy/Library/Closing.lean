import Howy.Library.Fallible
import Howy.Library.Interleaving

/-! Conditions that hold for good once they hold, and programs that look for them before they succeed. -/

namespace Howy.Library

variable {C S α β ε ν : Type} {G : S → S → Prop} {acquire : Attempt C S ε Unit} {body x : Attempt C S ε α}
  {k : α → Prog C S β} {release : S → S} {good' : β → Prop} {I : S → Prop}

abbrev Follows (G : S → S → Prop) (p : Prog C S α) : Prop :=
  Within (fun _ => True) G (fun _ => True) (fun _ => True) p

abbrev Dead (closed : S → Prop) (bad : α → Prop) (p : Prog C S α) : Prop :=
  Within (fun _ => True) (fun _ _ => True) closed bad p

/-- The same outcome, and states that differ at most in the part that `put` sets. -/
def SameBut (put : ν → S → S) : Option (β × S) → Option (β × S) → Prop
  | none, none => True
  | some (x, s), some (x', s') => x = x' ∧ ∃ v, s' = put v s
  | _, _ => False

/-- The program looks no more at the part of the state that `put` sets, and ends in `good`. -/
def Blind (put : ν → S → S) (good : α → Prop) : Prog C S α → Prop
  | .done a => good a
  | .act _ f k => (∀ c s v, SameBut put (f c s) (f c (put v s))) ∧
      ∀ c s x s', f c s = some (x, s') → Blind put good (k x)

/-- Wherever the program is stopped, either it looks no more at that part, or it ends in `bad` once the condition
holds. -/
def Checked (closed : S → Prop) (put : ν → S → S) (good bad : α → Prop) : Prog C S α → Prop
  | .done _ => True
  | .act γ f k => (Blind put good (.act γ f k) ∨ Dead closed bad (.act γ f k)) ∧
      ∀ c s x s', f c s = some (x, s') → Checked closed put good bad (k x)

variable {closed : S → Prop} {put : ν → S → S} {good bad : α → Prop} {p : Prog C S α}

lemma follows_bind (hp : Follows G p) (hk : ∀ a, Follows G (k a)) : Follows G (p >>= k) :=
  within_bind (hp.weaken fun a _ => hk a)

lemma follows_bindE {k : α → Attempt C S ε β} (hx : Follows G x.run)
    (hk : ∀ a, Follows G (k a).run) : Follows G (x >>= k).run := by
  refine follows_bind hx fun r => ?_
  cases r with
  | ok a => exact hk a
  | error e => exact trivial

lemma follows_guarded
    (ha : Follows G acquire.run) (hr : ∀ s, G s (release s)) (hb : Follows G body.run) :
    Follows G (guarded acquire release body).run := by
  refine follows_bindE ha fun _ => follows_bind hb fun r => ?_
  rintro c s x s' - - hf
  cases hf
  exact ⟨hr s, trivial, trivial⟩

lemma dead_guarded {R : Except ε α → Prop}
    (ha : Dead closed (OnResult (fun _ => True) fun e => R (.error e)) acquire.run)
    (hr : ∀ s, closed s → closed (release s)) (hb : Dead closed R body.run) :
    Dead closed R (guarded acquire release body).run := by
  refine Within.andThen ha fun _ => within_bind (hb.weaken fun r h => ?_)
  rintro c s x s' - hs hf
  cases hf
  exact ⟨trivial, hr s hs, h⟩

lemma Blind.weaken {good' : α → Prop} (h : Blind put good p) (hg : ∀ a, good a → good' a) : Blind put good' p := by
  induction p with
  | done a => exact hg a h
  | act γ f k ih => exact ⟨h.1, fun c s x s' hf => ih x (h.2 c s x s' hf)⟩

lemma blind_bind (hp : Blind put good p) (hk : ∀ a, good a → Blind put good' (k a)) :
    Blind put good' (p >>= k) := by
  induction p with
  | done a => exact hk a hp
  | act γ f next ih => exact ⟨hp.1, fun c s x s' hf => ih x (hp.2 c s x s' hf)⟩

lemma checked_of_blind (h : Blind put good p) : Checked closed put good bad p := by
  induction p with
  | done a => exact trivial
  | act γ f k ih => exact ⟨.inl h, fun c s x s' hf => ih x (h.2 c s x s' hf)⟩

lemma dead_of_within (hG : ∀ s s', G s s' → closed s → closed s')
    (h : Within (fun _ => True) G (fun _ => True) bad p) : Dead closed bad p :=
  h.mono (fun _ _ => trivial) (fun s s' hs _ hg => ⟨trivial, hG s s' hg hs⟩) fun _ hr => hr

lemma checked_of_follows (hG : ∀ s s', G s s' → closed s → closed s') (h : Follows G p) :
    Checked closed put (fun _ => False) (fun _ => True) p := by
  induction p with
  | done a => exact trivial
  | act γ f k ih =>
    exact ⟨.inr (dead_of_within hG h), fun c s x s' hf => ih x (h c s x s' trivial trivial hf).2.2⟩

lemma checked_bind {bad' : β → Prop} (hp : Checked closed put good bad p)
    (hgood : ∀ a, good a → Blind put good' (k a)) (hbad : ∀ a, bad a → Dead closed bad' (k a))
    (hk : ∀ a, Checked closed put good' bad' (k a)) : Checked closed put good' bad' (p >>= k) := by
  induction p with
  | done a => exact hk a
  | act γ f next ih =>
    refine ⟨?_, fun c s x s' hf => ih x (hp.2 c s x s' hf)⟩
    rcases hp.1 with h | h
    · exact .inl (blind_bind h hgood)
    · exact .inr (within_bind (h.weaken hbad))

lemma checked_bindE {good bad : Except ε α → Prop} {good' bad' : Except ε β → Prop}
    {k : α → Attempt C S ε β} (hx : Checked closed put good bad x.run) (herror : ∀ e, good' (.error e) ∧
      bad' (.error e))
    (hgood : ∀ a, good (.ok a) → Blind put good' (k a).run) (hbad : ∀ a, bad (.ok a) → Dead closed bad' (k a).run)
    (hk : ∀ a, Checked closed put good' bad' (k a).run) : Checked closed put good' bad' (x >>= k).run := by
  refine checked_bind hx (fun r h => ?_) (fun r h => ?_) fun r => ?_
  · cases r with
    | ok a => exact hgood a h
    | error e => exact (herror e).1
  · cases r with
    | ok a => exact hbad a h
    | error e => exact (herror e).2
  · cases r with
    | ok a => exact hk a
    | error e => exact trivial

lemma checked_guarded {good bad : Except ε α → Prop} (hG : ∀ s s', G s s' → closed s → closed s')
    (ha : Follows G acquire.run) (hr : ∀ s, G s (release s)) (hput : ∀ v s, release (put v s) = put v (release s))
    (herror : ∀ e, good (.error e) ∧ bad (.error e)) (hall : ∀ r, good r ∨ bad r)
    (hdead : Dead closed bad body.run)
    (hb : Checked closed put good bad body.run) :
    Checked closed put good bad (guarded acquire release body).run := by
  have hrelease (r : Except ε α) (h : bad r) :
      Dead closed bad (Prog.atomic fun (_ : C) s => some (r, release s)) := by
    rintro c s x s' - hs hf
    cases hf
    exact ⟨trivial, hG _ _ (hr s) hs, h⟩
  have hblind (r : Except ε α) (h : good r) :
      Blind put good (Prog.atomic fun (_ : C) s => some (r, release s)) := by
    refine ⟨fun c s v => ?_, fun c s x s' hf => ?_⟩
    · exact ⟨rfl, v, hput v s⟩
    · cases hf
      exact h
  refine checked_bindE (checked_of_follows hG ha) herror (fun _ h => h.elim)
    (fun _ _ => within_bind (hdead.weaken hrelease)) fun _ => ?_
  refine checked_bind hb hblind hrelease fun r => ?_
  exact ⟨(hall r).imp (hblind r) (hrelease r), fun _ _ _ _ _ => trivial⟩

section

variable {K R : Type} {body : ℕ → K → Prog C S R} {x y : System C S K R}

def HandedOn (closed : S → Prop) (Q : Prog C S R → Prop) : Prop :=
  ∀ {γ : Type} {f : C → S → Option (γ × S)} {k : γ → Prog C S R} {c s a s'}, Q (.act γ f k) → closed s →
    f c s = some (a, s') → Q (k a)

lemma handedOn_checked {good bad : R → Prop} : HandedOn (fun _ => True) (Checked (C := C) closed put good bad) :=
  fun h _ hf => h.2 _ _ _ _ hf

/-- Every call in `y` is one of `x`, further on, or began after it. -/
structure Resumes (body : ℕ → K → Prog C S R) (closed : S → Prop) (x y : System C S K R) : Prop where
  holds : closed y.shared
  next_le : x.next ≤ y.next
  resumed : ∀ n call p, x.calls n = some (call, p) → ∃ p', y.calls n = some (call, p') ∧
    ∀ Q, HandedOn closed Q → Q p → Q p'
  begun : ∀ n call p, x.next ≤ n → y.calls n = some (call, p) → ∀ Q, HandedOn closed Q → Q (body n call) → Q p

lemma handedOn_dead {bad : R → Prop} : HandedOn closed (Dead (C := C) closed bad) :=
  fun h hs hf => (h _ _ _ _ trivial hs hf).2.2

lemma handedOn_blind (closed : S → Prop) (put : ν → S → S) (good : R → Prop) :
    HandedOn closed (Blind (C := C) put good) :=
  fun h _ hf => h.2 _ _ _ _ hf

structure Running (G : S → S → Prop) (Q : K → Prog C S R → Prop) (x : System C S K R) : Prop where
  unused : ∀ n, x.next ≤ n → x.calls n = none
  follows : ∀ n call p, x.calls n = some (call, p) → Follows G p
  inherits : ∀ n call p, x.calls n = some (call, p) → Q call p

variable {Q : K → Prog C S R → Prop}

lemma running_start {s : S} : Running G Q (start s : System C S K R) :=
  ⟨fun _ _ => rfl, fun _ _ _ h => (Option.some_ne_none _ h.symm).elim, fun _ _ _ h =>
    (Option.some_ne_none _ h.symm).elim⟩

section

variable (hQ : ∀ call, HandedOn (fun _ => True) (Q call))
  (hbody : ∀ n call, Follows G (body n call) ∧ Q call (body n call))

include hQ hbody

lemma running_step
    (hx : Running G Q x) {e : Event C K} : Running G Q (step body x e) := by
  rcases step_cases body with h | ⟨call, h⟩ | ⟨n, call, c, γ, f, k, a, s, hn, hf, h⟩
  · rw [h]
    exact hx
  · rw [h]
    have hcalls (n : ℕ) (call' : K) (p : Prog C S R)
        (hp : Function.update x.calls x.next (some (call, body x.next call)) n = some (call', p)) :
        Follows G p ∧ Q call' p := by
      rw [Function.update_apply] at hp
      split at hp
      · cases hp
        exact hbody _ _
      · exact ⟨hx.follows n call' p hp, hx.inherits n call' p hp⟩
    refine ⟨fun n hn => ?_, fun n call' p hp => (hcalls n call' p hp).1, fun n call' p hp =>
      (hcalls n call' p hp).2⟩
    exact (Function.update_of_ne (Nat.ne_of_gt hn) _ _).trans (hx.unused n (Nat.le_of_succ_le hn))
  · rw [h]
    have hcalls (m : ℕ) (call' : K) (p : Prog C S R)
        (hp : Function.update x.calls n (some (call, k a)) m = some (call', p)) : Follows G p ∧ Q call' p := by
      rw [Function.update_apply] at hp
      split at hp
      · cases hp
        exact ⟨(hx.follows n call _ hn c _ a s trivial trivial hf).2.2,
          hQ call (hx.inherits n call _ hn) trivial hf⟩
      · exact ⟨hx.follows m call' p hp, hx.inherits m call' p hp⟩
    refine ⟨fun m hm => ?_, fun m call' p hp => (hcalls m call' p hp).1, fun m call' p hp =>
      (hcalls m call' p hp).2⟩
    have hne : m ≠ n := by
      rintro rfl
      rw [hx.unused m hm] at hn
      cases hn
    exact (Function.update_of_ne hne _ _).trans (hx.unused m hm)

lemma running_reached (s : S) (events : List (Event C K)) : Running G Q (reached body s events) := by
  induction events using List.reverseRecOn with
  | nil => exact running_start
  | append_singleton events e ih =>
    rw [reached_concat]
    exact running_step hQ hbody ih

end

lemma kept_step (hI : ∀ s s', G s s' → I s → I s') (hx : Running G Q x) (h : I x.shared)
    (e : Event C K) : I (step body x e).shared := by
  rcases step_cases body with he | ⟨call, he⟩ | ⟨n, call, c, γ, f, k, a, s, hn, hf, he⟩
  · rwa [he]
  · rwa [he]
  · rw [he]
    exact hI _ _ (hx.follows n call _ hn c _ a s trivial trivial hf).1 h

lemma kept_reached (hI : ∀ s s', G s s' → I s → I s') (hQ : ∀ call, HandedOn (fun _ => True) (Q call))
    (hbody : ∀ n call, Follows G (body n call) ∧ Q call (body n call)) {s : S} (h : I s)
    (events : List (Event C K)) : I (reached body s events).shared := by
  induction events using List.reverseRecOn with
  | nil => exact h
  | append_singleton events e ih =>
    rw [reached_concat]
    exact kept_step hI (running_reached hQ hbody s events) ih e

lemma resumes_refl (hx : Running G Q x) (h : closed x.shared) : Resumes body closed x x where
  holds := h
  next_le := le_rfl
  resumed n call p hp := ⟨p, hp, fun _ _ h => h⟩
  begun n call p hn hp := by
    rw [hx.unused n hn] at hp
    cases hp

lemma resumes_step (hG : ∀ s s', G s s' → closed s → closed s') (hy : Running G Q y)
    (h : Resumes body closed x y) {e : Event C K} : Resumes body closed x (step body y e) := by
  have hholds : closed (step body y e).shared := kept_step hG hy h.holds e
  rcases step_cases body with he | ⟨call, he⟩ | ⟨n, call, c, γ, f, k, a, s, hn, hf, he⟩
  · rwa [he]
  · rw [he] at hholds ⊢
    refine ⟨hholds, Nat.le_succ_of_le h.next_le, fun m call' p hp => ?_, fun m call' p hm hp Q hQ hbody => ?_⟩
    · obtain ⟨p', hp', hrest⟩ := h.resumed m call' p hp
      refine ⟨p', ?_, hrest⟩
      have hne : m ≠ y.next := by
        rintro rfl
        rw [hy.unused _ le_rfl] at hp'
        cases hp'
      exact (Function.update_of_ne hne _ _).trans hp'
    · change Function.update y.calls y.next _ m = _ at hp
      rw [Function.update_apply] at hp
      split at hp
      next hm =>
        cases hp
        rwa [← hm]
      · exact h.begun m call' p hm hp Q hQ hbody
  · rw [he] at hholds ⊢
    refine ⟨hholds, h.next_le, fun m call' p hp => ?_, fun m call' p hm hp Q hQ hbody => ?_⟩
    · obtain ⟨p', hp', hkept⟩ := h.resumed m call' p hp
      by_cases hne : m = n
      · subst hne
        rw [hn, Option.some.injEq] at hp'
        obtain ⟨rfl, rfl⟩ := hp'
        -- the action is taken where the condition holds, so what was handed on so far is handed on again
        exact ⟨k a, Function.update_self _ _ _, fun Q hQ hp => hQ (hkept Q hQ hp) h.holds hf⟩
      · exact ⟨p', (Function.update_of_ne hne _ _).trans hp', hkept⟩
    · change Function.update y.calls n _ m = _ at hp
      rw [Function.update_apply] at hp
      split at hp
      next hmn =>
        subst hmn
        cases hp
        exact hQ (h.begun m call _ hm hn Q hQ hbody) h.holds hf
      · exact h.begun m call' p hm hp Q hQ hbody

/-- From a state in which the condition holds it goes on to hold, and the calls go on from where they were. -/
theorem resumes_reached (hG : ∀ s s', G s s' → closed s → closed s')
    (hQ : ∀ call, HandedOn (fun _ => True) (Q call))
    (hbody : ∀ n call, Follows G (body n call) ∧ Q call (body n call)) {s : S} {events : List (Event C K)}
    (h : closed (reached body s events).shared) (later : List (Event C K)) :
    Resumes body closed (reached body s events) (reached body s (events ++ later)) := by
  induction later using List.reverseRecOn with
  | nil =>
    rw [List.append_nil]
    exact resumes_refl (running_reached hQ hbody s events) h
  | append_singleton later e ih =>
    have hy := running_reached hQ hbody s (events ++ later)
    rw [← List.append_assoc, reached_concat]
    exact resumes_step hG hy ih

end

end Howy.Library
