import Howy.Library.Triples
import Mathlib.Data.List.Chain

/-! The states that a program passes through before it is stopped. -/

namespace Howy.Library

variable {C S ε α : Type} {allowed : C → Prop}

/-- The program has taken some of its actions, undisturbed, and these are the states after each of them. -/
inductive Visits (allowed : C → Prop) : Prog C S α → S → List S → Prog C S α → S → Prop where
  | refl (p : Prog C S α) (s : S) : Visits allowed p s [] p s
  | step {δ : Type} {f : C → S → Option (δ × S)} {k : δ → Prog C S α} {s s' s'' : S} {x : δ} {q : Prog C S α}
      {visited : List S} (c : C) (hc : allowed c) (h : f c s = some (x, s'))
      (rest : Visits allowed (k x) s' visited q s'') :
      Visits allowed (.act δ f k) s (s' :: visited) q s''

variable {L : Logic C S} {post : α → S → Prop} {p q : Prog C S α} {s s' : S} {visited : List S}

lemma safe_of_visits (h : Visits L.choice p s visited q s') (hp : Safe L post p s) (hi : L.inv s) :
    (s :: visited).IsChain L.guar ∧ (∀ v ∈ visited, L.inv v) ∧ L.inv s' ∧ Safe L post q s' := by
  induction h with
  | refl p s => exact ⟨List.isChain_singleton s, List.forall_mem_nil _, hi, hp⟩
  | step c hc hf rest ih =>
    obtain ⟨hguar, hi', hk⟩ := hp c _ _ hc hf
    obtain ⟨hchain, hall, hend⟩ := ih (hk _ (L.rely_refl _) hi') hi'
    exact ⟨List.isChain_cons_cons.mpr ⟨hguar, hchain⟩, List.forall_mem_cons.mpr ⟨hi', hall⟩, hend⟩

lemma getLast_visits (h : Visits allowed p s visited q s') : (s :: visited).getLast? = some s' := by
  induction h with
  | refl p s => rfl
  | step c hc hf rest ih => rw [List.getLast?_cons_cons, ih]

lemma visits_of_run {cs : List C} {a : α} (hcs : ∀ c ∈ cs, allowed c) (h : p.run cs s = some (a, s')) :
    ∃ visited, Visits allowed p s visited (.done a) s' := by
  induction p generalizing cs s with
  | done b =>
    cases h
    exact ⟨[], .refl _ _⟩
  | act γ f k ih =>
    obtain ⟨c, cs, x, s₁, rfl, hf, h⟩ := Prog.exists_of_run_act h
    obtain ⟨visited, hv⟩ := ih x (fun c hc => hcs c (List.mem_cons_of_mem _ hc)) h
    exact ⟨s₁ :: visited, .step c (hcs c List.mem_cons_self) hf hv⟩

/-- The program stopped where the choices end or an action blocks, and the state it is stopped in. -/
def stopped : Prog C S α → List C → S → Prog C S α × S
  | .act γ f k, c :: cs, s =>
    match f c s with
    | some (x, s') => stopped (k x) cs s'
    | none => (.act γ f k, s)
  | p, _, s => (p, s)

lemma visits_stopped (cs : List C) :
    ∃ visited, Visits (fun _ => True) p s visited (stopped p cs s).1 (stopped p cs s).2 := by
  induction p generalizing cs s with
  | done a => exact ⟨[], .refl _ _⟩
  | act γ f k ih =>
    cases cs with
    | nil => exact ⟨[], .refl _ _⟩
    | cons c cs =>
      rw [stopped]
      split
      next x s₁ hf =>
        obtain ⟨visited, hv⟩ := ih x cs
        exact ⟨s₁ :: visited, .step c trivial hf hv⟩
      · exact ⟨[], .refl _ _⟩

lemma steps_bind {β : Type} {k : α → Prog C S β} {q : Prog C S β}
    (h : Prog.Steps allowed (p >>= k) s q s') : (∃ p', Prog.Steps allowed p s p' s' ∧ q = p' >>= k) ∨
      ∃ a s₁, Prog.Steps allowed p s (.done a) s₁ ∧ Prog.Steps allowed (k a) s₁ q s' := by
  induction p generalizing s with
  | done a => exact .inr ⟨a, s, .refl _ _, h⟩
  | act γ f next ih =>
    cases h with
    | refl => exact .inl ⟨_, .refl _ _, rfl⟩
    | step c hc hf rest =>
      rcases ih _ rest with ⟨p', hp', hq⟩ | ⟨a, s₁, ha, hk⟩
      · exact .inl ⟨p', .step c hc hf hp', hq⟩
      · exact .inr ⟨a, s₁, .step c hc hf ha, hk⟩

lemma steps_atomic {f : C → S → Option (α × S)} (h : Prog.Steps allowed (.atomic f) s q s') :
    (q = .atomic f ∧ s' = s) ∨ ∃ c a, allowed c ∧ f c s = some (a, s') ∧ q = .done a := by
  cases h with
  | refl => exact .inl ⟨rfl, rfl⟩
  | step c hc hf rest =>
    cases rest
    exact .inr ⟨c, _, hc, hf, rfl⟩

/-- Another program looks at the states `trace` in turn, each of its actions at one of them; `rest` is still to
come. -/
inductive Watches (allowed : C → Prop) : Prog C S α → List S → α → List S → Prop where
  | done (a : α) (trace : List S) : Watches allowed (.done a) trace a trace
  | wait {p : Prog C S α} {s : S} {trace rest : List S} {a : α} (later : Watches allowed p trace a rest) :
      Watches allowed p (s :: trace) a rest
  | look {δ : Type} {f : C → S → Option (δ × S)} {k : δ → Prog C S α} {s s' : S} {x : δ}
      {trace rest : List S} {a : α} (c : C) (hc : allowed c) (h : f c s = some (x, s'))
      (later : Watches allowed (k x) (s :: trace) a rest) :
      Watches allowed (.act δ f k) (s :: trace) a rest

variable {β : Type} {trace rest : List S} {a : α}

lemma Watches.suffix (h : Watches allowed p trace a rest) : rest <:+ trace := by
  induction h with
  | done a trace => exact List.suffix_rfl
  | wait later ih => exact ih.trans (List.suffix_cons _ _)
  | look c hc h later ih => exact ih

lemma watches_bind {k : α → Prog C S β} {b : β} (h : Watches allowed (p >>= k) trace b rest) :
    ∃ a mid, Watches allowed p trace a mid ∧ Watches allowed (k a) mid b rest := by
  generalize hq : p >>= k = q at h
  induction h generalizing p with
  | done b trace =>
    cases p with
    | done a => exact ⟨a, trace, .done a trace, by rw [Prog.done_bind] at hq; rw [hq]; exact .done b trace⟩
    | act γ f next => cases hq
  | wait later ih =>
    obtain ⟨a, mid, hp, hk⟩ := ih hq
    exact ⟨a, mid, .wait hp, hk⟩
  | @look δ f next s s' x trace rest b c hc h later ih =>
    cases p with
    | done a =>
      rw [Prog.done_bind] at hq
      exact ⟨a, s :: trace, .done a _, by rw [hq]; exact .look c hc h later⟩
    | act γ f' next' =>
      cases hq
      obtain ⟨a, mid, hp, hk⟩ := ih rfl
      exact ⟨a, mid, .look c hc h hp, hk⟩

lemma watches_done {b : α} (h : Watches allowed (.done b : Prog C S α) trace a rest) : a = b := by
  generalize hq : (Prog.done b : Prog C S α) = q at h
  induction h with
  | done a trace => exact (Prog.done.inj hq).symm
  | wait later ih => exact ih hq
  | look c hc h later ih => cases hq

lemma watches_bindE {x : Attempt C S ε α} {k : α → Attempt C S ε β} {r : Except ε β}
    (h : Watches allowed (x >>= k).run trace r rest) :
    (∃ a mid, Watches allowed x.run trace (.ok a) mid ∧ Watches allowed (k a).run mid r rest) ∨
      ∃ e mid, Watches allowed x.run trace (.error e) mid ∧ r = .error e := by
  obtain ⟨b, mid, hx, hk⟩ := watches_bind h
  cases b with
  | ok a => exact .inl ⟨a, mid, hx, hk⟩
  | error e => exact .inr ⟨e, mid, hx, watches_done hk⟩

lemma watches_query {f : C → S → Except ε α} {r : Except ε α} (h : Watches allowed (query f).run trace r rest) :
    ∃ s later c, (s :: later) <:+ trace ∧ rest <:+ (s :: later) ∧ allowed c ∧ r = f c s := by
  generalize hq : (query f).run = q at h
  induction h with
  | done a trace => cases hq
  | wait later ih =>
    obtain ⟨s, after, c, hs, hrest, hc, hr⟩ := ih hq
    exact ⟨s, after, c, hs.trans (List.suffix_cons _ _), hrest, hc, hr⟩
  | look c hc h later ih =>
    cases hq
    cases h
    exact ⟨_, _, c, List.suffix_rfl, later.suffix, hc, watches_done later⟩

lemma watches_within {G : S → S → Prop} {R : α → Prop} (hp : Within allowed G (fun _ => True) R p)
    (h : Watches allowed p trace a rest) : R a := by
  induction h with
  | done a trace => exact hp
  | wait later ih => exact ih hp
  | look c hc h later ih => exact ih (hp c _ _ _ hc trivial h).2.2

end Howy.Library
