import Mathlib.Data.Set.Basic
import Mathlib.Logic.Relation

/-! Programs of atomic actions on a shared state, and rules to reason about them under interference. -/

namespace Howy.Library

/-- A program over states `S`: every action may consult a choice of the environment and may block. -/
inductive Prog (C S α : Type) : Type 1 where
  | done (a : α) : Prog C S α
  | act (β : Type) (f : C → S → Option (β × S)) (k : β → Prog C S α) : Prog C S α

namespace Prog

variable {C S α β γ : Type} {p : Prog C S α} {cs : List C} {k : α → Prog C S β}

def bind : Prog C S α → (α → Prog C S β) → Prog C S β
  | .done a, k => k a
  | .act γ f next, k => .act γ f fun x => (next x).bind k

instance : Monad (Prog C S) where
  pure := .done
  bind := bind

def atomic (f : C → S → Option (α × S)) : Prog C S α := .act α f .done

@[simp] lemma done_bind (a : α) (k : α → Prog C S β) : (Prog.done a : Prog C S α) >>= k = k a := rfl

lemma act_bind (f : C → S → Option (γ × S)) (next : γ → Prog C S α) (k : α → Prog C S β) :
    (Prog.act γ f next : Prog C S α) >>= k = .act γ f fun x => next x >>= k := rfl

/-- The states a program can be stopped in: it has taken some of its actions, undisturbed. -/
inductive Steps (allowed : C → Prop) : Prog C S α → S → Prog C S α → S → Prop where
  | refl (p : Prog C S α) (s : S) : Steps allowed p s p s
  | step {δ : Type} {f : C → S → Option (δ × S)} {k : δ → Prog C S α} {s s' s'' : S} {x : δ} {q : Prog C S α}
      (c : C) (hc : allowed c) (h : f c s = some (x, s')) (rest : Steps allowed (k x) s' q s'') :
      Steps allowed (.act δ f k) s q s''

/-- Run a program undisturbed with these choices; `none` when an action blocks or the choices end. -/
def run : Prog C S α → List C → S → Option (α × S)
  | .done a, _, s => some (a, s)
  | .act _ _ _, [], _ => none
  | .act _ f k, c :: cs, s =>
    match f c s with
    | none => none
    | some (x, s') => (k x).run cs s'

lemma run_act {f : C → S → Option (γ × S)} {k : γ → Prog C S α} {c : C} {s s' : S} {x : γ}
    (h : f c s = some (x, s')) : (Prog.act γ f k).run (c :: cs) s = (k x).run cs s' := by
  rw [run, h]

lemma exists_of_run_act {f : C → S → Option (γ × S)} {k : γ → Prog C S α} {s : S} {r : α × S}
    (h : (Prog.act γ f k).run cs s = some r) :
    ∃ c ds x s', cs = c :: ds ∧ f c s = some (x, s') ∧ (k x).run ds s' = some r := by
  cases cs with
  | nil => cases h
  | cons c cs =>
    rw [run] at h
    split at h
    · cases h
    next x s' hf =>
      exact ⟨c, cs, x, s', rfl, hf, h⟩

lemma run_append {ds : List C} {s : S} {r : α × S} (h : p.run cs s = some r) : p.run (cs ++ ds) s = some r := by
  induction p generalizing cs s with
  | done a => exact h
  | act γ f next ih =>
    obtain ⟨c, cs, x, s₁, rfl, hf, h⟩ := exists_of_run_act h
    rw [List.cons_append, run_act hf]
    exact ih x h

lemma run_bind_of_done {s s' : S} {a : α} {b : β}
    (h : p.run cs s = some (a, s')) (hk : k a = .done b) : (p >>= k).run cs s = some (b, s') := by
  induction p generalizing cs s with
  | done a' =>
    cases h
    rw [done_bind, hk, run]
  | act γ f next ih =>
    obtain ⟨c, cs, x, s₁, rfl, hf, h⟩ := exists_of_run_act h
    rw [act_bind, run_act hf]
    exact ih x h

lemma steps_of_run {allowed : C → Prop} {s s' : S} {a : α}
    (hcs : ∀ c ∈ cs, allowed c) (h : p.run cs s = some (a, s')) : Steps allowed p s (.done a) s' := by
  induction p generalizing cs s with
  | done b =>
    cases h
    exact .refl _ _
  | act γ f k ih =>
    obtain ⟨c, cs, x, s₁, rfl, hf, h⟩ := exists_of_run_act h
    exact .step c (hcs c List.mem_cons_self) hf (ih x (fun c hc => hcs c (List.mem_cons_of_mem _ hc)) h)

def Unblocked : Prog C S α → Prop
  | .done _ => True
  | .act _ f k => ∀ c s, ∃ x s', f c s = some (x, s') ∧ (k x).Unblocked

lemma unblocked_bind (hp : p.Unblocked) (hk : ∀ a, (k a).Unblocked) : (p >>= k).Unblocked := by
  induction p with
  | done a => exact hk a
  | act γ f next ih =>
    intro c s
    obtain ⟨x, s', hf, hx⟩ := hp c s
    exact ⟨x, s', hf, ih x hx⟩

lemma Unblocked.ends (h : p.Unblocked) (choices : ℕ → C) (s : S) :
    ∃ n a s', p.run ((List.range n).map choices) s = some (a, s') := by
  induction p generalizing choices s with
  | done a => exact ⟨0, a, s, rfl⟩
  | act γ f k ih =>
    obtain ⟨x, s₁, hf, hx⟩ := h (choices 0) s
    obtain ⟨n, a, s', hrun⟩ := ih x hx (fun i => choices (i + 1)) s₁
    refine ⟨n + 1, a, s', ?_⟩
    rw [List.range_succ_eq_map, List.map_cons, run, hf, List.map_map]
    exact hrun

end Prog

/-- What one thread relies on, guarantees and keeps invariant, and which choices it expects. -/
structure Logic (C S : Type) where
  choice : C → Prop
  inv : S → Prop
  rely : S → S → Prop
  guar : S → S → Prop
  rely_refl : ∀ s, rely s s
  rely_trans : ∀ {a b c}, rely a b → rely b c → rely a c

def Logic.alone {C S : Type} (choice : C → Prop) (inv : S → Prop) : Logic C S where
  choice := choice
  inv := inv
  rely := Eq
  guar _ _ := True
  rely_refl _ := rfl
  rely_trans := Eq.trans

section

variable {C S α β γ : Type} (L : Logic C S)

/-- Every action the program takes from `s` keeps the guarantee and the invariant, whatever the others do
between. -/
def Safe (post : α → S → Prop) : Prog C S α → S → Prop
  | .done a, s => post a s
  | .act γ f k, s => ∀ c (x : γ) s', L.choice c → f c s = some (x, s') → L.guar s s' ∧ L.inv s' ∧
      ∀ s'', L.rely s' s'' → L.inv s'' → Safe post (k x) s''

variable {L} {post : α → S → Prop} {p : Prog C S α} {s s' : S}

/-- What is safe stays so where more is kept, less is relied on and less is asked of the end. -/
lemma Safe.mono {L' : Logic C S} {post' : α → S → Prop} (h : Safe L post p s) (hc : ∀ c, L'.choice c → L.choice c)
    (hg : ∀ s s', L.guar s s' → L'.guar s s') (hi : ∀ s, L.inv s → L'.inv s)
    (hr : ∀ s s', L.inv s → L'.rely s s' → L'.inv s' → L.rely s s' ∧ L.inv s')
    (hp : ∀ a s, post a s → post' a s) : Safe L' post' p s := by
  induction p generalizing s with
  | done a => exact hp a s h
  | act γ f k ih =>
    intro c x s₁ hc' hf
    obtain ⟨hguar, hinv, hk⟩ := h c x s₁ (hc c hc') hf
    refine ⟨hg s s₁ hguar, hi s₁ hinv, fun s₂ hrely hinv' => ?_⟩
    obtain ⟨hrely', hinv₂⟩ := hr s₁ s₂ hinv hrely hinv'
    exact ih x (hk s₂ hrely' hinv₂)

lemma Safe.weaken {post' : α → S → Prop} (h : Safe L post p s) (hp : ∀ a s, post a s → post' a s) :
    Safe L post' p s :=
  h.mono (fun _ hc => hc) (fun _ _ hg => hg) (fun _ hi => hi) (fun _ _ _ hr hi => ⟨hr, hi⟩) hp

lemma Safe.with_inv (h : Safe L post p s) (hi : L.inv s) : Safe L (fun a s => post a s ∧ L.inv s) p s := by
  induction p generalizing s with
  | done a => exact ⟨h, hi⟩
  | act γ f k ih =>
    intro c x s' hc hf
    obtain ⟨hg, hi', hk⟩ := h c x s' hc hf
    exact ⟨hg, hi', fun s'' hr hi'' => ih x (hk s'' hr hi'') hi''⟩

variable {k : α → Prog C S β}

lemma safe_bind {post : β → S → Prop} (h : Safe L (fun a s => Safe L post (k a) s) p s) :
    Safe L post (p >>= k) s := by
  induction p generalizing s with
  | done a => exact h
  | act γ f next ih =>
    intro c x s' hc hf
    obtain ⟨hg, hi, hk⟩ := h c x s' hc hf
    exact ⟨hg, hi, fun s'' hr hi' => ih x (hk s'' hr hi')⟩

lemma safe_atomic {f : C → S → Option (α × S)}
    (h : ∀ c a s', L.choice c → f c s = some (a, s') → L.guar s s' ∧ L.inv s' ∧
      ∀ s'', L.rely s' s'' → L.inv s'' → post a s'') : Safe L post (Prog.atomic f) s := h

lemma safe_of_steps {q : Prog C S α} (hs : Prog.Steps L.choice p s q s') (h : Safe L post p s) (hi : L.inv s) :
    L.inv s' ∧ Safe L post q s' := by
  induction hs with
  | refl p s => exact ⟨hi, h⟩
  | step c hc hf rest ih =>
    obtain ⟨-, hi', hk⟩ := h c _ _ hc hf
    exact ih (hk _ (L.rely_refl _) hi') hi'

lemma post_of_run {cs : List C} {a : α} (h : Safe L post p s) (hi : L.inv s) (hcs : ∀ c ∈ cs, L.choice c)
    (hr : p.run cs s = some (a, s')) : post a s' ∧ L.inv s' :=
  And.comm.mp (safe_of_steps (Prog.steps_of_run hcs hr) h hi)

end

variable {C S α β : Type} {A : C → Prop} {G : S → S → Prop} {P : S → Prop} {R R' : α → Prop} {p : Prog C S α}

/-- From states in `P`, every action under a choice in `A` is a step of `G` that stays in `P`; the result is in
`R`. -/
def Within (A : C → Prop) (G : S → S → Prop) (P : S → Prop) (R : α → Prop) : Prog C S α → Prop
  | .done a => R a
  | .act γ f k => ∀ c s (x : γ) s', A c → P s → f c s = some (x, s') → G s s' ∧ P s' ∧ Within A G P R (k x)

lemma Within.result_of_run {cs : List C} {s s' : S} {a : α} (h : Within A G P R p) (hcs : ∀ c ∈ cs, A c) (hs : P s)
    (hrun : p.run cs s = some (a, s')) : R a := by
  induction p generalizing cs s with
  | done b =>
    cases hrun
    exact h
  | act γ f k ih =>
    obtain ⟨c, cs, x, s₁, rfl, hf, hrun⟩ := Prog.exists_of_run_act hrun
    obtain ⟨-, hs₁, hk⟩ := h c s x s₁ (hcs c List.mem_cons_self) hs hf
    exact ih x hk (fun c hc => hcs c (List.mem_cons_of_mem _ hc)) hs₁ hrun

lemma Within.and (h : Within A G P R p) (h' : Within A G P R' p) : Within A G P (fun a => R a ∧ R' a) p := by
  induction p with
  | done a => exact ⟨h, h'⟩
  | act γ f k ih =>
    intro c s x s' hc hs hf
    obtain ⟨hg, hs', hk⟩ := h c s x s' hc hs hf
    exact ⟨hg, hs', ih x hk (h' c s x s' hc hs hf).2.2⟩

lemma Within.mono {G' : S → S → Prop} {P' : S → Prop} (h : Within A G P R p) (hP : ∀ s, P' s → P s)
    (hG : ∀ s s', P' s → P s' → G s s' → G' s s' ∧ P' s') (hR : ∀ a, R a → R' a) : Within A G' P' R' p := by
  induction p with
  | done a => exact hR a h
  | act γ f k ih =>
    intro c s x s' hc hs hf
    obtain ⟨hg, hs', hk⟩ := h c s x s' hc (hP s hs) hf
    obtain ⟨hg', hs''⟩ := hG s s' hs hs' hg
    exact ⟨hg', hs'', ih x hk⟩

lemma Within.weaken (h : Within A G P R p) (hr : ∀ a, R a → R' a) : Within A G P R' p :=
  h.mono (fun _ hs => hs) (fun _ _ _ hs hg => ⟨hg, hs⟩) hr

lemma Within.relax {G' : S → S → Prop} (h : Within A G P R p) (hG : ∀ s s', G s s' → G' s s') :
    Within A G' P R p :=
  h.mono (fun _ hs => hs) (fun s s' _ hs hg => ⟨hG s s' hg, hs⟩) fun _ hr => hr

lemma Within.restrict {P' : S → Prop} (h : Within A Eq P R p) (hP : ∀ s, P' s → P s) : Within A Eq P' R p :=
  h.mono hP (fun _ _ hs _ he => ⟨he, he ▸ hs⟩) fun _ hr => hr

lemma Within.keeping {I : S → Prop} (h : Within A G P R p) (hI : ∀ s s', P s → G s s' → I s → I s') :
    Within A G (fun s => P s ∧ I s) R p :=
  h.mono (fun _ hs => hs.1) (fun s s' hs hs' hg => ⟨hg, hs', hI s s' hs.1 hg hs.2⟩) fun _ hr => hr

lemma within_bind {R : β → Prop} (h : Within A G P (fun a => Within A G P R (k a)) p) :
    Within A G P R (p >>= k) := by
  induction p with
  | done a => exact h
  | act γ f next ih =>
    intro c s x s' hc hs hf
    obtain ⟨hg, hs', hk⟩ := h c s x s' hc hs hf
    exact ⟨hg, hs', ih x hk⟩

lemma Within.safe {L : Logic C S} {post : α → S → Prop} {s : S} (h : Within A G P R p) (hA : ∀ c, L.choice c → A c)
    (hG : ∀ s s', P s → L.inv s → G s s' → L.guar s s' ∧ L.inv s')
    (hP : ∀ s s', P s → L.rely s s' → L.inv s' → P s') (hpost : ∀ a s, R a → P s → L.inv s → post a s)
    (hs : P s) (hi : L.inv s) : Safe L post p s := by
  induction p generalizing s with
  | done a => exact hpost a s h hs hi
  | act γ f k ih =>
    intro c x s' hc hf
    obtain ⟨hg, hs', hk⟩ := h c s x s' (hA c hc) hs hf
    obtain ⟨hguar, hi'⟩ := hG s s' hs hi hg
    exact ⟨hguar, hi', fun s'' hr hi'' => ih x hk (hP s' s'' hs' hr hi'') hi''⟩

end Howy.Library
