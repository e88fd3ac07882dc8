import Howy.Library.Triples

/-! What a program that only looks has seen once, it sees again wherever the state looks the same to it. -/

namespace Howy.Library

variable {C S ε α β : Type} {A : C → Prop} {E : S → S → Prop} {s : S} {p : Prog C S α} {f : C → S → Except ε α}

def Answers (A : C → Prop) (s : S) (r : α) : Prog C S α → Prop
  | .done a => a = r
  | .act _ f k => ∀ c, A c → ∃ x, f c s = some (x, s) ∧ Answers A s r (k x)

lemma answers_bind {k : α → Prog C S β} {a : α} {b : β} (hp : Answers A s a p)
    (hk : Answers A s b (k a)) : Answers A s b (p >>= k) := by
  induction p with
  | done a' =>
    cases hp
    exact hk
  | act γ f next ih =>
    intro c hc
    obtain ⟨x, hf, hx⟩ := hp c hc
    exact ⟨x, hf, ih x hx⟩

lemma answers_of_within {P : S → Prop} {r : α} (h : Within A Eq P (· = r) p) (hu : p.Unblocked)
    (hs : P s) : Answers A s r p := by
  induction p with
  | done a => exact h
  | act γ f k ih =>
    intro c hc
    obtain ⟨x, s', hf, hx⟩ := hu c s
    obtain ⟨rfl, -, hk⟩ := h c s x s' hc hs hf
    exact ⟨x, hf, ih x hk hx⟩

lemma Answers.ends {r : α} (h : Answers A s r p) {choices : ℕ → C} (hc : ∀ i, A (choices i)) :
    ∃ n, p.run ((List.range n).map choices) s = some (r, s) := by
  induction p generalizing choices with
  | done a =>
    cases h
    exact ⟨0, rfl⟩
  | act γ f k ih =>
    obtain ⟨x, hf, hx⟩ := h (choices 0) (hc 0)
    obtain ⟨n, hrun⟩ := ih x hx fun i => hc (i + 1)
    refine ⟨n + 1, ?_⟩
    rw [List.range_succ_eq_map, List.map_cons, Prog.run_act hf, List.map_map]
    exact hrun

lemma answers_of_finds {P : S → Prop} {F : ε → Prop} {x : Attempt C S ε α} {r : Except ε α} (h : Finds A P F r x)
    (hF : ∀ e, ¬ F e) (hu : x.run.Unblocked) (hs : P s) : Answers A s r x.run :=
  answers_of_within (Within.weaken h fun _ hr => hr.resolve_right fun ⟨e, he, _⟩ => hF e he) hu hs

lemma answers_bindE {x : Attempt C S ε α} {k : α → Attempt C S ε β} {r : Except ε α} {y : α → Except ε β}
    (hx : Answers A s r x.run) (hk : ∀ a, r = .ok a → Answers A s (y a) (k a).run) :
    Answers A s (r >>= y) (x >>= k).run := by
  apply answers_bind hx
  cases r with
  | ok a => exact hk a rfl
  | error e => exact rfl

/-- `answers_bindE`, where the program ends with more than what is asked of it. -/
lemma answers_bind_map {γ δ : Type} {x : Attempt C S ε α} {k : α → Attempt C S ε β} {r : Except ε α}
    {y : α → Except ε δ} {f : β → γ} {g : δ → γ} (hx : Answers A s r x.run)
    (hk : ∀ a, r = .ok a → ∃ r', Answers A s r' (k a).run ∧ r'.map f = (y a).map g) :
    ∃ r', Answers A s r' (x >>= k).run ∧ r'.map f = (r >>= y).map g := by
  cases r with
  | ok a =>
    obtain ⟨r', hr, hmap⟩ := hk a rfl
    exact ⟨r', answers_bind hx hr, hmap⟩
  | error e => exact ⟨.error e, answers_bind hx rfl, rfl⟩

def Sure (A : C → Prop) (p : Attempt C S ε α) (s : S) (a : α) : Prop := Answers A s (.ok a) p.run

variable {p : Attempt C S ε α} {k : α → Attempt C S ε β} {a : α} {b : β}

lemma sure_pure : Sure A (pure a : Attempt C S ε α) s a := rfl

lemma sure_fromExcept {x : Except ε α} (h : x = .ok a) : Sure A (fromExcept x) s a := h

lemma Sure.bind (hp : Sure A p s a) (hk : Sure A (k a) s b) : Sure A (p >>= k) s b := answers_bind hp hk

lemma answers_after {r : Except ε β} (hp : Sure A p s a) (hk : Answers A s r (k a).run) :
    Answers A s r (p >>= k).run := answers_bind hp hk

lemma sure_adapt {f : ε → ε} (h : Sure A p s a) : Sure A (p.adapt f : Attempt C S ε α) s a := answers_bind h rfl

lemma sure_action {f : C → S → Except ε α × S} (h : ∀ c, A c → f c s = (.ok a, s)) : Sure A (action f) s a :=
  fun c hc => ⟨.ok a, congrArg some (h c hc), rfl⟩

lemma sure_query (h : ∀ c, A c → f c s = .ok a) : Sure A (query f) s a :=
  sure_action fun c hc => congrArg (·, s) (h c hc)

/-- A program that only looks: what it succeeds with, it is sure of wherever `E` leads. -/
def Seen (A : C → Prop) (E : S → S → Prop) (p : Attempt C S ε α) : Prop :=
  Reads (fun s a => ∀ s', E s s' → Sure A p s' a) p

lemma seen_pure : Seen A E (pure a : Attempt C S ε α) := reads_pure fun _ _ _ => sure_pure

lemma seen_throw {e : ε} : Seen A E (throw e : Attempt C S ε α) := reads_throw

lemma seen_fromExcept {x : Except ε α} : Seen A E (fromExcept x) :=
  reads_fromExcept.weaken fun _ _ h _ _ => sure_fromExcept h

lemma seen_check {x : Except ε α} (hk : ∀ a, x = .ok a → Seen A E (k a)) : Seen A E (fromExcept x >>= k) := by
  cases x with
  | ok a => exact hk a rfl
  | error e => exact seen_throw

lemma seen_query
    (h : ∀ c s a, f c s = .ok a → ∀ c' s', A c' → E s s' → f c' s' = .ok a) : Seen A E (query f) :=
  reads_query fun c s a hf s' hs => sure_query fun c' hc => h c s a hf c' s' hc hs

lemma seen_adapt {f : ε → ε} (h : Seen A E p) : Seen A E (p.adapt f : Attempt C S ε α) :=
  (reads_adapt h).weaken fun _ _ ha s' hs => sure_adapt (ha s' hs)

lemma Seen.bind (hp : Seen A E p) (hk : ∀ a, Seen A E (k a)) : Seen A E (p >>= k) :=
  Reads.bind hp fun a => (hk a).weaken fun _ _ hb ha s' hs => (ha s' hs).bind (hb s' hs)

end Howy.Library
