import Howy.Library.Fallible

/-! Pre- and postconditions for fallible programs that run alone and may be stopped after any action. -/

namespace Howy.Library

variable {C S ε α β : Type} {f : C → S → Option (Except ε α × S)} {R₂ : S → α → Prop}

def solo (inv : S → Prop) (guar : S → S → Prop) : Logic C S where
  choice _ := True
  inv := inv
  rely := Eq
  guar := guar
  rely_refl _ := rfl
  rely_trans := Eq.trans

variable {inv inv' : S → Prop} {guar : S → S → Prop}

/-- From a state in `P` the program is safe, and it succeeds only with results and states in `Q`. -/
def Triple (inv : S → Prop) (guar : S → S → Prop) (P : S → Prop) (p : Attempt C S ε α) (Q : α → S → Prop) : Prop :=
  ∀ s, inv s → P s → Safe (solo inv guar) (Results Q fun _ _ => True) p.run s

variable {P P' : S → Prop} {Q Q' : α → S → Prop} {R : β → S → Prop} {p : Attempt C S ε α}

lemma Triple.safe {s : S} {post : Except ε α → S → Prop} (h : Triple inv guar P p Q) (hi : inv s) (hs : P s)
    (hok : ∀ a s, inv s → Q a s → post (.ok a) s) (herror : ∀ e s, inv s → post (.error e) s) :
    Safe (solo inv guar) post p.run s := by
  apply Safe.weaken (Safe.with_inv (h s hi hs) hi)
  rintro r s' ⟨hr, hi'⟩
  cases r with
  | ok a => exact hok a s' hi' hr
  | error e => exact herror e s' hi'

lemma Triple.conseq (h : Triple inv guar P p Q) (hP : ∀ s, inv s → P' s → P s) (hQ : ∀ a s, inv s →
    Q a s → Q' a s) : Triple inv guar P' p Q' :=
  fun s hi hs => h.safe hi (hP s hi hs) hQ fun _ _ _ => trivial

lemma Triple.pre (h : Triple inv guar P p Q) (hP : ∀ s, inv s → P' s → P s) : Triple inv guar P' p Q :=
  h.conseq hP fun _ _ _ hq => hq

lemma Triple.post (h : Triple inv guar P p Q) (hQ : ∀ a s, inv s → Q a s → Q' a s) : Triple inv guar P p Q' :=
  h.conseq (fun _ _ hp => hp) hQ

variable {k : α → Attempt C S ε β} {e : ε}

lemma Triple.bind (hp : Triple inv guar P p Q) (hk : ∀ a, Triple inv guar (Q a) (k a) R) :
    Triple inv guar P (p >>= k) R := by
  intro s hi hs
  apply safe_bindE
  exact hp.safe hi hs hk fun _ _ _ => trivial

lemma triple_pure {a : α} (h : ∀ s, inv s → P s → Q a s) : Triple inv guar P (pure a : Attempt C S ε α) Q :=
  fun s hi hs => h s hi hs

lemma triple_id {a : α} : Triple inv guar P (pure a : Attempt C S ε α) fun _ => P := triple_pure fun _ _ hs => hs

lemma triple_any {a : α} : Triple inv guar P (pure a : Attempt C S ε α) fun _ _ => True :=
  triple_pure fun _ _ _ => trivial

lemma triple_throw : Triple inv guar P (throw e : Attempt C S ε α) Q := fun _ _ _ => trivial

lemma triple_throw_bind : Triple inv guar P (throw e >>= k) R := fun _ _ _ => trivial

lemma triple_true : Triple (fun _ => True) (fun _ _ => True) P p fun _ _ => True := by
  rintro s - -
  generalize p.run = q
  induction q generalizing s with
  | done r => cases r <;> trivial
  | act γ f k ih => exact fun c x s' _ _ => ⟨trivial, trivial, fun s'' _ _ => ih x s''⟩

lemma triple_intro (h : ∀ s, inv s → P s → Triple inv guar (· = s) p Q) : Triple inv guar P p Q :=
  fun s hi hs => h s hi hs s hi rfl

lemma triple_of_imp {φ : Prop} (h : φ → Triple inv guar P p Q) : Triple inv guar (fun s => φ ∧ P s) p Q :=
  fun s hi hs => h hs.1 s hi hs.2

lemma triple_exists {ι : Type} {P : ι → S → Prop} (h : ∀ i, Triple inv guar (P i) p Q) :
    Triple inv guar (fun s => ∃ i, P i s) p Q := by
  rintro s hi ⟨i, hs⟩
  exact h i s hi hs

lemma triple_atomic
    (h : ∀ c s r s', inv s → P s → f c s = some (r, s') → guar s s' ∧ inv s' ∧ ∀ a, r = .ok a → Q a s') :
    Triple inv guar P (ExceptT.mk (Prog.atomic f)) Q := by
  intro s hi hs
  apply safe_atomic
  intro c r s' _ hf
  obtain ⟨hg, hi', hq⟩ := h c s r s' hi hs hf
  refine ⟨hg, hi', ?_⟩
  rintro _ rfl -
  cases r with
  | ok a => exact hq a rfl
  | error e => trivial

lemma triple_action {f : C → S → Except ε α × S}
    (h : ∀ c s, inv s → P s → guar s (f c s).2 ∧ inv (f c s).2 ∧ ∀ a, (f c s).1 = .ok a → Q a (f c s).2) :
    Triple inv guar P (action f) Q := by
  apply triple_atomic
  intro c s r s' hi hs hf
  rw [Option.some.injEq, Prod.ext_iff] at hf
  obtain ⟨rfl, rfl⟩ := hf
  exact h c s hi hs

lemma triple_lift {R : Except ε α → S → Prop} (hok : Triple inv guar P p fun a => R (.ok a))
    (herror : ∀ e s, inv s → R (.error e) s) :
    Triple inv guar P (ExceptT.lift p.run : Attempt C S ε (Except ε α)) R := by
  intro s hi hs
  apply safe_bind
  exact hok.safe hi hs (fun _ _ _ hr => hr) herror

lemma triple_guarded {acquire : Attempt C S ε Unit} {release : S → S} (ha : Triple inv guar P acquire fun _ => P')
    (hp : Triple inv guar P' p Q) (hr : ∀ s, inv s → guar s (release s) ∧ inv (release s))
    (hq : ∀ a s, inv s → Q a s → Q a (release s)) : Triple inv guar P (guarded acquire release p) Q := by
  intro s hi hs
  apply safe_guarded
  refine ha.safe hi hs (fun _ s hi hs => ?_) fun _ _ _ => trivial
  refine hp.safe hi hs (fun a s hi hs => ?_) fun e s hi => ?_
  · refine ⟨(hr s hi).1, (hr s hi).2, ?_⟩
    rintro _ rfl -
    exact hq a s hi hs
  · exact ⟨(hr s hi).1, (hr s hi).2, fun _ _ _ => trivial⟩

lemma Triple.weaken_inv (h : Triple inv guar P p Q) (hinv : ∀ s, inv s → inv' s) (hP : ∀ s, P s → inv s) :
    Triple inv' guar P p fun a s => Q a s ∧ inv s := by
  intro s _ hs
  refine ((h s (hP s hs) hs).with_inv (hP s hs)).mono (fun _ hc => hc) (fun _ _ hg => hg) hinv
    (fun _ _ hi hr _ => ⟨hr, hr ▸ hi⟩) ?_
  rintro r s ⟨hr, hi⟩
  cases r with
  | ok a => exact ⟨hr, hi⟩
  | error e => trivial

/-- A program that only looks; what it succeeds with is related to the state by `R`. -/
def Reads (R : S → α → Prop) (p : Attempt C S ε α) : Prop :=
  ∀ s, Within (fun _ => True) Eq (fun t => t = s) (OnResult (R s) fun _ => True) p.run

variable {R : S → α → Prop} {R' : S → β → Prop}

lemma reads_pure {a : α} (h : ∀ s, R s a) : Reads R (pure a : Attempt C S ε α) := fun s => h s

lemma reads_throw : Reads R (throw e : Attempt C S ε α) := fun _ => trivial

lemma reads_throw_bind : Reads R' (throw e >>= k) := fun _ => trivial

lemma reads_atomic
    (h : ∀ c s r s', f c s = some (r, s') → s' = s ∧ ∀ a, r = .ok a → R s a) :
    Reads R (ExceptT.mk (Prog.atomic f)) := by
  rintro s c _ r s' - rfl hf
  obtain ⟨rfl, hr⟩ := h c _ r s' hf
  refine ⟨rfl, rfl, ?_⟩
  cases r with
  | ok a => exact hr a rfl
  | error e => trivial

lemma reads_query {f : C → S → Except ε α} (h : ∀ c s a, f c s = .ok a → R s a) : Reads R (query f) := by
  intro s
  apply within_query fun _ => rfl
  rintro c _ - rfl
  cases hf : f c _ with
  | ok a => exact h c _ a hf
  | error e => trivial

lemma Reads.weaken (h : Reads R p) (hr : ∀ s a, R s a → R₂ s a) : Reads R₂ p := by
  intro s
  apply Within.weaken (h s)
  intro r
  cases r with
  | ok a => exact hr s a
  | error e => exact id

lemma Reads.and (h : Reads R p) (h' : Reads R₂ p) : Reads (fun s a => R s a ∧ R₂ s a) p := by
  intro s
  apply Within.weaken ((h s).and (h' s))
  rintro r ⟨hr, hr'⟩
  cases r with
  | ok a => exact ⟨hr, hr'⟩
  | error e => trivial

lemma reads_adapt {f : ε → ε} (h : Reads R p) : Reads R (p.adapt f : Attempt C S ε α) := by
  intro s
  refine within_bind (Within.weaken (h s) fun r hr => ?_)
  cases r with
  | ok a => exact hr
  | error e => trivial

lemma reads_lift (h : Reads R p) :
    Reads (fun s r => OnResult (R s) (fun _ => True) r) (ExceptT.lift p.run : Attempt C S ε (Except ε α)) := by
  intro s
  exact within_bind (Within.weaken (h s) fun r hr => hr)

lemma Reads.bind (hp : Reads R p) (hk : ∀ a, Reads (fun s b => R s a → R' s b) (k a)) : Reads R' (p >>= k) := by
  intro s
  apply Within.bindE (hp s)
  intro a ha
  apply Within.weaken (hk a s)
  intro r hr
  cases r with
  | ok b => exact hr ha
  | error e => trivial

lemma Reads.andThen (hp : Reads R p) (hk : ∀ a, Reads R' (k a)) : Reads R' (p >>= k) :=
  hp.bind fun a => (hk a).weaken fun _ _ hb _ => hb

lemma reads_fromExcept {x : Except ε α} : Reads (fun _ a => x = .ok a) (fromExcept x : Attempt C S ε α) := by
  intro s
  cases x with
  | ok a => rfl
  | error e => trivial

lemma reads_check {x : Except ε α} (hk : ∀ a, x = .ok a → Reads R' (k a)) : Reads R' (fromExcept x >>= k) := by
  cases x with
  | ok a => exact hk a rfl
  | error e => exact reads_throw

lemma Triple.check {x : Except ε α} {Q : β → S → Prop} (hk : ∀ a, x = .ok a → Triple inv guar P (k a) Q) :
    Triple inv guar P (fromExcept x >>= k) Q := by
  cases x with
  | ok a => exact hk a rfl
  | error e => exact fun _ _ _ => trivial

lemma Triple.steps {q : Prog C S (Except ε α)} {s s' : S} (h : Triple inv guar P p Q) (hi : inv s) (hs : P s)
    (hsteps : Prog.Steps (fun _ => True) p.run s q s') :
    inv s' ∧ Safe (solo inv guar) (Results Q fun _ _ => True) q s' :=
  safe_of_steps (L := solo inv guar) hsteps (h s hi hs) hi

instance refl_true : Std.Refl (fun _ _ : S => True) := ⟨fun _ => trivial⟩

variable [Std.Refl guar]

lemma Reads.triple (h : Reads R p) : Triple inv guar P p fun a s => P s ∧ R s a := by
  intro s hi hs
  apply Within.safe (h s) (fun _ _ => trivial) ?_ ?_ ?_ rfl hi
  · rintro t _ - ht rfl
    exact ⟨Std.Refl.refl (r := guar) t, ht⟩
  · rintro t _ ht rfl -
    exact ht
  rintro r _ hr rfl -
  cases r with
  | ok a => exact ⟨hs, hr⟩
  | error e => trivial

lemma Reads.keeps (h : Reads R p) : Triple inv guar P p fun _ => P := h.triple.post fun _ _ _ hs => hs.1

variable {Q : β → S → Prop}

lemma Triple.look (hp : Reads R p) (hk : ∀ a, Triple inv guar (fun s => P s ∧ R s a) (k a) Q) :
    Triple inv guar P (p >>= k) Q := hp.triple.bind hk

lemma Triple.skip (hp : Reads R p) (hk : ∀ a, Triple inv guar P (k a) Q) : Triple inv guar P (p >>= k) Q :=
  hp.keeps.bind hk

lemma Triple.at {x : S} (hp : Reads R p) (hk : ∀ a, R x a → Triple inv guar (· = x) (k a) Q) :
    Triple inv guar (· = x) (p >>= k) Q := by
  refine .look hp fun a => ?_
  rintro s hi ⟨rfl, hr⟩
  exact hk a hr s hi rfl

end Howy.Library
