import Howy.Storage.Mode1Files

namespace Howy.Storage.Mode1

open Library Function

abbrev View := Name → Option FileNode

def view (d : Directory) : View := fun name => d.lookup name

@[simp] lemma view_insert (d : Directory) (name : Name) (node : FileNode) :
    view (d.insert name node) = update (view d) name (some node) := by
  funext x
  rw [update_apply, view, lookup_insert_eq]
  rfl

@[simp] lemma view_erase (d : Directory) (name : Name) : view (d.erase name) = update (view d) name none := by
  funext x
  rw [update_apply, view, lookup_erase_eq]
  rfl

variable {d d' : Directory} {old new name : Name} {operation : IoOperation} {point : BackendHookPoint}
  {e : StorageBackendError} {owner : ℕ}

lemma view_rename (h : d.rename old new = .ok d') :
    view d' = update (update (view d) old none) new (view d old) := by
  rw [Directory.rename] at h
  split at h
  · cases h
  next node hold _ =>
    cases h
    rw [view_insert, view_erase, show view d old = some node from hold]
  rename_i node target hold _
  split at h
  · cases h
  · cases h
    rw [view_insert, view_erase, show view d old = some node from hold]

lemma view_exchange {left right : Name} (h : d.exchange left right = .ok d') :
    view d' = update (update (view d) left (view d right)) right (view d left) := by
  rw [Directory.exchange] at h
  split at h
  next a b ha hb =>
    cases h
    rw [view_insert, view_insert, show view d left = some a from ha, show view d right = some b from hb]
  · cases h

lemma view_renameNoReplace (h : d.renameNoReplace old new = .ok d') :
    view d new = none ∧ view d' = update (update (view d) old none) new (view d old) := by
  rw [Directory.renameNoReplace] at h
  split at h
  · cases h
  · cases h
  rename_i node hold hnew
  cases h
  rw [view_insert, view_erase, show view d old = some node from hold]
  exact ⟨hnew, rfl⟩

lemma view_unlink (h : d.unlink name = .ok d') : view d' = update (view d) name none := by
  rw [Directory.unlink] at h
  split at h
  · cases h
  split at h
  · cases h
  · cases h
    exact view_erase d name

def recordNode (owner : ℕ) (contents : Bytes) : FileNode := ⟨.regular, owner, storageRecordMode, 1, contents⟩

lemma view_create (h : d.create owner name = .ok d') :
    view d name = none ∧ view d' = update (view d) name (some (recordNode owner [])) := by
  rw [Directory.create] at h
  split at h
  · cases h
  next hname =>
    cases h
    exact ⟨hname, view_insert d name _⟩

lemma view_setContents {contents : Bytes} (h : view d name = some (recordNode owner contents))
    (bytes : Bytes) : view (d.setContents name bytes) = update (view d) name (some (recordNode owner bytes)) := by
  change d.lookup name = _ at h
  rw [Directory.setContents, h]
  exact view_insert d name _

def quietly (A : Choice → Prop) (Q : View → Prop) : Logic Choice (Shared Directory) :=
  Logic.alone A fun s => Q (view s.disk)

def Faulty (A : Choice → Prop) : Prop := ∃ c, A c ∧ ¬ c.FaultFree

def Fatal (A : Choice → Prop) (e : StorageBackendError) : Prop := Faulty A ∧ e = .unavailable

variable {α β : Type} {A : Choice → Prop} {Q : View → Prop} {v : View} {good : α → View → Prop}
  {bad : StorageBackendError → View → Prop} {fatal : StorageBackendError → Prop}

def Outcome (s₀ : Shared Directory) (good : α → View → Prop) (bad : StorageBackendError → View → Prop)
    (fatal : StorageBackendError → Prop) : BackendResult α → Shared Directory → Prop :=
  Results (fun a s => ∃ d, s = { s₀ with disk := d } ∧ good a (view d)) fun e s =>
    (∃ d, s = { s₀ with disk := d } ∧ bad e (view d)) ∨
      (fatal e ∧ ∃ d, s = { s₀ with disk := d, poisoned := true, cache := s₀.cache.poison })

/-- From the view `v` the program passes only views in `Q`, and ends as described; it may also poison with an error
in `fatal`. -/
def Moves (A : Choice → Prop) (Q : View → Prop) (v : View) (good : α → View → Prop)
    (bad : StorageBackendError → View → Prop) (fatal : StorageBackendError → Prop) (p : Op Directory α) : Prop :=
  ∀ s₀ d, view d = v → Safe (quietly A Q) (Outcome s₀ good bad fatal) p.run { s₀ with disk := d }

lemma moves_pure {a : α} (h : good a v) : Moves A Q v good bad fatal (pure a) := fun _ d hd => ⟨d, rfl, hd ▸ h⟩

lemma moves_throw (h : bad e v) : Moves A Q v good bad fatal (throw e : Op Directory α) :=
  fun _ d hd => .inl ⟨d, rfl, hd ▸ h⟩

variable {p : Op Directory α} {f : Directory → Except IoKind Directory}

lemma moves_bind {good : β → View → Prop} {k : α → Op Directory β}
    (h : Moves A Q v (fun a w => Moves A Q w good bad fatal (k a)) bad fatal p) :
    Moves A Q v good bad fatal (p >>= k) := by
  intro s₀ d hd
  apply safe_bindE
  apply Safe.weaken (h s₀ d hd)
  intro r s hr
  cases r with
  | ok a =>
    obtain ⟨d', rfl, hk⟩ := hr
    exact hk s₀ d' rfl
  | error e => exact hr

lemma Moves.weaken {good' : α → View → Prop} {bad' : StorageBackendError → View → Prop}
    {fatal' : StorageBackendError → Prop} (h : Moves A Q v good bad fatal p) (hgood : ∀ a w, good a w → good' a w)
    (hbad : ∀ e w, bad e w → bad' e w) (hfatal : ∀ e, fatal e → fatal' e) : Moves A Q v good' bad' fatal' p := by
  intro s₀ d hd
  apply Safe.weaken (h s₀ d hd)
  intro r s hr
  cases r with
  | ok a =>
    obtain ⟨d', hs, hg⟩ := hr
    exact ⟨d', hs, hgood _ _ hg⟩
  | error e =>
    rcases hr with ⟨d', hs, hb⟩ | ⟨hf, hs⟩
    · exact .inl ⟨d', hs, hbad _ _ hb⟩
    · exact .inr ⟨hfatal e hf, hs⟩

lemma Moves.post {good' : α → View → Prop} (h : Moves A Q v good bad fatal p)
    (hgood : ∀ a w, good a w → good' a w) :
    Moves A Q v good' bad fatal p := h.weaken hgood (fun _ _ hb => hb) fun _ hf => hf

lemma Moves.bind {good' : β → View → Prop} {k : α → Op Directory β} (h : Moves A Q v good bad fatal p)
    (hk : ∀ a w, good a w → Moves A Q w good' bad fatal (k a)) : Moves A Q v good' bad fatal (p >>= k) :=
  moves_bind (h.post hk)

lemma Moves.within {Q' : View → Prop} (h : Moves A Q v good bad fatal p) (hQ : ∀ w, Q w → Q' w) :
    Moves A Q' v good bad fatal p := fun s₀ d hd =>
  (h s₀ d hd).mono (fun _ hc => hc) (fun _ _ hg => hg) (fun s => hQ (view s.disk))
    (fun _ _ hi hr _ => ⟨hr, hr ▸ hi⟩) fun _ _ hp => hp

/-- One action that changes the directory by `f`, or fails without effect: because `f` does, or by a fault. -/
def Tries (f : Directory → Except IoKind Directory) (p : Op Directory Unit) : Prop :=
  ∃ g, p = action g ∧ ∀ c s, (∃ e, g c s = (.error e, s) ∧ (c.FaultFree → ∃ kind, f s.disk = .error kind)) ∨
    ∃ d, f s.disk = .ok d ∧ g c s = (.ok (), { s with disk := d })

lemma onDirectory_cases (c : Choice) (s : Shared Directory) :
    (∃ e, onDirectory operation f c s = (.error e, s) ∧ (c.FaultFree → ∃ kind, f s.disk = .error kind)) ∨
      ∃ d, f s.disk = .ok d ∧ onDirectory operation f c s = (.ok (), { s with disk := d }) := by
  rw [onDirectory]
  split
  next _ fault hfault =>
    refine .inl ⟨_, rfl, fun hc => ?_⟩
    rw [hc.fault] at hfault
    cases hfault
  next kind _ hkind =>
    exact .inl ⟨_, rfl, fun _ => ⟨kind, hkind⟩⟩
  next d _ hd =>
    exact .inr ⟨d, hd, rfl⟩

lemma tries_action : Tries f (action (onDirectory operation f)) := ⟨_, rfl, onDirectory_cases⟩

lemma tries_hooked : Tries f (hooked point (onDirectory operation f)) := by
  refine ⟨_, rfl, fun c s => ?_⟩
  cases h : c.hook point with
  | none => exact onDirectory_cases c s
  | some e =>
    refine .inl ⟨e, rfl, fun hc => ?_⟩
    rw [hc.hook] at h
    cases h

lemma tries_hook : Tries .ok (hook point) := by
  refine ⟨_, rfl, fun c s => ?_⟩
  cases h : c.hook point with
  | none => exact .inr ⟨s.disk, rfl, rfl⟩
  | some e =>
    refine .inl ⟨e, rfl, fun hc => ?_⟩
    rw [hc.hook] at h
    cases h

lemma Tries.moves {p : Op Directory Unit} {good : Unit → View → Prop}
    (h : Tries f p) (hQ : Q v) (hfault : Faulty A → ∀ e, bad e v)
    (hstuck : ∀ d kind, view d = v → f d = .error kind → ∀ e, bad e v)
    (hgood : ∀ d d', view d = v → f d = .ok d' → Q (view d') ∧ good () (view d')) :
    Moves A Q v good bad fatal p := by
  obtain ⟨g, rfl, hg⟩ := h
  intro s₀ d hd
  subst hd
  apply safe_action
  intro c hc
  rcases hg c { s₀ with disk := d } with ⟨e, he, hstuck'⟩ | ⟨d', hd', he⟩
  · rw [he]
    refine ⟨trivial, hQ, ?_⟩
    rintro _ rfl _
    refine .inl ⟨d, rfl, ?_⟩
    by_cases hfree : c.FaultFree
    · obtain ⟨kind, hkind⟩ := hstuck' hfree
      exact hstuck d kind rfl hkind e
    · exact hfault ⟨c, hc, hfree⟩ e
  · rw [he]
    obtain ⟨hq, hgd⟩ := hgood d d' rfl hd'
    refine ⟨trivial, hq, ?_⟩
    rintro _ rfl _
    exact ⟨d', rfl, hgd⟩

lemma Tries.stays {p : Op Directory Unit} {good : Unit → View → Prop} (h : Tries .ok p) (hQ : Q v)
    (hfault : Faulty A → ∀ e, bad e v) (hgood : good () v) : Moves A Q v good bad fatal p := by
  apply h.moves hQ hfault
  · intro d kind _ hf
    cases hf
  intro d d' hd hf
  cases hf
  rw [hd]
  exact ⟨hQ, hgood⟩

def Caught (good : α → View → Prop) (bad : StorageBackendError → View → Prop) :
    BackendResult α → View → Prop
  | .ok a, w => good a w
  | .error e, w => bad e w

lemma moves_captured {G : α → View → Prop} {B : StorageBackendError → View → Prop}
    (h : Moves A Q v G B (fun _ => False) p) : Moves A Q v (Caught G B) bad fatal (captured p) := by
  intro s₀ d hd
  apply safe_bind
  apply Safe.weaken (h s₀ d hd)
  intro r s hr
  cases r with
  | ok a =>
    obtain ⟨d', rfl, hg⟩ := hr
    exact ⟨d', rfl, hg⟩
  | error e =>
    rcases hr with ⟨d', rfl, hb⟩ | ⟨hf, -⟩
    · exact ⟨d', rfl, hb⟩
    · exact hf.elim

lemma moves_query {f : Choice → Shared Directory → BackendResult α} (hQ : Q v)
    (h : ∀ c s, A c → view s.disk = v → Caught good bad (f c s) v) : Moves A Q v good bad fatal (query f) := by
  intro s₀ d hd
  subst hd
  apply safe_action
  intro c hA
  have hc := h c { s₀ with disk := d } hA rfl
  revert hc
  cases f c { s₀ with disk := d } with
  | ok a =>
    intro hc
    refine ⟨trivial, hQ, ?_⟩
    rintro _ rfl _
    exact ⟨d, rfl, hc⟩
  | error e =>
    intro hc
    refine ⟨trivial, hQ, ?_⟩
    rintro _ rfl _
    exact .inl ⟨d, rfl, hc⟩

lemma moves_poison (hQ : Q v) (hfatal : fatal e) : Moves A Q v good bad fatal (poison e : Op Directory α) := by
  intro s₀ d hd
  subst hd
  apply safe_bindE
  apply safe_action
  intro c _
  refine ⟨trivial, hQ, ?_⟩
  rintro _ rfl _
  apply safe_bindE
  apply safe_action
  intro c _
  refine ⟨trivial, hQ, ?_⟩
  rintro _ rfl _
  exact .inr ⟨hfatal, d, rfl⟩

lemma moves_of_within {R : BackendResult α → Prop}
    (h : Within A Eq (fun s : Shared Directory => view s.disk = v) R p.run) (hQ : Q v)
    (hgood : ∀ a, R (.ok a) → good a v) (hbad : ∀ e, R (.error e) → bad e v) : Moves A Q v good bad fatal p := by
  intro s₀ d hd
  have hkeep := h.keeping (I := fun s => s = { s₀ with disk := d }) fun s s' _ he hs => he ▸ hs
  have hQd := hd ▸ hQ
  refine hkeep.safe (fun _ hA => hA) ?_ ?_ ?_ ⟨hd, rfl⟩ hQd
  · rintro s _ - hi rfl
    exact ⟨trivial, hi⟩
  · rintro s _ hs rfl -
    exact hs
  rintro r s hr ⟨-, rfl⟩ -
  cases r with
  | ok a => exact ⟨d, rfl, hd ▸ hgood a hr⟩
  | error e => exact .inl ⟨d, rfl, hd ▸ hbad e hr⟩

lemma moves_of_reports {x : BackendResult α}
    (h : Reports A (fun s : Shared Directory => view s.disk = v) True x p) (hQ : Q v)
    (hgood : ∀ a, x = .ok a → good a v) (hbad : ∀ e, bad e v) : Moves A Q v good bad fatal p := by
  refine moves_of_within (h.within fun _ => rfl) hQ hgood fun e _ => hbad e

end Howy.Storage.Mode1
