import Howy.Storage.Mode1Transactions

namespace Howy.Storage.Mode1

open Library Function

section

variable {A : Choice → Prop} {Q : View → Prop} {b : View} (owner : ℕ) {temporary : Name} {encoded : Bytes}

def IsCollision : StorageBackendError → Prop
  | .io _ .alreadyExists => True
  | _ => False

lemma moves_metadata {v : View} {good : Unit → View → Prop} {bad : StorageBackendError → View → Prop}
    {fatal : StorageBackendError → Prop} (hQ : Q v) (hgood : good () v) (hbad : ∀ e, ¬ IsCollision e → bad e v) :
    Moves A Q v good bad fatal (action (onDirectory .create .ok)) := by
  intro s₀ d hd
  subst hd
  apply safe_action
  intro c _
  rw [onDirectory]
  cases c.fault with
  | some fault =>
    refine ⟨trivial, hQ, ?_⟩
    rintro _ rfl _
    refine .inl ⟨d, rfl, hbad _ ?_⟩
    cases fault <;> exact id
  | none =>
    refine ⟨trivial, hQ, ?_⟩
    rintro _ rfl _
    exact ⟨d, rfl, hgood⟩

lemma tries_create {name : Name} : Tries (Directory.create owner name) (action fun c s =>
    match c.hook .filesystem with
    | some _ => (.error (.io .create .other), s)
    | none => onDirectory .create (Directory.create owner name) c s) := by
  refine ⟨_, rfl, fun c s => ?_⟩
  cases h : c.hook .filesystem with
  | some e =>
    refine .inl ⟨_, rfl, fun hc => ?_⟩
    rw [hc.hook] at h
    cases h
  | none => exact onDirectory_cases c s

lemma moves_createTemp (hQ : Q b) (hQ' : b temporary = none →
    Q (update b temporary (some (recordNode owner [])))) :
    Moves A Q b (fun _ w => b temporary = none ∧ w = update b temporary (some (recordNode owner [])))
      (fun e w => w = b ∨
        (¬ IsCollision e ∧ b temporary = none ∧ w = update b temporary (some (recordNode owner []))))
      (fun _ => False) (createTemp owner temporary) := by
  apply moves_bind
  refine (tries_create owner).moves hQ (fun _ _ => .inl rfl) (fun _ _ _ _ _ => .inl rfl)
    fun d d' hd hf => ?_
  obtain ⟨hnone, hview⟩ := view_create hf
  rw [hd] at hnone hview
  rw [hview]
  refine ⟨hQ' hnone, ?_⟩
  exact moves_metadata (hQ' hnone) ⟨hnone, rfl⟩ fun e he => .inr ⟨he, hnone, rfl⟩

lemma moves_writeTemporary (hQ : ∀ contents, Q (update b temporary (some (recordNode owner contents)))) :
    Moves A Q (update b temporary (some (recordNode owner [])))
      (fun _ w => w = update b temporary (some (recordNode owner encoded)))
      (fun _ w => ∃ contents, w = update b temporary (some (recordNode owner contents)))
      (fun _ => False) (writeTemporary temporary encoded) := by
  have hset {contents : Bytes} {d : Directory}
    (hd : view d = update b temporary (some (recordNode owner contents)))
      (bytes : Bytes) : view (d.setContents temporary bytes) = update b temporary
      (some (recordNode owner bytes)) := by
    rw [view_setContents (by rw [hd, update_self]), hd, update_idem]
  apply moves_bind
  intro s₀ d hd
  apply safe_action
  intro c _
  have hpart := hset hd (encoded.take c.kept)
  have hQpart := hpart ▸ hQ _
  refine ⟨trivial, hQpart, ?_⟩
  rintro _ rfl _
  refine ⟨_, rfl, ?_⟩
  rw [hpart]
  apply moves_bind
  refine moves_to tries_action (fun d d' hd hf => ?_) (hQ _) (hQ encoded) (fun _ _ => ⟨_, rfl⟩)
    (fun _ _ _ _ _ => ⟨_, rfl⟩) ?_
  · cases hf
    exact hset hd encoded
  apply moves_bind
  refine tries_action.stays (hQ _) (fun _ _ => ⟨_, rfl⟩) ?_
  exact tries_hook.stays (hQ _) (fun _ _ => ⟨_, rfl⟩) rfl

end

section

variable {A : Choice → Prop} (owner : ℕ) (u : CanonicalUsername) (b : View) (encoded : Bytes) {attempts : ℕ}
  {pre : FileNode}

def Replacing (w : View) : Prop :=
  w = b ∨ ∃ random staged rollback, b (temporaryName u random) = none ∧
    WriteNames u (temporaryName u random) staged rollback ∧
    ReplaceView owner b (filename u) (temporaryName u random) staged rollback encoded w

def Replaced (w : View) : Prop :=
  ∃ random staged rollback, WriteNames u (temporaryName u random) staged rollback ∧
    w = update (update b staged none) (filename u) (some (recordNode owner encoded))

def NotReplaced (w : View) : Prop :=
  w = b ∨ ∃ random staged rollback, b (temporaryName u random) = none ∧
    WriteNames u (temporaryName u random) staged rollback ∧
    ReplaceFailed owner b (temporaryName u random) staged rollback encoded w

def Creating (w : View) : Prop :=
  w = b ∨ ∃ random rollback, b (temporaryName u random) = none ∧ CreateNames u (temporaryName u random) rollback ∧
    CreateView owner b (filename u) (temporaryName u random) rollback encoded w

def NotCreated (w : View) : Prop :=
  w = b ∨ ∃ random rollback, b (temporaryName u random) = none ∧ CreateNames u (temporaryName u random) rollback ∧
    CreateFailed owner b (temporaryName u random) rollback w

def Clearing (w : View) : Prop := w = b ∨ ∃ random, ClearView b (filename u) (tombstoneName u random) w

lemma moves_install {fatal : StorageBackendError → Prop} {Q G B : View → Prop} {exists_ : Bool} (hQ : Q b)
    (hQ' : ∀ random contents, b (temporaryName u random) = none →
      Q (update b (temporaryName u random) (some (recordNode owner contents)))) (hbad : B b)
    (hbad' : ∀ random contents, b (temporaryName u random) = none →
      B (update b (temporaryName u random) (some (recordNode owner contents))))
    (hcommit : ∀ random, b (temporaryName u random) = none →
      Moves A Q (update b (temporaryName u random) (some (recordNode owner encoded))) (fun _ => G)
        (fun _ => B) fatal (commitTemporary (temporaryName u random) (filename u) exists_)) (attempts : ℕ) :
    Moves A Q b (fun _ => G) (fun _ => B) fatal (install owner u encoded exists_ attempts) := by
  induction attempts with
  | zero => exact moves_throw hbad
  | succ attempts ih =>
    apply moves_bind
    refine moves_query hQ fun c s _ _ => ?_
    cases c.suffix with
    | none => exact hbad
    | some random =>
      refine (moves_captured (moves_createTemp owner hQ (hQ' random []))).bind ?_
      intro r w hr
      cases r with
      | ok x =>
        obtain ⟨hnone, rfl⟩ := hr
        refine (moves_cleaningUp (moves_writeTemporary owner fun contents => hQ' random contents hnone) ?_).bind ?_
        · rintro e w ⟨contents, rfl⟩
          rw [update_idem, ← hnone, update_eq_self]
          exact ⟨hQ' random contents hnone, hQ, hbad' random contents hnone, hbad⟩
        · rintro _ _ rfl
          exact hcommit random hnone
      | error e =>
        rcases hr with rfl | ⟨he, hnone, rfl⟩
        · cases e with
          | io operation kind => cases kind <;> first | exact ih | exact moves_throw hbad
          | _ => exact moves_throw hbad
        cases e with
        | io operation kind =>
          cases kind with
          | alreadyExists => exact absurd trivial he
          | _ => exact moves_throw (hbad' random [] hnone)
        | _ => exact moves_throw (hbad' random [] hnone)

lemma moves_installReplace (hactive : b (filename u) = some pre) (hpre : pre.kind ≠ .directory) :
    Moves A (Replacing owner u b encoded) b (fun _ w => Replaced owner u b encoded w)
      (fun _ w => NotReplaced owner u b encoded w) (Fatal A) (install owner u encoded true attempts) := by
  apply moves_install
  · exact .inl rfl
  · intro random contents hnone
    obtain ⟨staged, rollback, hn⟩ := exists_writeNames
    exact .inr ⟨random, staged, rollback, hnone, hn, .written contents⟩
  · exact .inl rfl
  · intro random contents hnone
    obtain ⟨staged, rollback, hn⟩ := exists_writeNames
    exact .inr ⟨random, staged, rollback, hnone, hn, .written contents⟩
  · intro random hnone
    obtain ⟨staged, rollback, hn⟩ := exists_writeNames
    refine ((moves_commitReplace hactive hpre hnone hn.staged_ne_filename hn.rollback_ne_filename hn.replace_staged
      hn.replace_rollback).weaken ?_ ?_ fun _ hf => hf).within ?_
    · exact fun _ w hw => ⟨random, staged, rollback, hn, hw⟩
    · exact fun _ w hw => .inr ⟨random, staged, rollback, hnone, hn, hw⟩
    · exact fun w hw => .inr ⟨random, staged, rollback, hnone, hn, hw⟩

lemma moves_installCreate :
    Moves A (Creating owner u b encoded) b (fun _ w => w = update b (filename u) (some (recordNode owner encoded)))
      (fun _ w => NotCreated owner u b w) (Fatal A) (install owner u encoded false attempts) := by
  apply moves_install (G := fun w => w = update b (filename u) (some (recordNode owner encoded)))
  · exact .inl rfl
  · intro random contents hnone
    obtain ⟨rollback, hn⟩ := exists_createNames
    exact .inr ⟨random, rollback, hnone, hn, .written contents⟩
  · exact .inl rfl
  · intro random contents hnone
    obtain ⟨rollback, hn⟩ := exists_createNames
    exact .inr ⟨random, rollback, hnone, hn, .written contents⟩
  · intro random hnone
    obtain ⟨rollback, hn⟩ := exists_createNames
    refine ((moves_commitCreate hnone temporaryName_ne_filename hn.replace_rollback).weaken
      (fun _ _ h => h) ?_ fun _ hf => hf).within ?_
    · exact fun _ w hw => .inr ⟨random, rollback, hnone, hn, hw⟩
    · exact fun w hw => .inr ⟨random, rollback, hnone, hn, hw⟩

lemma moves_clearRecord (hactive : b (filename u) = some pre) (hpre : pre.kind ≠ .directory) :
    Moves A (Clearing u b) b (fun _ w => w = update b (filename u) none) (fun _ w => w = b) (Fatal A)
      (clearRecord u attempts) := by
  induction attempts with
  | zero => exact moves_throw rfl
  | succ attempts ih =>
    apply moves_bind
    refine moves_query (.inl rfl) fun c s _ _ => ?_
    cases c.suffix with
    | none => exact rfl
    | some random =>
      have hna : tombstoneName u random ≠ filename u := tombstoneName_ne_filename
      refine (moves_captured (G := fun _ w => b (tombstoneName u random) = none ∧
          w = update (update b (filename u) none) (tombstoneName u random) (b (filename u)))
        (tries_action.moves (.inl rfl) (fun _ _ => rfl) (fun _ _ _ _ _ => rfl)
          fun d d' hd hf => ?_)).bind ?_
      · obtain ⟨hnew, hview⟩ := view_renameNoReplace hf
        rw [hd] at hnew hview
        exact ⟨.inr ⟨random, hview ▸ .buried⟩, hnew, hview⟩
      intro r w hr
      cases r with
      | ok x =>
        obtain ⟨hnone, rfl⟩ := hr
        exact (moves_commitClear hactive hpre hnone hna).within fun w hw => .inr ⟨random, hw⟩
      | error e =>
        cases hr
        cases e with
        | io operation kind => cases kind <;> first | exact ih | exact moves_throw rfl
        | _ => exact moves_throw rfl

end

end Howy.Storage.Mode1
