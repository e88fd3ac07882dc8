import Howy.Storage.Mode1Moves
import Howy.Storage.Mode1NameShapes

namespace Howy.Storage.Mode1

open Function

section

variable {A : Choice → Prop} {Q : View → Prop} {v : View} {good : Unit → View → Prop}
  {bad B : StorageBackendError → View → Prop} {fatal : StorageBackendError → Prop}
  {step rollback : Op Directory Unit}
  {name : Name} {point : BackendHookPoint}

lemma moves_to {f : Directory → Except IoKind Directory} (h : Tries f step) {w : View}
    (hf : ∀ d d', view d = v → f d = .ok d' → view d' = w) (hQ : Q v) (hQ' : Q w)
    (hfault : Faulty A → ∀ e, bad e v)
    (hstuck : ∀ d kind, view d = v → f d = .error kind → ∀ e, bad e v) (hgood : good () w) :
    Moves A Q v good bad fatal step := by
  apply h.moves hQ hfault hstuck
  intro d d' hd hd'
  rw [hf d d' hd hd']
  exact ⟨hQ', hgood⟩

lemma moves_unlinkAt {node : FileNode} (hnode : v name = some node)
    (hkind : node.kind ≠ .directory) (hQ : Q v) (hQ' : Q (update v name none)) (hfault : Faulty A → ∀ e, bad e v)
    (hgood : good () (update v name none)) : Moves A Q v good bad fatal (unlinkAt point name) := by
  refine moves_to tries_hooked (fun d d' hd hf => by rw [view_unlink hf, hd]) hQ hQ' hfault ?_ hgood
  intro d kind hd hf
  have hlookup : d.lookup name = some node := (congrFun hd name).trans hnode
  rw [Directory.unlink, hlookup] at hf
  dsimp only at hf
  rw [if_neg hkind] at hf
  cases hf

lemma moves_syncDirectory (hQ : Q v) (hfault : Faulty A → ∀ e, bad e v)
    (hgood : good () v) : Moves A Q v good bad fatal (syncDirectory point) := tries_hooked.stays hQ hfault hgood

lemma moves_cleanup (hQ : Q v) (hQ' : Q (update v name none)) (h : good () v) (h' : good () (update v name none)) :
    Moves A Q v good bad fatal (cleanupNonAuthoritativeTemp name) := by
  refine (moves_captured (G := fun _ w => w = update v name none)
    (moves_to tries_hooked (fun d d' hd hf => by rw [view_unlink hf, hd]) hQ hQ' (fun _ _ => rfl)
      (fun _ _ _ _ _ => rfl) rfl)).bind ?_
  intro r w hr
  cases r with
  | error e =>
    cases hr
    exact moves_pure h
  | ok x =>
    cases hr
    refine (moves_captured (G := fun _ w => w = update v name none) (B := fun _ w => w = update v name none)
      (moves_syncDirectory hQ' (fun _ _ => rfl) rfl)).bind ?_
    intro r w hr
    have hw : w = update v name none := by cases r <;> exact hr
    exact moves_pure (hw ▸ h')

section

variable (hstep : Moves A Q v good B (fun _ => False) step)

include hstep

lemma moves_cleaningUp (hclean : ∀ e w, B e w → Q w ∧ Q (update w name none) ∧ bad e w ∧
    bad e (update w name none)) : Moves A Q v good bad fatal (cleaningUp name step) := by
  refine (moves_captured hstep).bind ?_
  intro r w hr
  cases r with
  | ok x => exact moves_pure hr
  | error e =>
    obtain ⟨hQ, hQ', hb, hb'⟩ := hclean e w hr
    apply moves_bind
    exact moves_cleanup hQ hQ' (moves_throw hb) (moves_throw hb')

lemma moves_orPoison (hpoison : ∀ e w, B e w → Q w ∧ fatal .unavailable) :
    Moves A Q v good bad fatal (orPoison step) := by
  refine (moves_captured hstep).bind ?_
  intro r w hr
  cases r with
  | ok x => exact moves_pure hr
  | error e => exact moves_poison (hpoison e w hr).1 (hpoison e w hr).2

lemma moves_rollingBack (hroll : ∀ e w, B e w → Moves A Q w (fun _ => bad e) bad fatal (orPoison rollback)) :
    Moves A Q v good bad fatal (rollingBack rollback step) := by
  refine (moves_captured hstep).bind ?_
  intro r w hr
  cases r with
  | ok x => exact moves_pure hr
  | error e =>
    exact (hroll e w hr).bind (fun _ w' h => moves_throw h)

end

lemma moves_settleRename (hQ : Q v) (hfault : Faulty A → ∀ e, bad e v) (hgood : good () v) :
    Moves A Q v good bad fatal settleRename := by
  apply moves_bind
  refine tries_hook.stays hQ hfault ?_
  apply moves_bind
  refine moves_syncDirectory hQ hfault ?_
  exact tries_hook.stays hQ hfault hgood

lemma moves_artifactOr {good : Name → View → Prop} {found : Option Name} (h : found = some name)
    (hgood : good name v) : Moves A Q v good bad fatal (artifactOr found) := by
  subst h
  exact moves_pure hgood

end

section

variable (owner : ℕ) (b : View) (active temporary staged rollback : Name) (encoded : Bytes)

inductive ReplaceView : View → Prop where
  | start : ReplaceView b
  | written (contents : Bytes) : ReplaceView (update b temporary (some (recordNode owner contents)))
  | prepared : ReplaceView (update b staged (some (recordNode owner encoded)))
  | aborted : ReplaceView (update b staged none)
  | exchanged : ReplaceView (update (update b staged (b active)) active (some (recordNode owner encoded)))
  | replaced : ReplaceView (update (update b staged none) active (some (recordNode owner encoded)))
  | rolling : ReplaceView
      (update (update (update b staged none) rollback (b active)) active (some (recordNode owner encoded)))
  | returned : ReplaceView (update (update b staged none) rollback (some (recordNode owner encoded)))
  | restored : ReplaceView (update (update b staged none) rollback none)

inductive ReplaceFailed : View → Prop where
  | start : ReplaceFailed b
  | written (contents : Bytes) : ReplaceFailed (update b temporary (some (recordNode owner contents)))
  | prepared : ReplaceFailed (update b staged (some (recordNode owner encoded)))
  | aborted : ReplaceFailed (update b staged none)
  | restored : ReplaceFailed (update (update b staged none) rollback none)

inductive CreateView : View → Prop where
  | start : CreateView b
  | written (contents : Bytes) : CreateView (update b temporary (some (recordNode owner contents)))
  | created : CreateView (update b active (some (recordNode owner encoded)))
  | withdrawn : CreateView (update b rollback (some (recordNode owner encoded)))
  | restored : CreateView (update b rollback none)

inductive CreateFailed : View → Prop where
  | start : CreateFailed b
  | written (contents : Bytes) : CreateFailed (update b temporary (some (recordNode owner contents)))
  | restored : CreateFailed (update b rollback none)

inductive ClearView (tombstone : Name) : View → Prop where
  | start : ClearView tombstone b
  | buried : ClearView tombstone (update (update b active none) tombstone (b active))
  | cleared : ClearView tombstone (update b active none)

end

variable {A : Choice → Prop} {owner : ℕ} {b : View} {active temporary staged rollback : Name} {encoded : Bytes}
  {pre : FileNode}

lemma moves_rollbackReplace (hsa : staged ≠ active) (hra : rollback ≠ active)
    (hr : replaceArtifactMarker staged stagedMarker rollbackMarker = some rollback) (hfault : Faulty A) :
    Moves A (ReplaceView owner b active temporary staged rollback encoded)
      (update (update b staged (b active)) active (some (recordNode owner encoded)))
      (fun _ w => w = update (update b staged none) rollback none)
      (fun _ w => ReplaceView owner b active temporary staged rollback encoded w ∧ Faulty A) (fun _ => False)
      (rollbackTemporary staged active true) := by
  apply moves_bind
  refine moves_artifactOr hr ?_
  apply moves_bind
  refine moves_to tries_action (fun d d' hd hf => ?_) .exchanged .rolling
    (fun _ _ => ⟨.exchanged, hfault⟩) (fun _ _ _ _ _ => ⟨.exchanged, hfault⟩) ?_
  · rw [view_rename hf, hd]
    grind [update_apply]
  apply moves_bind
  refine moves_syncDirectory .rolling (fun _ _ => ⟨.rolling, hfault⟩) ?_
  apply moves_bind
  refine moves_to tries_hooked (fun d d' hd hf => ?_) .rolling .returned
    (fun _ _ => ⟨.rolling, hfault⟩) (fun _ _ _ _ _ => ⟨.rolling, hfault⟩) ?_
  · rw [view_exchange hf, hd]
    grind [update_apply]
  apply moves_bind
  refine moves_syncDirectory .returned (fun _ _ => ⟨.returned, hfault⟩) ?_
  have hunlinked : update (update (update b staged none) rollback (some (recordNode owner encoded)))
      rollback none = update (update b staged none) rollback none := update_idem _ _ _
  apply moves_bind
  refine moves_unlinkAt (update_self _ _ _) (by decide : NodeKind.regular ≠ .directory) .returned
    (hunlinked ▸ .restored) (fun _ _ => ⟨.returned, hfault⟩) ?_
  rw [hunlinked]
  exact moves_syncDirectory .restored (fun _ _ => ⟨.restored, hfault⟩) rfl

lemma moves_stageTemporary (hb : b temporary = none)
    (hs : replaceArtifactMarker temporary tmpMarker stagedMarker = some staged)
    {fatal : StorageBackendError → Prop} :
    Moves A (ReplaceView owner b active temporary staged rollback encoded)
      (update b temporary (some (recordNode owner encoded)))
      (fun name w => name = staged ∧ w = update b staged (some (recordNode owner encoded)))
      (fun _ w => ReplaceFailed owner b temporary staged rollback encoded w) fatal (stageTemporary temporary) := by
  have hundo (contents : Bytes) : update (update b temporary (some (recordNode owner contents)))
      temporary none = b := by
    rw [update_idem, ← hb, update_eq_self]
  apply moves_bind
  refine moves_artifactOr hs ?_
  apply moves_bind
  refine moves_cleaningUp (B := fun _ w => w = update b temporary (some (recordNode owner encoded)))
    (moves_to tries_action (w := update b staged (some (recordNode owner encoded)))
      (fun d d' hd hf => ?_) (.written encoded) .prepared (fun _ _ => rfl) (fun _ _ _ _ _ => rfl) ?_) ?_
  · rw [view_rename hf, hd]
    grind [update_apply]
  · apply moves_bind
    refine moves_cleaningUp (B := fun _ w => w = update b staged (some (recordNode owner encoded)))
      (moves_syncDirectory .prepared (fun _ _ => rfl) (moves_pure ⟨rfl, rfl⟩)) ?_
    rintro e w rfl
    rw [update_idem]
    exact ⟨.prepared, .aborted, .prepared, .aborted⟩
  · rintro e w rfl
    rw [hundo]
    exact ⟨.written encoded, .start, .written encoded, .start⟩

lemma moves_commitReplace (hactive : b active = some pre) (hpre : pre.kind ≠ .directory)
    (hb : b temporary = none) (hsa : staged ≠ active) (hra : rollback ≠ active)
    (hs : replaceArtifactMarker temporary tmpMarker stagedMarker = some staged)
    (hr : replaceArtifactMarker staged stagedMarker rollbackMarker = some rollback) :
    Moves A (ReplaceView owner b active temporary staged rollback encoded)
      (update b temporary (some (recordNode owner encoded)))
      (fun _ w => w = update (update b staged none) active (some (recordNode owner encoded)))
      (fun _ w => ReplaceFailed owner b temporary staged rollback encoded w) (Fatal A)
      (commitTemporary temporary active true) := by
  refine (moves_stageTemporary hb hs).bind ?_
  rintro name _ ⟨hname, rfl⟩
  rw [hname]
  apply moves_bind
  refine moves_cleaningUp (B := fun _ w => w = update b staged (some (recordNode owner encoded)))
    (moves_to tries_hooked
      (fun d d' hd hf => ?_) .prepared .exchanged (fun _ _ => rfl) (fun _ _ _ _ _ => rfl) ?_) ?_
  · rw [view_exchange hf, hd]
    grind [update_apply]
  · apply moves_bind
    refine moves_rollingBack (B := fun _ w =>
        w = update (update b staged (b active)) active (some (recordNode owner encoded)) ∧ Faulty A)
      (moves_settleRename .exchanged (fun hf _ => ⟨rfl, hf⟩) ?_) ?_
    · have hunlinked : update (update (update b staged (b active)) active (some (recordNode owner encoded))) staged
          none = update (update b staged none) active (some (recordNode owner encoded)) := by
        grind [update_apply]
      have hnode : update (update b staged (b active)) active (some (recordNode owner encoded))
          staged = some pre := by
        rw [update_of_ne hsa, update_self, hactive]
      apply moves_orPoison (B := fun _ w => ReplaceView owner b active temporary staged rollback
        encoded w ∧ Faulty A)
      · apply moves_bind
        refine moves_unlinkAt hnode hpre .exchanged (hunlinked ▸ .replaced) (fun hf _ => ⟨.exchanged, hf⟩) ?_
        rw [hunlinked]
        exact moves_syncDirectory .replaced (fun hf _ => ⟨.replaced, hf⟩) rfl
      · exact fun _ _ h => ⟨h.1, h.2, rfl⟩
    · rintro e w ⟨rfl, hfault⟩
      apply moves_orPoison
      · refine (moves_rollbackReplace hsa hra hr hfault).post ?_
        rintro _ _ rfl
        exact .restored
      · exact fun _ _ h => ⟨h.1, h.2, rfl⟩
  · rintro e w rfl
    rw [update_idem]
    exact ⟨.prepared, .aborted, .prepared, .aborted⟩

lemma moves_rollbackCreate (hactive : b active = none)
    (hr : replaceArtifactMarker temporary tmpMarker rollbackMarker = some rollback) (hfault : Faulty A) :
    Moves A (CreateView owner b active temporary rollback encoded)
      (update b active (some (recordNode owner encoded))) (fun _ w => w = update b rollback none)
      (fun _ w => CreateView owner b active temporary rollback encoded w ∧ Faulty A) (fun _ => False)
      (rollbackTemporary temporary active false) := by
  apply moves_bind
  refine moves_artifactOr hr ?_
  apply moves_bind
  refine moves_to tries_hooked (fun d d' hd hf => ?_) .created .withdrawn
    (fun _ _ => ⟨.created, hfault⟩) (fun _ _ _ _ _ => ⟨.created, hfault⟩) ?_
  · rw [view_rename hf, hd]
    grind [update_apply]
  apply moves_bind
  refine moves_syncDirectory .withdrawn (fun _ _ => ⟨.withdrawn, hfault⟩) ?_
  have hunlinked : update (update b rollback (some (recordNode owner encoded))) rollback none = update b
      rollback none :=
    update_idem _ _ _
  apply moves_bind
  refine moves_unlinkAt (update_self _ _ _) (by decide : NodeKind.regular ≠ .directory) .withdrawn
    (hunlinked ▸ .restored) (fun _ _ => ⟨.withdrawn, hfault⟩) ?_
  rw [hunlinked]
  exact moves_syncDirectory .restored (fun _ _ => ⟨.restored, hfault⟩) rfl

lemma moves_commitCreate (hb : b temporary = none) (hta : temporary ≠ active)
    (hr : replaceArtifactMarker temporary tmpMarker rollbackMarker = some rollback) :
    Moves A (CreateView owner b active temporary rollback encoded)
      (update b temporary (some (recordNode owner encoded)))
      (fun _ w => w = update b active (some (recordNode owner encoded)))
      (fun _ w => CreateFailed owner b temporary rollback w) (Fatal A)
      (commitTemporary temporary active false) := by
  apply moves_bind
  refine moves_cleaningUp (B := fun _ w => w = update b temporary (some (recordNode owner encoded)))
    (tries_hooked.moves (.written encoded) (fun _ _ => rfl) (fun _ _ _ _ _ => rfl)
      fun d d' hd hf => ?_) ?_
  · obtain ⟨hnew, hview⟩ := view_renameNoReplace hf
    rw [hd, update_of_ne hta.symm] at hnew
    have hcreated : view d' = update b active (some (recordNode owner encoded)) := by
      rw [hview, hd]
      grind [update_apply]
    rw [hcreated]
    refine ⟨.created, ?_⟩
    refine moves_rollingBack (B := fun _ w => w = update b active (some (recordNode owner encoded)) ∧ Faulty A)
      (moves_settleRename .created (fun hf _ => ⟨rfl, hf⟩) rfl) ?_
    rintro e w ⟨rfl, hfault⟩
    apply moves_orPoison
    · refine (moves_rollbackCreate hnew hr hfault).post ?_
      rintro _ _ rfl
      exact .restored
    · exact fun _ _ h => ⟨h.1, h.2, rfl⟩
  · rintro e w rfl
    rw [update_idem, ← hb, update_eq_self]
    exact ⟨.written encoded, .start, .written encoded, .start⟩

variable {tombstone : Name}

lemma moves_rollbackClear {good : Unit → View → Prop} {bad : StorageBackendError → View → Prop}
    (hb : b tombstone = none) (hfault : Faulty A) (hgood : good () b) :
    Moves A (ClearView b active tombstone) (update (update b active none) tombstone (b active)) good bad (Fatal A)
      (orPoison (rollbackClear tombstone active)) := by
  apply moves_orPoison (B := fun _ w => ClearView b active tombstone w ∧ Faulty A)
  · apply moves_bind
    refine moves_to tries_hooked (fun d d' hd hf => ?_) .buried .start
      (fun _ _ => ⟨.buried, hfault⟩) (fun _ _ _ _ _ => ⟨.buried, hfault⟩) ?_
    · rw [view_rename hf, hd]
      grind [update_apply]
    · exact moves_syncDirectory .start (fun _ _ => ⟨.start, hfault⟩) hgood
  · exact fun _ _ h => ⟨h.1, h.2, rfl⟩

lemma moves_commitClear (hactive : b active = some pre) (hpre : pre.kind ≠ .directory)
    (hb : b tombstone = none) (hta : tombstone ≠ active) :
    Moves A (ClearView b active tombstone) (update (update b active none) tombstone (b active))
      (fun _ w => w = update b active none) (fun _ w => w = b) (Fatal A) (commitClear tombstone active) := by
  have hunlinked : update (update (update b active none) tombstone (b active)) tombstone none = update b
      active none := by
    grind [update_apply]
  have hnode : update (update b active none) tombstone (b active) tombstone = some pre := by
    rw [update_self, hactive]
  apply moves_bind
  refine moves_rollingBack (B := fun _ w => w = update (update b active none) tombstone (b active) ∧ Faulty A)
    (moves_settleRename .buried (fun hf _ => ⟨rfl, hf⟩) ?_) ?_
  · apply moves_bind
    refine moves_rollingBack (B := fun _ w => w = update (update b active none) tombstone (b active) ∧ Faulty A)
      (moves_unlinkAt hnode hpre .buried (hunlinked.symm ▸ .cleared) (fun hf _ => ⟨rfl, hf⟩) ?_) ?_
    · rw [hunlinked]
      exact moves_orPoison (B := fun _ w => w = update b active none ∧ Faulty A)
        (moves_syncDirectory .cleared (fun hf _ => ⟨rfl, hf⟩) rfl) fun _ _ h => ⟨h.1 ▸ .cleared, h.2, rfl⟩
    · rintro e w ⟨rfl, hfault⟩
      exact moves_rollbackClear hb hfault rfl
  · rintro e w ⟨rfl, hfault⟩
    exact moves_rollbackClear hb hfault rfl

end Howy.Storage.Mode1
