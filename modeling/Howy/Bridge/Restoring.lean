import Howy.Bridge.Procedures
import Howy.Bridge.Effects

namespace Howy.Bridge

open Library

variable {B : ConfigBridge} {P Q : World → Prop} {X : Path → Prop} {s s' s₀ : World} {p stageFile : Path}
  {node : Node} {transactionId backupName hash path stageName : String} {absence : AbsenceRecord}
  {snapshot stash : Snapshot} {size : ℕ} {captured state : GenerationState} {stage target : Option Snapshot}
  {live : ConfigState}

def logicalKey (r : FileRecord) : String × ℕ × ℕ × ℕ × ℕ × ℕ × ℤ × ℕ :=
  (r.sha256, r.metadata.uid, r.metadata.gid, r.metadata.permissions, r.metadata.linkCount, r.metadata.byteLength,
    r.metadata.modificationSeconds, r.metadata.modificationNanoseconds)

variable {left right : FileRecord}

lemma logicallyMatches_iff : logicallyMatches left right ↔ logicalKey left = logicalKey right := by
  simp [logicallyMatches, logicalKey, and_assoc]

lemma sameObject_iff : sameObject left right ↔
    left.device = right.device ∧ left.inode = right.inode ∧ logicalKey left = logicalKey right := by
  simp [sameObject, logicallyMatches_iff, and_assoc]

lemma exactMatch_of_both {a b : ConfigState} (ha : configStatesExactMatch a live)
    (hb : configStatesExactMatch b live) : configStatesExactMatch a b := by
  cases live with
  | absent absence =>
    cases a with
    | present file => cases ha
    | absent a =>
      cases b with
      | present file => cases hb
      | absent b =>
        simp only [configStatesExactMatch, beq_iff_eq] at ha hb ⊢
        exact ha.trans hb.symm
  | present file =>
    cases a with
    | absent a => cases ha
    | present a =>
      cases b with
      | absent b => cases hb
      | present b =>
        simp only [configStatesExactMatch, sameObject_iff] at ha hb ⊢
        exact ⟨ha.1.trans hb.1.symm, ha.2.1.trans hb.2.1.symm, ha.2.2.trans hb.2.2.symm⟩

variable {legacy : FileRecord}

def KeptOrLegacy (B : ConfigBridge) (s₀ s : World) : Prop :=
  look s configFile = look s₀ configFile ∨ ∃ r, Live B s₀ (.present r) ∧ r.sha256 = legacySha256

lemma KeptOrLegacy.congr (h : KeptOrLegacy B s₀ s) (hs : look s' configFile = look s configFile) :
    KeptOrLegacy B s₀ s' :=
  h.imp hs.trans id

lemma ends_recoverBootstrap (hp : isStageName (utf8Bytes stageName)) :
    Ends (· = s₀) (recoverBootstrap B legacy stageName)
      fun _ s => Agree (fun q => q.directory ≠ .etcHowy) s₀ s ∧ KeptOrLegacy B s₀ s := by
  have hne : (⟨.etcHowy, utf8Bytes stageName⟩ : Path) ≠ configFile := fun h =>
    config_not_isStage (h ▸ ⟨.inl rfl, hp⟩)
  have hstaging : Staging B (fun _ => True) (fun _ _ => True)
      (fun s => Agree (fun q => q.directory ≠ .etcHowy) s₀ s ∧ KeptOrLegacy B s₀ s) ⟨.etcHowy, utf8Bytes stageName⟩
      fun _ r => r.sha256 = legacySha256 := by
    refine ⟨hne, fun s node _ hs _ =>
      ⟨trivial, trivial, hs.1.put fun h => h rfl, hs.2.congr (look_put_of_ne hne.symm)⟩,
      fun s _ hs => ⟨trivial, trivial, hs.1.drop fun h => h rfl, hs.2.congr (look_drop_of_ne hne.symm)⟩, ?_⟩
    rintro s a b r - ⟨hs, hkept⟩ - hb hr hlegacy
    refine ⟨trivial, trivial, (hs.put fun h => h rfl).put fun h => h rfl, .inr (hkept.elim (fun hsame => ?_) id)⟩
    exact ⟨r, ⟨b, hsame.symm.trans hb, hr⟩, hlegacy⟩
  apply (triple_recoverBootstrap hstaging rfl fun _ _ h => h).pre
  rintro s - rfl
  exact ⟨Agree.refl _ s, .inl rfl⟩

section

variable {source : ConfigState} {previous : Option FileRecord} {manifest : StashManifest} {stageName : String}
  {marker : Option FileRecord}

lemma resolve_directory {file : Path} (h : resolve path = some file) : file.directory = .state := by
  rw [resolve, Option.ite_none_right_eq_some, Option.some.injEq] at h
  rw [← h.2]

lemma ends_stashCaptured {file : FileRecord} (hX : ∀ q, X q → q.directory ≠ .state) :
    Ends (Agree X s₀) (stashCaptured B transactionId manifest file) fun _ => Agree X s₀ := by
  apply Triple.check
  rintro ⟨path, hash, size⟩ _
  apply Triple.check
  intro _ _
  apply Triple.skip reads_readPath
  intro found
  cases found with
  | none => exact triple_throw
  | some live =>
    refine (triple_ensureStashFile (fun file hfile => ?_) fun _ hs => hs).post fun _ _ _ hs => hs.1
    exact agree_publishes fun h => hX file h (resolve_directory hfile)

lemma ends_recoverStash (hp : isStageName (utf8Bytes stageName)) :
    Ends (· = s₀) (recoverStash B transactionId source previous manifest stageName marker) fun _ s =>
      ManifestHas (Agree (fun q => q.directory ≠ .state ∧ q ≠ markerFile) s₀)
        (B.platform.manifestToVec manifest ++ [10]) s ∧ look s markerFile = none := by
  have hX : ∀ q : Path, q.directory ≠ .state ∧ q ≠ markerFile → q.directory ≠ .state := fun _ hq => hq.1
  have hrest : Ends (Agree (fun q => q.directory ≠ .state ∧ q ≠ markerFile) s₀) (do
      let bytes ← fromExcept (serializeControl (B.platform.manifestToVec manifest) "stash manifest")
      replaceManifest B previous bytes stageName transactionId
      removeStashedMarker B marker) fun _ s =>
        ManifestHas (Agree (fun q => q.directory ≠ .state ∧ q ≠ markerFile) s₀)
          (B.platform.manifestToVec manifest ++ [10]) s ∧ look s markerFile = none := by
    apply Triple.check
    intro bytes hbytes
    rw [serializeControl_eq_ok hbytes]
    apply (ends_replaceManifest hp hX).bind
    intro _
    apply triple_intro
    rintro s₁ - ⟨hs₁, node, hnode, hcontents⟩
    apply (Ends.start (ends_removeStashedMarker (X := (· ≠ markerFile)) fun h => h rfl)).post
    rintro _ s - ⟨hs, hnone⟩
    exact ⟨⟨hs₁.trans (hs.mono fun _ hq => hq.2), node, (hs.2 _ (by simp)).trans hnode, hcontents⟩, hnone⟩
  apply Triple.skip reads_verifyConfigStateIdentity
  intro _
  apply Triple.check
  intro _ _
  apply Ends.start (X := fun q => q.directory ≠ .state ∧ q ≠ markerFile)
  cases source with
  | present file => exact (ends_stashCaptured hX).bind fun _ => hrest
  | absent absence => exact hrest

end

def Outside (q : Path) : Prop := q.directory ≠ .etcHowy

variable {source : FileRecord}

def Unmatched (B : ConfigBridge) (captured : GenerationState) (s₀ : World) : Prop :=
  ∃ live, Live B s₀ live ∧ ∀ source path hash size r, captured = .presentStashed source path hash size →
    live = .present r → logicallyMatches r source = false

/-- Nothing outside the configuration's directory has changed, nor has the configuration unless another than the
captured one stood there. -/
structure Regained (B : ConfigBridge) (captured : GenerationState) (s₀ s : World) : Prop where
  outside : Agree Outside s₀ s
  config : look s configFile = look s₀ configFile ∨ Unmatched B captured s₀

lemma Regained.congr (h : Regained B captured s₀ s) (hs : Agree Outside s s')
    (hconfig : look s' configFile = look s configFile) : Regained B captured s₀ s' :=
  ⟨h.outside.trans hs, h.config.imp hconfig.trans id⟩

lemma Regained.replace (h : Regained B captured s₀ s) (hs : Agree Outside s s') (hlive : Live B s live)
    (hdiffers : ∀ r, live = .present r → Differs captured r) : Regained B captured s₀ s' := by
  refine ⟨h.outside.trans hs, .inr (h.config.elim (fun hsame => ⟨live, ?_, ?_⟩) id)⟩
  · have hagree : Agree (· = configFile) s s₀ := ⟨h.outside.1.symm, fun q hq => hq ▸ hsame.symm⟩
    exact hlive.agree hagree rfl
  · exact fun source path hash size r hcaptured hr => hdiffers r hr source path hash size hcaptured

lemma ends_restoreConfigState (hp : isStageName (utf8Bytes stageName)) (hb : isStageName (utf8Bytes backupName)) :
    Ends (· = s₀) (restoreConfigState B captured stageName backupName transactionId)
      fun state s => Regained B captured s₀ s ∧ Live B s state := by
  have hne {name : String} (h : isStageName (utf8Bytes name)) : configFile ≠ ⟨.etcHowy, utf8Bytes name⟩ :=
    fun he =>
    config_not_isStage (he ▸ ⟨.inl rfl, h⟩)
  have houtside (s : World) : Agree Outside s s := Agree.refl _ s
  have hpresent {s : World} {b : Node} {r : FileRecord} (hs : Regained B captured s₀ s)
    (hb : look s configFile = some b)
      (hr : record B.platform b = .ok r) (hdiffers : Differs captured r) {s' : World} (hs' : Agree Outside s s') :
      Regained B captured s₀ s' := by
    have hlive : Live B s (.present r) := ⟨b, hb, hr⟩
    apply hs.replace hs' hlive
    rintro _ ⟨⟩
    exact hdiffers
  refine (triple_restoreConfigState (C := Regained B captured s₀) ⟨⟨(hne hp).symm, ?_, ?_, ?_⟩, ?_, ?_,
    ?_⟩).conseq ?_ ?_
  · exact fun s node _ hs _ =>
      ⟨trivial, trivial, hs.congr ((houtside s).put fun h => h rfl) (look_put_of_ne (hne hp))⟩
  · exact fun s _ hs => ⟨trivial, trivial, hs.congr ((houtside s).drop fun h => h rfl) (look_drop_of_ne (hne hp))⟩
  · intro s a b r _ hs _ hb hr hK
    exact ⟨trivial, trivial, hpresent hs hb hr hK.2 (((houtside s).put fun h => h rfl).put fun h => h rfl)⟩
  · intro s b r _ hs hb hr _ hK
    exact ⟨trivial, trivial, hpresent hs hb hr hK.2 (((houtside s).drop fun h => h rfl).put fun h => h rfl)⟩
  · exact fun s _ hs => ⟨trivial, trivial, hs.congr ((houtside s).drop fun h => h rfl) (look_drop_of_ne (hne hb))⟩
  · intro bytes absence uid gid mode metadata transactionId label
    apply triple_intro
    rintro s₁ - ⟨hs₁, hlive⟩
    apply Ends.start
    apply (agree_publishes (X := Outside) fun h => h rfl).post
    exact fun s hs => hs₁.replace hs hlive fun r hr => by cases hr
  · rintro s - rfl
    exact ⟨houtside s, .inl rfl⟩
  · rintro state s - ⟨hs, s₁, hs₁, hlive⟩
    exact ⟨hs, hlive (hs.outside.1.trans hs₁.outside.1.symm)⟩

variable {target : ConfigState}

structure Beheld (B : ConfigBridge) (s : World) (live : ConfigState) : Prop where
  stands : Live B s live
  finds : ∀ s', Agree (· = configFile) s s' → Finds (snapshotConfigState B) s' live

lemma reads_beheld : Reads (fun s live => Beheld B s live) (snapshotConfigState B) :=
  (reads_live.and (sees_snapshotConfigState (X := (· = configFile)) rfl)).weaken fun _ _ h => ⟨h.1, h.2⟩

lemma Beheld.agree (h : Beheld B s live) (hs : Agree X s s') (hX : X configFile) : Beheld B s' live := by
  have hconfig : Agree (· = configFile) s s' := hs.mono fun q hq => hq ▸ hX
  exact ⟨h.stands.agree hs hX, fun s'' hs' => h.finds s'' (hconfig.trans hs')⟩

abbrev ManifestIs (B : ConfigBridge) (s : World) (manifest : StashManifest) : Prop :=
  Parses B.platform.manifestFromSlice manifestFile s manifest

structure ManifestRead (B : ConfigBridge) (s : World) (found : Option (StashManifest × Snapshot)) : Prop where
  shows : ShowsManifest B s found
  valid : ∀ pair, found = some pair → pair.1.validate = .ok ()
  finds : ∀ s', Agree Aside s s' → Finds (readManifest B) s' found

variable {found : Option (StashManifest × Snapshot)} {manifest : StashManifest} {snapshot : Snapshot}

lemma reads_manifestRead : Reads (fun s found => ManifestRead B s found) (readManifest B) :=
  (reads_validManifest.and (sees_readManifest fun _ hq => hq)).weaken fun _ _ h =>
    ⟨h.1.1, h.1.2, h.2⟩

lemma is_of_shows (h : ShowsManifest B s (some (manifest, snapshot))) : ManifestIs B s manifest := by
  obtain ⟨node, hnode, -, hparse, -⟩ := h
  exact ⟨node, hnode, hparse⟩

lemma ManifestRead.is (h : ManifestRead B s (some (manifest, snapshot))) : ManifestIs B s manifest :=
  is_of_shows h.shows

lemma showsManifest_agree (h : ShowsManifest B s found) (hs : Agree X s s') (hX : X manifestFile) :
    ShowsManifest B s' found := by
  have hlook := hs.2 _ hX
  cases found with
  | none => exact hlook.trans h
  | some pair =>
    obtain ⟨node, hnode, hrest⟩ := h
    exact ⟨node, hlook.trans hnode, hrest⟩

lemma ManifestRead.agree (h : ManifestRead B s found) (hs : Agree X s s') (hX : ∀ q, Aside q → X q) :
    ManifestRead B s' found :=
  ⟨showsManifest_agree h.shows hs (hX _ aside_manifest), h.valid,
    fun s'' hs' => h.finds s'' ((hs.mono hX).trans hs')⟩

lemma present_of_matches {r : FileRecord} (h : Matches captured (.present r)) :
    ∃ source path hash size, captured = .presentStashed source path hash size ∧ logicallyMatches r source := by
  cases captured with
  | presentStashed source path hash size => exact ⟨source, path, hash, size, rfl, h⟩
  | absent | restored | consumedRefreshable => cases h

lemma reads_passes : Reads (fun s live => Beheld B s live ∧ RestoredAs manifest live)
    (verifyRestoredManifest B manifest) :=
  reads_verifyRestoredManifest reads_beheld

def capturedSource : GenerationState → Option FileRecord
  | .presentStashed source _ _ _ => some source
  | .restored (.presentStashed source _ _ _) _ _ => some source
  | _ => none

def Owned (B : ConfigBridge) (state : GenerationState) : Prop :=
  ∀ source, capturedSource state = some source →
    source.metadata.uid = B.expectedUid ∧ source.metadata.gid = B.expectedGid

def Binds (B : ConfigBridge) (s : World) (target : ConfigState) : Prop :=
  ∀ live, Live B s live → configStatesExactMatch target live = true

lemma Owned.restored (h : Owned B state) (hstate : state = .restored captured target transactionId) :
    ∀ source path hash size, captured = .presentStashed source path hash size →
      source.metadata.uid = B.expectedUid ∧ source.metadata.gid = B.expectedGid := by
  rintro source path hash size rfl
  exact h source (hstate ▸ rfl)

lemma record_bounded {P : Platform} {r : FileRecord} (h : record P node = .ok r) :
    r.metadata.byteLength ≤ maxConfigBytes := by
  simp only [record, then_eq_ok, pure_eq_ok] at h
  obtain ⟨-, hvalid, rfl⟩ := h
  rw [validateRecord, require_eq_ok] at hvalid
  exact hvalid.2.2.2.2.2.1

lemma safe_of_passes (h : Passes captured target live)
    (hlive : Live B s live) (howned : ∀ source path hash size, captured = .presentStashed source path hash size →
      source.metadata.uid = B.expectedUid ∧ source.metadata.gid = B.expectedGid) :
    validateSafeCompletionState live B.expectedUid B.expectedGid = .ok () := by
  cases live with
  | absent absence => rfl
  | present r =>
    obtain ⟨source, path, hash, size, hcaptured, hmatch⟩ := present_of_matches h.source
    obtain ⟨huid, hgid⟩ := howned source path hash size hcaptured
    obtain ⟨node, -, hr⟩ := hlive
    simp only [logicallyMatches_iff, logicalKey, Prod.mk.injEq] at hmatch
    simp only [validateSafeCompletionState, require_eq_ok]
    exact ⟨hmatch.2.1.trans huid, hmatch.2.2.1.trans hgid, record_linkCount hr, record_bounded hr⟩

lemma exact_of_passes_absent
    (h : Passes captured target (.absent absence)) : configStatesExactMatch target (.absent absence) := by
  have htarget := h.target
  cases target with
  | present file => cases htarget
  | absent other =>
    rw [configStatesLogicallyMatch, beq_iff_eq] at htarget
    simp [htarget]

/-- The manifest says that the generation was restored by this transaction and what stands passes for it. It is the
very file that was restored if, where the manifest said so already, that file stood before. -/
structure Restored (B : ConfigBridge) (transactionId : String) (live : ConfigState) (s₀ s : World)
    (manifest : StashManifest) (captured : GenerationState) (target : ConfigState) : Prop where
  read : ∃ snapshot, ManifestRead B s (some (manifest, snapshot))
  state : manifest.active.state = .restored captured target transactionId
  passes : Passes captured target live
  config : Beheld B s live
  before : ∃ before, ManifestIs B s₀ before ∧
    captureToRestore (isRestoredBy transactionId before.active.state) before.active.state = .ok captured ∧
      ((∀ target, before.active.state = .restored captured target transactionId → Binds B s₀ target) →
        configStatesExactMatch target live = true)

variable {generation : ℕ} {old : FileRecord} {stageName backupName manifestStageName : String}

lemma Restored.agree (h : Restored B transactionId live s₀ s manifest captured target) (hs : Agree X s s')
    (hX : ∀ q, Aside q → X q) (hc : X configFile) : Restored B transactionId live s₀ s' manifest captured target :=
  { h with
    read := h.read.imp fun _ hread => hread.agree hs hX
    config := h.config.agree hs hc }

lemma ends_commitRestored {restoredAlready : Bool} {state : ConfigState}
    (hp : isStageName (utf8Bytes manifestStageName)) (hX : ∀ q, X q → q.directory ≠ .state) : Ends (Agree X s₀)
      (commitRestored B manifest restoredAlready captured state transactionId old manifestStageName) fun _ =>
        ManifestHas (Agree X s₀) (B.platform.manifestToVec
          (if restoredAlready then manifest else withRestored manifest captured state transactionId) ++ [10]) := by
  unfold commitRestored
  split
  · apply Triple.check
    intro bytes hbytes
    rw [serializeControl_eq_ok hbytes]
    exact ends_replaceManifest hp hX
  · apply Triple.check
    intro _ _
    apply Triple.check
    intro bytes hbytes
    rw [serializeControl_eq_ok hbytes]
    exact ends_replaceManifest hp hX

lemma exact_of_regained (hbinds : Binds B s₀ target)
    (hlive : Live B s live) (hpasses : Passes captured target live) (hdirectories : s.directories = s₀.directories)
    (hkept : look s configFile = look s₀ configFile ∨ Unmatched B captured s₀) :
    configStatesExactMatch target live := by
  cases live with
  | absent absence => exact exact_of_passes_absent hpasses
  | present r =>
    rcases hkept with hsame | ⟨before, hbefore, hunmatched⟩
    · have hagree : Agree (· = configFile) s s₀ := ⟨hdirectories.symm, fun q hq => hq ▸ hsame.symm⟩
      exact hbinds _ (hlive.agree hagree rfl)
    -- the target, what stood before and what stands now would all match the source
    have hexact := hbinds before hbefore
    obtain ⟨source, path, hash, size, hcaptured, hsource⟩ := present_of_matches hpasses.source
    have htarget := hpasses.target
    cases target with
    | absent absence => cases htarget
    | present file =>
      cases before with
      | absent absence => cases hexact
      | present stood =>
        have hnot := hunmatched source path hash size stood hcaptured rfl
        rw [configStatesExactMatch, sameObject_iff] at hexact
        simp only [configStatesLogicallyMatch, logicallyMatches_iff] at htarget hsource
        rw [logicallyMatches_iff.mpr (hexact.2.2.symm.trans (htarget.symm.trans hsource))] at hnot
        cases hnot

lemma committed_exact {captured' : GenerationState} {state : ConfigState} {s₁ : World} {restoredBy : String}
    (hcaptured : captureToRestore (isRestoredBy transactionId manifest.active.state)
      manifest.active.state = .ok captured)
    (hs₁ : Regained B captured s₀ s₁) (hlive₁ : Live B s₁ state)
    (hs : Agree (fun q => q.directory ≠ .state) s₁ s) (hlive : Live B s live)
    (hstate : (if isRestoredBy transactionId manifest.active.state then manifest
      else withRestored manifest captured state transactionId).active.state = .restored captured'
      target restoredBy)
    (hpasses : Passes captured' target live) :
    restoredBy = transactionId ∧ captured' = captured ∧
      ((∀ target, manifest.active.state = .restored captured target transactionId → Binds B s₀ target) →
        configStatesExactMatch target live) := by
  have hsame := (hlive₁.agree hs (by decide)).unique hlive
  subst hsame
  cases halready : isRestoredBy transactionId manifest.active.state with
  | false =>
    rw [halready, if_neg Bool.false_ne_true] at hstate
    cases hstate
    exact ⟨rfl, rfl, fun _ => configStatesExactMatch_refl⟩
  | true =>
    rw [halready, if_pos rfl] at hstate
    obtain ⟨captured₀, target₀, hrestored⟩ := restored_by halready
    rw [halready, captureToRestore, if_pos rfl, hrestored, restoredCapture, Except.ok.injEq] at hcaptured
    subst hcaptured
    rw [hrestored] at hstate
    cases hstate
    refine ⟨rfl, rfl, fun hbinds => ?_⟩
    have hkept := hs₁.config.imp (fun h => (hs.2 _ (by decide)).trans h) id
    exact exact_of_regained (hbinds _ hrestored) hlive hpasses (hs.1.trans hs₁.outside.1) hkept

lemma capturedSource_captureToRestore {already : Bool} (h : captureToRestore already state = .ok captured)
    (hcaptured : captured = .presentStashed source path hash size) : capturedSource state = some source := by
  subst hcaptured
  cases already with
  | false =>
    cases h
    rfl
  | true =>
    cases state with
    | restored captured target transactionId =>
      cases h
      rfl
    | absent | presentStashed | consumedRefreshable => cases h

lemma ends_recoverRestore (hP : B.platform.Lawful) (hp : isStageName (utf8Bytes stageName))
    (hb : isStageName (utf8Bytes backupName)) (hm : isStageName (utf8Bytes manifestStageName)) : Ends (· = s₀)
      (recoverRestore B transactionId old generation stageName backupName manifestStageName) fun live s =>
        (∃ manifest captured target, manifest.active.generation = generation ∧
          Restored B transactionId live s₀ s manifest captured target) ∧
        Agree (fun q => q.directory ≠ .etcHowy ∧ q.directory ≠ .state) s₀ s := by
  apply Triple.at reads_manifestRead
  intro found hread
  cases found with
  | none => exact triple_throw
  | some pair =>
    obtain ⟨manifest, snapshot⟩ := pair
    apply Triple.check
    rintro ⟨⟩ hgeneration
    apply Triple.check
    intro _ _
    apply Triple.check
    intro captured hcaptured
    apply (ends_restoreConfigState hp hb).bind
    intro state
    apply triple_intro
    rintro s₁ - ⟨hs₁, hlive₁⟩
    refine .bind (ends_commitRestored hm fun _ hq => hq).start fun _ => ?_
    apply Triple.look reads_manifestRead
    intro final
    cases final with
    | none => exact triple_throw
    | some pair =>
      obtain ⟨final, finalSnapshot⟩ := pair
      apply (Reads.triple reads_passes).post
      rintro live s - ⟨⟨⟨hs, node, hnode, hbytes⟩, hfinal⟩, hbeheld, captured', target, restoredBy,
        hstate, hpasses⟩
      have hcommitted : ManifestIs B s _ := ⟨node, hnode, hbytes ▸ hP.manifest _⟩
      have hsame := hfinal.is.unique hcommitted
      have hstate' := hsame ▸ hstate
      obtain ⟨rfl, rfl, hexact⟩ :=
        committed_exact hcaptured hs₁ hlive₁ hs hbeheld.stands hstate' hpasses
      have hfinalGeneration : final.active.generation = generation := by
        rw [hsame]
        split <;> exact require_eq_ok.mp hgeneration
      refine ⟨⟨final, captured', target, hfinalGeneration, ⟨finalSnapshot, hfinal⟩, hstate, hpasses, hbeheld,
        manifest, hread.is, hcaptured, hexact⟩, ?_⟩
      exact (hs₁.outside.mono fun q hq => hq.1).trans (hs.mono fun q hq => hq.2)

end Howy.Bridge
