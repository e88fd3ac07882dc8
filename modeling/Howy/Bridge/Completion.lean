import Howy.Bridge.Resumption

namespace Howy.Bridge.Completion

open Library Safety
open Provisioning (isLowerHex_hexEncode)

variable {B : ConfigBridge} {X : Path → Prop} {s s' s₀ : World} {transactionId : String} {generation : ℕ}
  {live : ConfigState}

section

variable {held : Bool}

lemma reads_newTransactionId :
    Reads (fun _ transactionId => validateTransactionId transactionId = .ok ()) newTransactionId := by
  apply reads_query
  intro c s transactionId h
  split at h
  · cases h
  rw [← Except.ok.inj h, validateTransactionId, require_eq_ok]
  have hlength := isLowerHex_hexEncode c.random.val
  rw [c.random.property] at hlength
  exact hlength

lemma reads_current : Reads (fun s found => ∀ current, found = some current → Beheld B s (.present current.record))
    (readPath B configFile maxConfigBytes) := by
  apply Reads.bind (sees_openDirectory (X := (· = configFile)))
  intro parent
  apply (reads_readRegular.and (sees_readRegular (X := (· = configFile)) rfl)).weaken
  rintro s found ⟨hshows, hfinds⟩ hopen current rfl
  exact ⟨live_of_shows hshows, fun s' hs => (hopen s' hs).bind ((hfinds s' hs).bind sure_pure)⟩

structure Locked (B : ConfigBridge) (s : World) : Prop where
  opens : Opens B s .runLock
  file : ∃ node, look s lockFile = some node ∧ node.kind = .regular ∧ node.uid = B.expectedUid ∧
    node.gid = B.expectedGid ∧ node.permissions = 0o600 ∧ node.nlink = 1

lemma Locked.agree (h : Locked B s) (hs : Agree (· = lockFile) s s') : Locked B s' := by
  obtain ⟨node, hnode, hrest⟩ := h.file
  exact ⟨h.opens.agree hs, node, (hs.2 _ rfl).trans hnode, hrest⟩

def Startable (B : ConfigBridge) (held : Bool) (s : World) : Prop :=
  (B.requireEuidRoot = true → B.euid = 0) ∧ (held = false → Locked B s)

lemma Startable.agree (h : Startable B held s) (hs : Agree (· = lockFile) s s') : Startable B held s' :=
  ⟨h.1, fun hheld => (h.2 hheld).agree hs⟩

lemma ends_openLock : Ends (· = s₀) (openLock B) fun node s =>
    Agree (· ≠ lockFile) s₀ s ∧ look s lockFile = some node := by
  apply triple_action
  rintro c s - rfl
  cases hc : c.fault with
  | some text => exact ⟨trivial, trivial, fun a ha => by cases ha⟩
  | none =>
    cases hl : s.files.lookup lockFile with
    | some found =>
      dsimp only
      split
      · exact ⟨trivial, trivial, fun a ha => by cases ha⟩
      · refine ⟨trivial, trivial, fun a ha => ?_⟩
        rw [← Except.ok.inj ha]
        exact ⟨Agree.refl _ s, hl⟩
    | none =>
      refine ⟨trivial, trivial, fun a ha => ?_⟩
      rw [← Except.ok.inj ha]
      exact ⟨agree_put, look_put_self s lockFile _⟩

lemma ends_beginCall : Ends (· = s₀) (beginCall B held) fun _ s => Agree (· ≠ lockFile) s₀ s ∧
    Startable B held s := by
  apply Triple.check
  rintro ⟨⟩ hidentity
  rw [require_eq_ok] at hidentity
  unfold acquireLock
  split
  next hheld =>
    apply triple_pure
    rintro s - rfl
    exact ⟨Agree.refl _ s, hidentity, fun h => absurd (hheld.symm.trans h) (by decide)⟩
  apply Triple.at reads_opens
  intro _ hopens
  apply ends_openLock.bind
  intro node
  apply Triple.skip looks_fstat
  intro _
  apply Triple.check
  rintro ⟨⟩ hnode
  rw [require_eq_ok] at hnode
  apply Triple.skip looks_system
  intro _
  apply Triple.skip looks_quietSystem
  intro _
  apply (Reads.keeps looks_syncDirectory).post
  rintro _ s - ⟨hs, hlook⟩
  exact ⟨hs, hidentity, fun _ => ⟨hopens.agree hs, node, hlook, hnode⟩⟩

lemma Startable.finds (h : Startable B held s) : Finds (beginCall B held) s () := by
  apply (sure_fromExcept (require_eq_ok.mpr h.1)).bind
  cases held with
  | true => exact sure_pure
  | false =>
    obtain ⟨hopens, node, hnode, hmeta⟩ := h.2 rfl
    obtain ⟨stat, hstat⟩ := hopens.finds
    have hlock : Finds (openLock B) s node := by
      apply sure_action
      intro c hc
      have hlook : s.files.lookup lockFile = some node := hnode
      rw [hc, hlook]
      refine if_neg ?_
      rw [hmeta.1]
      decide
    apply hstat.bind
    apply hlock.bind
    apply finds_system.bind
    apply (sure_fromExcept (require_eq_ok.mpr hmeta)).bind
    apply finds_system.bind
    exact finds_quietSystem.bind finds_system

lemma reads_markerStructure : Reads (fun s marker => MarkerIs B s marker ∧ ∃ found, ShowsManifest B s found ∧
    validateMarkerGeneration marker found = .ok ()) (validateCurrentMarkerStructureLocked B) := by
  apply Reads.andThen reads_readPath
  intro journal
  cases journal with
  | some journal =>
    apply Reads.andThen reads_readJournal
    intro _
    exact reads_refuse
  | none =>
    apply Reads.andThen reads_clean
    intro _
    apply Reads.bind reads_markerShown
    intro found
    cases found with
    | none => exact reads_refuse
    | some snapshot =>
      dsimp only
      split
      · exact reads_refuse
      rename_i marker hparse
      apply Reads.andThen looks_fromExcept
      intro _
      apply Reads.bind reads_readManifest
      intro manifest
      apply reads_check
      rintro ⟨⟩ hgeneration
      apply reads_pure
      rintro s hshows ⟨⟨node, hnode, hbytes, -⟩, -⟩
      exact ⟨⟨node, hnode, hbytes ▸ hparse⟩, manifest, hshows, hgeneration⟩

lemma ends_validateCurrentMarker (h : Done B s₀) :
    Ends (· = s₀) (validateCurrentMarker B held) fun _ _ => Untampered B s₀ := by
  apply ends_beginCall.bind
  intro _
  apply triple_intro
  rintro s₁ - ⟨hs₁, -⟩
  apply Triple.at reads_markerStructure
  rintro marker ⟨hmarker, found, hshows, hgeneration⟩
  apply Triple.at reads_live
  intro live hlive
  apply Triple.check
  rintro ⟨⟩ hsafe
  apply (Reads.triple reads_fromExcept).post
  rintro _ s - ⟨-, hexact⟩
  have hs := hs₁.symm
  exact h.untampered (hmarker.agree hs (by simp)) (showsManifest_agree hshows hs (by simp)) hgeneration
    (hlive.agree hs (by simp)) hsafe (require_eq_ok.mp hexact)

variable (hB : Legible B)

include hB

lemma ends_restoreManifest {manifest : StashManifest} {snapshot : Snapshot} (hclean : Clean B s₀)
    (hjournal : look s₀ journalFile = none) (hread : ManifestRead B s₀ (some (manifest, snapshot))) :
    Ends (· = s₀) (restoreManifest B manifest snapshot.record) fun _ s => Done B s ∧ Settled B s₀ s := by
  unfold restoreManifest
  split
  next target transactionId hstate =>
    apply Triple.at reads_passes
    intro live hverified
    rw [hstate]
    apply (ends_markVerified hB hclean hjournal hread hstate hverified).bind
    intro _
    exact triple_id
  · exact triple_throw
  next hrestored hconsumed =>
    apply Triple.at reads_pathOccupied
    intro occupied hoccupied
    cases occupied with
    | true => exact triple_throw
    | false =>
      apply Triple.skip looks_newTransactionId
      intro transactionId
      refine .bind (ends_writeJournal (X := (· ≠ journalFile)) fun h => h rfl).start fun _ => ?_
      apply triple_intro
      rintro s₁ - ⟨hs₁, node, hnode, hbytes⟩
      have hpends : Pends B s₁ (.restoreReleaseN schemaVersion transactionId snapshot.record
          manifest.active.generation (configStagePrefix ++ transactionId ++ "-restore")
          (configStagePrefix ++ transactionId ++ "-absent-backup")
          (controlStagePrefix ++ transactionId ++ "-manifest")) := ⟨node, hnode, hbytes ▸ hB.lawful.journal _⟩
      have his : ManifestIs B s₁ manifest := hread.is.agree hs₁ (by simp)
      have hmarker := (hs₁.2 _ (by simp)).trans (hoccupied rfl)
      refine .bind (ends_recoverPending hpends fun found hvalid =>
        ends_finishRestoreJournal hB hpends hvalid) fun _ => ?_
      apply triple_pure
      rintro s - ⟨hdone, hsettled, howned⟩
      have hlock : Agree (· = lockFile) s₀ s₁ := hs₁.mono (by rintro _ rfl; simp)
      refine ⟨hdone, hsettled.clean, hsettled.journal, fun h₀ => hsettled.kept ⟨fun m hm => ?_, ?_⟩,
        fun _ hu => ?_, hlock.trans hsettled.lock⟩
      · -- the journal just written is not of a stash
        rcases hm with hm | ⟨_, _, _, _, _, _, hstash⟩
        · rw [← his.unique hm]
          exact sound_of_unrestored (h₀.sound manifest (.inl hread.is)).owned hrestored
        · cases hpends.unique hstash
      · exact fun _ _ _ _ _ _ _ _ => markerBy_of_none hmarker
      · rw [untampered_iff hjournal]
        intro m hm
        rw [← hread.is.unique hm]
        exact sound_of_unrestored (howned manifest his hrestored hu) hrestored

omit hB in
lemma safe_of_exactBootstrap {current : Snapshot}
    (h : exactBootstrap B.platform current B.expectedUid B.expectedGid = .ok ()) :
    validateSafeCompletionState (.present current.record) B.expectedUid B.expectedGid = .ok () := by
  rw [exactBootstrap, then_eq_ok, requireExactFile, require_eq_ok] at h
  obtain ⟨⟨huid, hgid, -, hlink, hsize, -⟩, -⟩ := h
  rw [validateSafeCompletionState, require_eq_ok]
  exact ⟨huid, hgid, hlink, hsize ▸ by decide⟩

omit hB in
lemma settled_of_none (hread : ManifestRead B s₀ none) (hjournal₀ : look s₀ journalFile = none)
    (hread' : ManifestRead B s none) (hclean : Clean B s) (hjournal : look s journalFile = none)
    (hlock : Agree (· = lockFile) s₀ s) : Settled B s₀ s :=
  ⟨hclean, hjournal, fun _ => untampered_of_none hjournal hread'.shows,
    fun _ _ => untampered_of_none hjournal₀ hread.shows, hlock⟩

lemma ends_markUngenerated (hclean : Clean B s₀) (hjournal : look s₀ journalFile = none)
    (hread : ManifestRead B s₀ none)
    (hbeheld : Beheld B s₀ live) (hsafe : validateSafeCompletionState live B.expectedUid B.expectedGid = .ok ())
    (htransaction : validateTransactionId transactionId = .ok ()) :
    Ends (· = s₀) (ensureMarker B transactionId none live) fun _ s => Done B s ∧ Settled B s₀ s := by
  apply (ends_ensureMarker hB.marker htransaction (by decide)).post
  rintro _ s - hensured
  have hothers := hensured.others
  have hclean' := hclean.agree hothers marker_name
  have hjournal' := (hothers.2 _ (by simp)).trans hjournal
  refine ⟨done_of_ensured hread hbeheld hensured (fun marker hnone => ⟨hnone, hsafe⟩) hclean' hjournal',
    settled_of_none hread hjournal (hread.agree hothers aside_ne_marker) hclean' hjournal' ?_⟩
  exact hothers.mono (by rintro _ rfl; simp)

lemma ends_installBootstrap {legacy : Snapshot} (hjournal : look s₀ journalFile = none)
    (hread : ManifestRead B s₀ none) :
    Ends (· = s₀) (installBootstrap B legacy) fun _ s => Done B s ∧ Settled B s₀ s := by
  apply Triple.check
  intro _ _
  apply Triple.skip reads_pathOccupied
  intro occupied
  cases occupied with
  | true => exact triple_throw
  | false =>
    apply Triple.at reads_newTransactionId
    intro transactionId htransaction
    refine .bind (ends_writeJournal (X := (· ≠ journalFile)) fun h => h rfl).start fun _ => ?_
    apply triple_intro
    rintro s₁ - ⟨hs₁, node, hnode, hbytes⟩
    have hpends : Pends B s₁ (.bootstrapReleaseN schemaVersion transactionId legacy.record
        (configStagePrefix ++ transactionId ++ "-bootstrap")) := ⟨node, hnode, hbytes ▸ hB.lawful.journal _⟩
    refine .bind (ends_recoverPending hpends fun found hvalid => ends_finishBootstrapJournal hB hvalid) fun _ => ?_
    apply triple_intro
    intro s₂ _ hbootstrapped
    have hs₂ := (hs₁.mono aside_ne_journal).trans hbootstrapped.others
    have hread₂ := hread.agree hs₂ fun _ hq => hq
    have hsettled := settled_of_none hread hjournal hread₂ hbootstrapped.clean hbootstrapped.journal
      (hs₂.mono fun _ hq => hq ▸ aside_lock)
    apply Triple.at reads_current
    intro found hbeheld
    cases found with
    | none => exact triple_throw
    | some installed =>
      apply Triple.check
      rintro ⟨⟩ hexact
      apply (ends_markUngenerated hB hbootstrapped.clean hbootstrapped.journal hread₂ (hbeheld installed rfl)
        (safe_of_exactBootstrap hexact) htransaction).bind
      intro _
      exact triple_pure fun s _ hs => ⟨hs.1, hsettled.trans hs.2⟩

/-- What a completing call that succeeds makes of the state it found. -/
structure Completed (B : ConfigBridge) (held : Bool) (s₀ s : World) : Prop where
  done : Done B s
  start : Startable B held s
  kept : Untampered B s₀ → Untampered B s
  exact : look s₀ journalFile = none → Untampered B s → Untampered B s₀

lemma ends_completing {fresh : Op BootstrapOutcome} (hfresh : ∀ s₀, Clean B s₀ → look s₀ journalFile = none →
    ManifestRead B s₀ none → Ends (· = s₀) fresh fun _ s => Done B s ∧ Settled B s₀ s) :
    Ends (· = s₀) (do
      beginCall B held
      recoverLocked B true
      match ← readManifest B with
      | some (manifest, snapshot) => restoreManifest B manifest snapshot.record
      | none => fresh) fun _ => Completed B held s₀ := by
  apply ends_beginCall.bind
  intro _
  apply triple_intro
  rintro s₁ - ⟨hs₁, hstart⟩
  apply (ends_recoverLocked hB).bind
  intro _
  apply triple_intro
  intro s₂ _ hs₂
  have hrest : Ends (· = s₂) (do
      match ← readManifest B with
      | some (manifest, snapshot) => restoreManifest B manifest snapshot.record
      | none => fresh) fun _ s => Done B s ∧ Settled B s₂ s := by
    apply Triple.at reads_manifestRead
    intro found hread
    cases found with
    | some pair => exact ends_restoreManifest hB hs₂.clean hs₂.journal hread
    | none => exact hfresh s₂ hs₂.clean hs₂.journal hread
  apply hrest.post
  rintro _ s - ⟨hdone, hs⟩
  have hsettled := hs₂.trans hs
  refine ⟨hdone, hstart.agree hsettled.lock, fun h₀ => hsettled.kept (h₀.agree hs₁), fun hnone hu => ?_⟩
  exact (hsettled.exact ((hs₁.2 _ (by simp)).trans hnone) hu).agree hs₁.symm

lemma ends_bootstrapReleaseN : Ends (· = s₀) (bootstrapReleaseN B held) fun _ => Completed B held s₀ := by
  apply ends_completing hB
  intro s₁ hclean hjournal hread
  apply Triple.skip looks_requireBootstrapSource
  intro source
  apply Triple.at reads_current
  intro current hbeheld
  cases current with
  | none => exact triple_throw
  | some current =>
    dsimp only
    split
    next hexact =>
      apply Triple.at reads_newTransactionId
      intro transactionId htransaction
      apply (ends_markUngenerated hB hclean hjournal hread (hbeheld current rfl)
        (safe_of_exactBootstrap (of_decide_eq_true hexact)) htransaction).bind
      intro _
      exact triple_id
    · exact ends_installBootstrap hB hjournal hread

lemma ends_completeReleaseN : Ends (· = s₀) (completeReleaseN B held) fun _ => Completed B held s₀ := by
  apply ends_completing hB
  intro s₁ hclean hjournal hread
  apply Triple.at reads_beheld
  intro live hbeheld
  apply Triple.check
  rintro ⟨⟩ hsafe
  apply Triple.at reads_newTransactionId
  intro transactionId htransaction
  apply (ends_markUngenerated hB hclean hjournal hread hbeheld hsafe htransaction).bind
  intro _
  exact triple_id

end

deriving instance Countable for BootstrapMarker

def restoredManifest : StashManifest :=
  ⟨2, "release-n", "/etc/howy/config.toml", ⟨1, sampleTransaction,
    .restored (.presentStashed (sampleRecord 5 2) (stashPath 1) sampleDigest 2) (.present (sampleRecord 5 2))
      sampleTransaction⟩, []⟩

def restoredMarker (inode : ℕ) : BootstrapMarker :=
  ⟨1, "release-n", sampleTransaction, some 1, .present (sampleRecord inode 2)⟩

noncomputable def restoredBridge (inode : ℕ) : ConfigBridge where
  platform := { samplePlatform (sampleJournal none) restoredManifest with
    markerToVec := toVec (restoredMarker inode)
    markerFromSlice := fromSlice (restoredMarker inode) }
  expectedUid := 0
  expectedGid := 0
  requireEuidRoot := true
  euid := 0
  egid := 0

lemma restoredBridge_legible {inode : ℕ} : Legible (restoredBridge inode) where
  lawful :=
    { journal := (samplePlatform_lawful (sampleJournal none) restoredManifest).journal
      manifest := (samplePlatform_lawful (sampleJournal none) restoredManifest).manifest
      legacy := (samplePlatform_lawful (sampleJournal none) restoredManifest).legacy }
  marker := fromSlice_toVec

def restoredWorld (inode : ℕ) : World :=
  put (put (put ⟨∅, fun _ => some ⟨1, 1, 0, 0, 0o755, 2⟩, []⟩ configFile (sampleNode inode [104, 105]))
    (stashFile 1) (sampleNode 6 [104, 105])) manifestFile (sampleNode 7 [1, 10])

noncomputable def bootstrapRun (inode : ℕ) : Option (Except BridgeError BootstrapOutcome × World) :=
  (bootstrapReleaseN (restoredBridge inode) false).run.run (List.replicate 400 {}) (restoredWorld inode)

lemma untampered_restoredWorld : Untampered (restoredBridge 5) (restoredWorld 5) := by
  have hmanifest : look (restoredWorld 5) manifestFile = some (sampleNode 7 [1, 10]) := look_put_self _ _ _
  have hother : ∀ q, q ≠ manifestFile → q ≠ stashFile 1 → q ≠ configFile → look (restoredWorld 5) q = none := by
    intro q hm hs hc
    rw [restoredWorld, look_put_of_ne hm, look_put_of_ne hs, look_put_of_ne hc]
    rfl
  have hjournal := hother journalFile (by simp) stash_ne_journal.symm (by simp)
  have hmarker := hother markerFile (by simp) stash_ne_marker.symm (by simp)
  have hlive : Live (restoredBridge 5) (restoredWorld 5) (.present (sampleRecord 5 2)) :=
    ⟨sampleNode 5 [104, 105], rfl, by decide +kernel⟩
  rw [untampered_iff hjournal]
  intro manifest his
  obtain rfl := his.unique ⟨_, hmanifest, rfl⟩
  refine ⟨fun source hsource => ?_, fun c t i live hstate hstands _ => ?_, fun c t i live marker _ _ hmarked => ?_⟩
  · cases hsource
    exact ⟨rfl, rfl⟩
  · cases hstate
    rw [← hlive.unique hstands]
    exact configStatesExactMatch_refl
  · obtain ⟨node, hnode, -⟩ := hmarked
    cases hnode.symm.trans hmarker

end Howy.Bridge.Completion
