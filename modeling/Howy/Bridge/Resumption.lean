import Howy.Bridge.Restoring
import Howy.Bridge.Safety

namespace Howy.Bridge

open Library Safety

variable {B : ConfigBridge} {X : Path → Prop} {s s' s₀ : World} {transactionId : String} {generation : ℕ}
  {live : ConfigState} {journal : BridgeJournal}

lemma marker_name : (fromUtf8 markerFile.name).isSome ∧ isStageName markerFile.name = false := by
  refine ⟨Option.isSome_iff_exists.mpr ⟨_, fromUtf8_eq_some.mpr rfl⟩, ?_⟩
  exact Bool.eq_false_iff.mpr fun h => marker_not_isStage ⟨.inr (.inr rfl), h⟩

lemma aside_ne_marker : ∀ q, Aside q → q ≠ markerFile := fun _ hq => hq.2.1

lemma aside_ne_journal : ∀ q, Aside q → q ≠ journalFile := fun _ hq => hq.2.2.1

variable {manifest : StashManifest} {stageName : String} {captured : GenerationState} {target : ConfigState}

abbrev Pends (B : ConfigBridge) (s : World) (journal : BridgeJournal) : Prop :=
  Parses B.platform.journalFromSlice journalFile s journal

def Recorded (B : ConfigBridge) (s : World) (manifest : StashManifest) : Prop :=
  ManifestIs B s manifest ∨ ∃ schema transactionId source previous stageName marker,
    Pends B s (.stashReleaseN schema transactionId source previous manifest stageName marker)

/-- A capture is of a file of the expected owner. Where the manifest says that the generation was restored, what
passes for it is the very file it was restored to (with a journal pending, whatever stands is), and a marker that
would be kept is of the transaction that restored it. -/
structure Sound (B : ConfigBridge) (s : World) (manifest : StashManifest) : Prop where
  owned : Owned B manifest.active.state
  binds : ∀ captured target transactionId live, manifest.active.state = .restored captured target transactionId →
    Live B s live → (look s journalFile = none → Passes captured target live) →
    configStatesExactMatch target live = true
  marked : ∀ captured target transactionId live marker,
    manifest.active.state = .restored captured target transactionId → Live B s live → MarkerIs B s marker →
    marker.generation = some manifest.active.generation → configStatesExactMatch marker.config live = true →
    marker.transactionId = transactionId

structure Untampered (B : ConfigBridge) (s : World) : Prop where
  sound : ∀ manifest, Recorded B s manifest → Sound B s manifest
  pending : ∀ schema transactionId manifest generation stageName backupName manifestStageName,
    Pends B s (.restoreReleaseN schema transactionId manifest generation stageName backupName manifestStageName) →
      MarkerBy B transactionId s

lemma Recorded.agree (h : Recorded B s manifest) (hs : Agree X s s')
    (hm : X manifestFile) (hj : X journalFile) : Recorded B s' manifest := by
  refine h.imp (fun h => h.agree hs hm) ?_
  rintro ⟨schema, transactionId, source, previous, stageName, marker, hpends⟩
  exact ⟨schema, transactionId, source, previous, stageName, marker, hpends.agree hs hj⟩

lemma Untampered.agree (h : Untampered B s) (hs : Agree (· ≠ lockFile) s s') : Untampered B s' := by
  have hc : configFile ≠ lockFile := by simp
  have hk : markerFile ≠ lockFile := by simp
  have hj : journalFile ≠ lockFile := by simp
  constructor
  · intro m hr
    have hm := h.sound m (hr.agree hs.symm (by simp) hj)
    refine ⟨hm.owned, fun c t i live hstate hlive hpasses => ?_, fun c t i live marker hstate hlive hmarker => ?_⟩
    · exact hm.binds c t i live hstate (hlive.agree hs.symm hc) fun hnone => hpasses ((hs.2 _ hj).trans hnone)
    · exact hm.marked c t i live marker hstate (hlive.agree hs.symm hc) (hmarker.agree hs.symm hk)
  · exact fun a t b c d e f hp => (h.pending a t b c d e f (hp.agree hs.symm hj)).agree hs hk

lemma untampered_iff (hjournal : look s journalFile = none) :
    Untampered B s ↔ ∀ manifest, ManifestIs B s manifest → Sound B s manifest := by
  refine ⟨fun h m hm => h.sound m (.inl hm), fun h => ⟨fun m hm => h m (hm.resolve_right ?_), ?_⟩⟩
  · rintro ⟨schema, transactionId, source, previous, stageName, marker, hpends⟩
    exact hpends.look_ne hjournal
  · exact fun _ _ _ _ _ _ _ hpends => absurd hjournal hpends.look_ne

lemma untampered_of_none (hjournal : look s journalFile = none) (hnone : look s manifestFile = none) :
    Untampered B s := by
  rw [untampered_iff hjournal]
  rintro manifest ⟨node, hnode, -⟩
  cases hnode.symm.trans hnone

lemma sound_of_unrestored (howned : Owned B manifest.active.state)
    (hnot : ∀ captured target transactionId, manifest.active.state ≠ .restored captured target transactionId) :
    Sound B s manifest :=
  ⟨howned, fun c t i _ hstate => absurd hstate (hnot c t i), fun c t i _ _ hstate => absurd hstate (hnot c t i)⟩

def Fits (B : ConfigBridge) (marker : BootstrapMarker) (live : ConfigState) :
    Option (StashManifest × Snapshot) → Prop
  | none => marker.generation = none ∧ validateSafeCompletionState live B.expectedUid B.expectedGid = .ok ()
  | some (manifest, _) => marker.generation = some manifest.active.generation ∧ RestoredAs manifest live

/-- What every completing call leaves when it succeeds. -/
structure Done (B : ConfigBridge) (s : World) : Prop where
  clean : Clean B s
  journal : look s journalFile = none
  marker : ∃ marker found live, Marked B s marker ∧ ManifestRead B s found ∧ Beheld B s live ∧
    configStatesExactMatch marker.config live = true ∧ Fits B marker live found

lemma done_of_ensured {generation : Option ℕ} {found : Option (StashManifest × Snapshot)}
    (hread : ManifestRead B s₀ found) (hbeheld : Beheld B s₀ live)
    (hensured : MarkerEnsured B transactionId generation live s₀ s)
    (hfits : ∀ marker, marker.generation = generation → Fits B marker live found) (hclean : Clean B s)
    (hjournal : look s journalFile = none) : Done B s := by
  obtain ⟨marker, hmarked, hgeneration, hexact, -⟩ := hensured.marker
  exact ⟨hclean, hjournal, marker, found, live, hmarked, hread.agree hensured.others aside_ne_marker,
    hbeheld.agree hensured.others (by simp), hexact, hfits marker hgeneration⟩

lemma Done.finds {held : Bool} (h : Done B s) (hu : Untampered B s) (hbegin : Finds (beginCall B held) s ()) :
    Finds (validateCurrentMarker B held) s () := by
  obtain ⟨marker, found, live, ⟨his, ⟨snapshot, hsnapshot, hparse⟩, hvalid⟩, hread, hbeheld, hexact, hfits⟩ :=
    h.marker
  have hchecks : validateMarkerGeneration marker found = .ok () ∧
      validateSafeCompletionState live B.expectedUid B.expectedGid = .ok () := by
    cases found with
    | none => exact ⟨require_eq_ok.mpr hfits.1, hfits.2⟩
    | some pair =>
      obtain ⟨hgeneration, captured, target, transactionId, hstate, hpasses⟩ := hfits
      have hsound := hu.sound pair.1 (.inl hread.is)
      have htarget := hsound.binds captured target transactionId live hstate hbeheld.stands fun _ => hpasses
      refine ⟨?_, safe_of_passes hpasses hbeheld.stands (hsound.owned.restored hstate)⟩
      rw [validateMarkerGeneration, hgeneration, hstate, require_eq_ok]
      exact ⟨rfl, hsound.marked captured target transactionId live marker hstate hbeheld.stands his
        hgeneration hexact, exactMatch_of_both hexact htarget⟩
  have hstructure : Finds (validateCurrentMarkerStructureLocked B) s marker := by
    apply (finds_readPath_none (h.clean.opens _ (.inr (.inl rfl))) h.journal).bind
    apply h.clean.finds.bind
    apply hsnapshot.bind
    simp only [hparse]
    apply (sure_fromExcept hvalid).bind
    apply (hread.finds s (Agree.refl _ s)).bind
    exact (sure_fromExcept hchecks.1).bind sure_pure
  apply hbegin.bind
  apply hstructure.bind
  apply (hbeheld.finds s (Agree.refl _ s)).bind
  apply (sure_fromExcept hchecks.2).bind
  exact sure_fromExcept (require_eq_ok.mpr hexact)

lemma Done.untampered {marker : BootstrapMarker} {found : Option (StashManifest × Snapshot)} (h : Done B s)
    (hmarker : MarkerIs B s marker) (hshows : ShowsManifest B s found)
    (hgeneration : validateMarkerGeneration marker found = .ok ()) (hlive : Live B s live)
    (hsafe : validateSafeCompletionState live B.expectedUid B.expectedGid = .ok ())
    (hexact : configStatesExactMatch marker.config live) : Untampered B s := by
  rw [untampered_iff h.journal]
  intro manifest his
  obtain ⟨marker', found', live', hmarked, hread', hbeheld, -, hfits⟩ := h.marker
  obtain rfl := hmarked.is.unique hmarker
  obtain rfl := hbeheld.stands.unique hlive
  have hfound {found : Option (StashManifest × Snapshot)} (hshows : ShowsManifest B s found) :
      ∃ snapshot, found = some (manifest, snapshot) := by
    cases found with
    | none =>
      obtain ⟨node, hnode, -⟩ := his
      cases hnode.symm.trans hshows
    | some pair => exact ⟨pair.2, by rw [← (is_of_shows hshows).unique his]⟩
  obtain ⟨snapshot, rfl⟩ := hfound hshows
  obtain ⟨snapshot', rfl⟩ := hfound hread'.shows
  obtain ⟨hsome, captured, target, transactionId, hstate, hpasses⟩ := hfits
  rw [validateMarkerGeneration, hsome, hstate, require_eq_ok] at hgeneration
  obtain ⟨-, htransaction, htarget⟩ := hgeneration
  refine ⟨fun source hsource => ?_, fun c t i other hstate' hother _ => ?_,
    fun c t i other marker' hstate' _ his' _ _ => ?_⟩
  · rw [hstate] at hsource
    have hmatches := hpasses.source
    cases captured with
    | presentStashed source' path hash size =>
      cases hsource
      cases live' with
      | absent => cases hmatches
      | present file =>
        rw [validateSafeCompletionState, require_eq_ok] at hsafe
        obtain ⟨huid, hgid, -⟩ := hsafe
        have hkey := logicallyMatches_iff.mp hmatches
        simp only [logicalKey, Prod.mk.injEq] at hkey
        exact ⟨hkey.2.1.symm.trans huid, hkey.2.2.1.symm.trans hgid⟩
    | absent | restored | consumedRefreshable => cases hsource
  · cases hstate.symm.trans hstate'
    rw [← hbeheld.stands.unique hother]
    exact exactMatch_of_both (exactMatch_of_both configStatesExactMatch_refl htarget)
      (exactMatch_of_both configStatesExactMatch_refl hexact)
  · cases hstate.symm.trans hstate'
    rw [← hmarker.unique his']
    exact htransaction

/-- After recovery the condition still holds; where no journal was pending, it held before if it holds now. -/
structure Settled (B : ConfigBridge) (s₀ s : World) : Prop where
  clean : Clean B s
  journal : look s journalFile = none
  kept : Untampered B s₀ → Untampered B s
  exact : look s₀ journalFile = none → Untampered B s → Untampered B s₀
  lock : Agree (· = lockFile) s₀ s

lemma Settled.trans {s₁ : World} (h₁ : Settled B s₀ s₁) (h : Settled B s₁ s) : Settled B s₀ s :=
  ⟨h.clean, h.journal, fun h₀ => h.kept (h₁.kept h₀), fun hnone hs => h₁.exact hnone (h.exact h₁.journal hs),
    h₁.lock.trans h.lock⟩

lemma settled_of_pending (hclean : Clean B s) (hjournal : look s journalFile = none) (hpends : Pends B s₀ journal)
    (hsound : Untampered B s₀ → ∀ manifest, ManifestIs B s manifest → Sound B s manifest)
    (hlock : Agree (· = lockFile) s₀ s) : Settled B s₀ s :=
  ⟨hclean, hjournal, fun h₀ => (untampered_iff hjournal).mpr (hsound h₀),
    fun hnone => absurd hnone hpends.look_ne, hlock⟩

lemma settled_ensured (hclean : Clean B s₀) (hjournal : look s₀ journalFile = none)
    (his : ManifestIs B s₀ manifest)
    (hstate : manifest.active.state = .restored captured target transactionId) (hlive : Live B s₀ live)
    (hensured : MarkerEnsured B transactionId (some manifest.active.generation) live s₀ s) : Settled B s₀ s := by
  have hothers := hensured.others
  have hc : configFile ≠ markerFile := by simp
  have hjournal' := (hothers.2 _ (by simp)).trans hjournal
  have his' : ManifestIs B s manifest := his.agree hothers (by simp)
  refine ⟨hclean.agree hothers marker_name, hjournal', fun h => ?_,
    fun _ h => ?_, hothers.mono (by rintro _ rfl; simp)⟩
  · rw [untampered_iff hjournal']
    intro m hm
    obtain rfl := his'.unique hm
    have hsound := h.sound manifest (.inl his)
    refine ⟨hsound.owned, fun c t i other hst ho hp => ?_,
      fun c t i other marker hst ho hmarker hgeneration hexact => ?_⟩
    · exact hsound.binds c t i other hst (ho.agree hothers.symm hc) fun _ => hp hjournal'
    · cases hstate.symm.trans hst
      obtain ⟨found, hmarked, -, hbound, hby⟩ := hensured.marker
      obtain rfl := hmarked.is.unique hmarker
      exact hby.elim id fun hold => hsound.marked _ _ _ live _ hstate hlive hold hgeneration hbound
  · rw [untampered_iff hjournal]
    intro m hm
    obtain rfl := his.unique hm
    have hsound := h.sound manifest (.inl his')
    refine ⟨hsound.owned, fun c t i other hst ho hp => ?_,
      fun c t i other marker hst ho hmarker hgeneration hexact => ?_⟩
    · exact hsound.binds c t i other hst (ho.agree hothers hc) fun _ => hp hjournal
    · have hkept := hensured.kept marker hmarker hgeneration (hlive.unique ho ▸ hexact)
      exact hsound.marked c t i other marker hst (ho.agree hothers hc) hkept hgeneration hexact

section

variable {snapshot : Snapshot} {schema : ℕ}

structure Legible (B : ConfigBridge) : Prop where
  lawful : B.platform.Lawful
  marker : ∀ marker, B.platform.markerFromSlice (B.platform.markerToVec marker ++ [10]) = some marker

lemma owned_of_captured (howned : Owned B (.restored captured target transactionId))
    (hcaptured : captureToRestore (isRestoredBy transactionId manifest.active.state)
      manifest.active.state = .ok captured)
    (hnot : ∀ captured target transactionId, manifest.active.state ≠ .restored captured target transactionId) :
    Owned B manifest.active.state := by
  intro source hsource
  apply howned source
  cases hstate : manifest.active.state with
  | restored captured target transactionId => exact absurd hstate (hnot _ _ _)
  | presentStashed | absent | consumedRefreshable =>
    rw [hstate] at hcaptured hsource
    cases hcaptured
    exact hsource

variable (hB : Legible B)

include hB

lemma ends_finishRestoreJournal {record : FileRecord} {backupName manifestStageName : String}
    (hpends : Pends B s₀ (.restoreReleaseN schema transactionId record generation stageName backupName
      manifestStageName))
    (hvalid : (BridgeJournal.restoreReleaseN schema transactionId record generation stageName backupName
      manifestStageName).validate = .ok ()) : Ends (· = s₀)
      (finishJournal B snapshot (.restoreReleaseN schema transactionId record generation stageName backupName
        manifestStageName)) fun _ s => Done B s ∧ Settled B s₀ s ∧ ∀ manifest, ManifestIs B s₀ manifest →
          (∀ captured target transactionId, manifest.active.state ≠ .restored captured target transactionId) →
          Untampered B s → Owned B manifest.active.state := by
  simp only [BridgeJournal.validate, then_eq_ok, validateSchemaAndTransaction, validateStageName,
    validateControlStageName, require_eq_ok] at hvalid
  obtain ⟨⟨-, htransaction⟩, -, hnonzero, hstage, hbackup, hmanifest⟩ := hvalid
  refine .bind (Q := fun post s => ∃ live manifest captured target,
    post = some (transactionId, some generation, live) ∧
    manifest.active.generation = generation ∧ Restored B transactionId live s₀ s manifest captured target ∧
      Agree (fun q => q.directory ≠ .etcHowy ∧ q.directory ≠ .state) s₀ s) ?_ ?_
  · apply (ends_recoverRestore hB.lawful (hstage ▸ configStage_isStageName) (hbackup ▸ configStage_isStageName)
      (hmanifest ▸ controlStage_isStageName)).bind
    intro live
    apply triple_pure
    rintro s - ⟨⟨manifest, captured, target, hgeneration, hrestored⟩, hs⟩
    exact ⟨live, manifest, captured, target, rfl, hgeneration, hrestored, hs⟩
  intro post
  apply triple_intro
  rintro s₁ - ⟨live, manifest, captured, target, rfl, rfl, hrestored, hs₁⟩
  refine .bind (ends_removeJournal (X := (· ≠ journalFile)) fun h => h rfl).start fun _ => ?_
  apply triple_intro
  rintro s₂ - ⟨hs₂, hjournal⟩
  have hrestored₂ := hrestored.agree hs₂ aside_ne_journal (by simp)
  obtain ⟨manifestSnapshot, hread⟩ := hrestored₂.read
  obtain ⟨before, hbefore, hcaptured, hexact⟩ := hrestored₂.before
  apply (ends_ensureMarker hB.marker htransaction fun h => hnonzero (Option.some.inj h)).bind
  intro _
  apply (Reads.triple reads_clean).post
  rintro _ s - ⟨hensured, hclean⟩
  have hothers := hensured.others
  have hjournal' := (hothers.2 _ (by simp)).trans hjournal
  have his : ManifestIs B s manifest := hread.is.agree hothers (by simp)
  refine ⟨done_of_ensured hread hrestored₂.config hensured (fun marker hmarker => ⟨hmarker, captured, target,
    transactionId, hrestored₂.state, hrestored₂.passes⟩) hclean hjournal', ?_, fun m hm hnot hu => ?_⟩
  · apply settled_of_pending hclean hjournal' hpends
    · intro h₀ m hm
      obtain rfl := his.unique hm
      have hsound := h₀.sound before (.inl hbefore)
      refine ⟨fun source hsource => ?_, fun c t i other hst ho _ => ?_,
        fun c t i other marker hst ho hmarker hsome _ => ?_⟩
      · rw [hrestored₂.state] at hsource
        cases captured with
        | presentStashed =>
          cases hsource
          exact hsound.owned source (capturedSource_captureToRestore hcaptured rfl)
        | absent | restored | consumedRefreshable => cases hsource
      · cases hrestored₂.state.symm.trans hst
        rw [← (hrestored₂.config.stands.agree hothers (by simp)).unique ho]
        exact hexact fun t' hrestored' l hl =>
          hsound.binds _ t' _ l hrestored' hl fun hnone => absurd hnone hpends.look_ne
      · cases hrestored₂.state.symm.trans hst
        obtain ⟨found, hmarked, -, -, hby⟩ := hensured.marker
        obtain rfl := hmarked.is.unique hmarker
        have hpending := ((h₀.pending _ _ _ _ _ _ _ hpends).agree hs₁ (by decide)).agree hs₂ (by simp)
        exact hby.elim id fun hold => hpending _ hold (hsome ▸ Option.some_ne_none _)
    · have h₁ : Agree (· = lockFile) s₀ s₁ := hs₁.mono (by rintro _ rfl; decide)
      have h₂ : Agree (· = lockFile) s₁ s₂ := hs₂.mono (by rintro _ rfl; simp)
      exact (h₁.trans h₂).trans (hothers.mono (by rintro _ rfl; simp))
  · rw [hbefore.unique hm] at hcaptured
    exact owned_of_captured (hrestored₂.state ▸ (hu.sound manifest (.inl his)).owned) hcaptured hnot

structure Bootstrapped (B : ConfigBridge) (s₀ s : World) : Prop where
  clean : Clean B s
  journal : look s journalFile = none
  others : Agree Aside s₀ s
  marker : ∀ transactionId, MarkerBy B transactionId s
  kept : KeptOrLegacy B s₀ s
  config : ∃ r, Live B s (.present r) ∧ r.sha256 = bootstrapSha256

lemma ends_finishBootstrapJournal {legacy : FileRecord}
    (hvalid : (BridgeJournal.bootstrapReleaseN schema transactionId legacy stageName).validate = .ok ()) :
    Ends (· = s₀) (finishJournal B snapshot (.bootstrapReleaseN schema transactionId legacy stageName))
      fun _ => Bootstrapped B s₀ := by
  simp only [BridgeJournal.validate, then_eq_ok, validateSchemaAndTransaction, validateStageName,
    require_eq_ok] at hvalid
  obtain ⟨⟨-, htransaction⟩, -, hstage⟩ := hvalid
  refine .bind (Q := fun post s => ∃ current : Snapshot,
    post = some (transactionId, none, .present current.record) ∧
    Live B s (.present current.record) ∧ current.record.sha256 = bootstrapSha256 ∧
      Agree (fun q => q.directory ≠ .etcHowy) s₀ s ∧ KeptOrLegacy B s₀ s) ?_ ?_
  · apply (ends_recoverBootstrap (hstage ▸ configStage_isStageName)).bind
    intro _
    apply Triple.look reads_readPath
    intro current
    cases current with
    | none => exact triple_throw
    | some current =>
      apply Triple.check
      rintro ⟨⟩ hexact
      rw [exactBootstrap, then_eq_ok, requireExactFile, require_eq_ok] at hexact
      apply triple_pure
      rintro s - ⟨hs, hshows⟩
      exact ⟨current, rfl, live_of_shows hshows, hexact.1.2.2.2.2.2, hs⟩
  intro post
  apply triple_intro
  rintro s₁ - ⟨current, rfl, hlive, hsha, hs₁, hkept⟩
  refine .bind (ends_removeJournal (X := (· ≠ journalFile)) fun h => h rfl).start fun _ => ?_
  apply triple_intro
  rintro s₂ - ⟨hs₂, hjournal⟩
  apply (ends_ensureMarker hB.marker htransaction (by decide)).bind
  intro _
  apply (Reads.triple reads_clean).post
  rintro _ s - ⟨hensured, hclean⟩
  have hothers := hensured.others
  have hconfig : look s configFile = look s₁ configFile :=
    (hothers.2 _ (by simp)).trans (hs₂.2 _ (by simp))
  refine ⟨hclean, (hothers.2 _ (by simp)).trans hjournal, ?_, hensured.by_of_none,
    hkept.imp (hconfig.trans) id, current.record, ?_, hsha⟩
  · have h₁ : Agree Aside s₀ s₁ := hs₁.mono fun _ hq => hq.1
    exact (h₁.trans (hs₂.mono aside_ne_journal)).trans (hothers.mono aside_ne_marker)
  · exact (hlive.agree hs₂ (by simp)).agree hothers (by simp)

omit hB in
lemma bootstrap_ne_legacy : bootstrapSha256 ≠ legacySha256 := by decide

omit hB in
lemma Bootstrapped.exact (h : Bootstrapped B s₀ s)
    (hbinds : Binds B s₀ target) (hlive : Live B s live) (hpasses : Passes captured target live) :
    configStatesExactMatch target live := by
  rcases h.kept with hsame | ⟨stood, hstood, hlegacy⟩
  · have hagree : Agree (· = configFile) s s₀ := ⟨h.others.1.symm, fun q hq => hq ▸ hsame.symm⟩
    exact hbinds live (hlive.agree hagree rfl)
  -- the target would be the legacy payload, and what stands is the bootstrap
  exfalso
  obtain ⟨r, hr, hsha⟩ := h.config
  obtain rfl := hlive.unique hr
  have hexact := hbinds _ hstood
  have htarget := hpasses.target
  cases target with
  | absent absence => cases hexact
  | present file =>
    rw [configStatesExactMatch, sameObject_iff, logicalKey, Prod.mk.injEq] at hexact
    rw [configStatesLogicallyMatch, logicallyMatches_iff, logicalKey, Prod.mk.injEq] at htarget
    exact bootstrap_ne_legacy (hsha.symm.trans (htarget.1.trans (hexact.2.2.1.trans hlegacy)))

omit hB in
lemma Bootstrapped.settled (h : Bootstrapped B s₀ s) (hpends : Pends B s₀ journal) : Settled B s₀ s := by
  apply settled_of_pending h.clean h.journal hpends
  · intro h₀ m hm
    have hsound := h₀.sound m (.inl (hm.agree h.others.symm aside_manifest))
    refine ⟨hsound.owned, fun c t i live hstate hlive hpasses => ?_, fun c t i _ marker _ _ hmarker hsome _ => ?_⟩
    · refine h.exact (fun other hother => ?_) hlive (hpasses h.journal)
      exact hsound.binds c t i other hstate hother fun hnone => absurd hnone hpends.look_ne
    · exact h.marker i marker hmarker (hsome ▸ Option.some_ne_none _)
  · exact h.others.mono fun q hq => hq ▸ aside_lock

lemma ends_finishStashJournal {source : ConfigState} {previous : Option FileRecord} {marker : Option FileRecord}
    (hpends : Pends B s₀ (.stashReleaseN schema transactionId source previous manifest stageName marker))
    (hvalid : (BridgeJournal.stashReleaseN schema transactionId source previous manifest stageName
      marker).validate = .ok ()) : Ends (· = s₀)
      (finishJournal B snapshot (.stashReleaseN schema transactionId source previous manifest stageName marker))
      fun _ => Settled B s₀ := by
  simp only [BridgeJournal.validate, then_eq_ok, validateControlStageName, require_eq_ok] at hvalid
  have hstage := hvalid.2.2.2.2.1 ▸ controlStage_isStageName
  refine .bind (Q := fun post s => post = none ∧
    ManifestHas (Agree (fun q => q.directory ≠ .state ∧ q ≠ markerFile) s₀)
    (B.platform.manifestToVec manifest ++ [10]) s ∧ look s markerFile = none) ?_ ?_
  · apply (ends_recoverStash hstage).bind
    intro _
    exact triple_pure fun s _ hs => ⟨rfl, hs⟩
  intro post
  apply triple_intro
  rintro s₁ - ⟨rfl, ⟨hs₁, node, hnode, hbytes⟩, hmarker⟩
  refine .bind (ends_removeJournal (X := (· ≠ journalFile)) fun h => h rfl).start fun _ => ?_
  apply Triple.skip (reads_pure (R := fun _ _ => True) fun _ => trivial)
  intro _
  apply (Reads.triple reads_clean).post
  rintro _ s - ⟨⟨hs, hjournal⟩, hclean⟩
  have hstands : ManifestIs B s manifest :=
    ⟨node, (hs.2 _ (by simp)).trans hnode, hbytes ▸ hB.lawful.manifest manifest⟩
  apply settled_of_pending hclean hjournal hpends
  · intro h₀ m hm
    obtain rfl := hstands.unique hm
    have hsound := h₀.sound manifest (.inr ⟨schema, transactionId, source, previous, stageName, marker, hpends⟩)
    refine ⟨hsound.owned, fun c t i live hstate hlive _ => ?_, fun c t i _ marker _ _ hmarker' => ?_⟩
    · exact hsound.binds c t i live hstate ((hlive.agree hs.symm (by simp)).agree hs₁.symm (by simp)) fun hnone =>
        absurd hnone hpends.look_ne
    · obtain ⟨found, hfound, -⟩ := hmarker'
      cases hfound.symm.trans ((hs.2 _ (by simp)).trans hmarker)
  · have h₁ : Agree (· = lockFile) s₀ s₁ := hs₁.mono (by rintro _ rfl; simp)
    exact h₁.trans (hs.mono (by rintro _ rfl; simp))

omit hB in
lemma restored_valid
    (h : manifest.validate = .ok ()) (hstate : manifest.active.state = .restored captured target transactionId) :
    validateTransactionId transactionId = .ok () ∧ some manifest.active.generation ≠ some 0 := by
  simp only [StashManifest.validate, then_eq_ok, require_eq_ok, hstate, validateActiveGeneration] at h
  exact ⟨h.2.2.1.2.2, fun hzero => h.1.2.2.2.1 (Option.some.inj hzero)⟩

lemma ends_markVerified (hclean : Clean B s₀) (hjournal : look s₀ journalFile = none)
    (hread : ManifestRead B s₀ (some (manifest, snapshot)))
    (hstate : manifest.active.state = .restored captured target transactionId)
    (hverified : Beheld B s₀ live ∧ RestoredAs manifest live) :
    Ends (· = s₀) (ensureMarker B transactionId (some manifest.active.generation) live)
      fun _ s => Done B s ∧ Settled B s₀ s := by
  obtain ⟨htransaction, hgeneration⟩ := restored_valid (hread.valid _ rfl) hstate
  apply (ends_ensureMarker hB.marker htransaction hgeneration).post
  rintro _ s - hensured
  have hsettled := settled_ensured hclean hjournal hread.is hstate hverified.1.stands hensured
  exact ⟨done_of_ensured hread hverified.1 hensured (fun marker hmarker => ⟨hmarker, hverified.2⟩) hsettled.clean
    hsettled.journal, hsettled⟩

omit hB in
lemma ends_recoverPending {revalidate : Bool} {Q : Unit → World → Prop} (hpends : Pends B s₀ journal)
    (h : ∀ snapshot, journal.validate = .ok () → Ends (· = s₀) (finishJournal B snapshot journal) Q) :
    Ends (· = s₀) (recoverLocked B revalidate) Q := by
  obtain ⟨node, hnode, hparse⟩ := hpends
  apply Triple.at reads_readPath
  intro found hshows
  cases found with
  | none => cases hnode.symm.trans hshows
  | some snapshot =>
    obtain ⟨node', hnode', hbytes, -⟩ := hshows
    obtain rfl : node = node' := Option.some.inj (hnode.symm.trans hnode')
    apply Triple.at reads_readJournal
    rintro journal' ⟨-, hparse', hvalid⟩
    rw [hbytes, hparse, Option.some.injEq] at hparse'
    subst hparse'
    apply Triple.skip looks_refuseOrphanStages
    intro _
    exact h snapshot hvalid

lemma ends_revalidateRestored (hclean : Clean B s₀) (hjournal : look s₀ journalFile = none) :
    Ends (· = s₀) (revalidateRestored B) fun _ => Settled B s₀ := by
  have hsame : Settled B s₀ s₀ := ⟨hclean, hjournal, id, fun _ => id, Agree.refl _ s₀⟩
  apply Triple.at reads_manifestRead
  intro found hread
  cases found with
  | none =>
    apply triple_pure
    rintro s - rfl
    exact hsame
  | some pair =>
    dsimp only
    split
    next hstate =>
      apply Triple.at reads_passes
      intro live hverified
      rw [hstate]
      exact (ends_markVerified hB hclean hjournal hread hstate hverified).post fun _ _ _ hs => hs.2
    · apply triple_pure
      rintro s - rfl
      exact hsame

lemma ends_recoverLocked : Ends (· = s₀) (recoverLocked B true) fun _ => Settled B s₀ := by
  cases hlook : look s₀ journalFile with
  | none =>
    apply Triple.at reads_readPath
    intro found hshows
    cases found with
    | some snapshot =>
      obtain ⟨node, hnode, -⟩ := hshows
      cases hlook.symm.trans hnode
    | none =>
      apply Triple.at reads_clean
      intro _ hclean
      exact ends_revalidateRestored hB hclean hlook
  | some node =>
    cases hparse : B.platform.journalFromSlice node.bytes with
    | none =>
      apply Triple.at reads_readPath
      intro found hshows
      cases found with
      | none => cases hlook.symm.trans hshows
      | some snapshot =>
        obtain ⟨node', hnode', hbytes, -⟩ := hshows
        obtain rfl : node = node' := Option.some.inj (hlook.symm.trans hnode')
        apply Triple.at reads_readJournal
        rintro journal ⟨-, hparse', -⟩
        rw [hbytes, hparse] at hparse'
        cases hparse'
    | some journal =>
      have hpends : Pends B s₀ journal := ⟨node, hlook, hparse⟩
      apply ends_recoverPending hpends
      intro snapshot hvalid
      cases journal with
      | bootstrapReleaseN schema transactionId legacy stageName =>
        exact (ends_finishBootstrapJournal hB hvalid).post fun _ s _ hs => hs.settled hpends
      | stashReleaseN => exact ends_finishStashJournal hB hpends hvalid
      | restoreReleaseN schema transactionId record generation stageName backupName manifestStageName =>
        exact (ends_finishRestoreJournal hB hpends hvalid).post fun _ s _ hs => hs.2.1

end

end Howy.Bridge
