import Howy.Bridge.Controls
import Howy.Bridge.Sightings

namespace Howy.Bridge

open Library Storage

variable {B : ConfigBridge} {P : World → Prop} {s s' s₀ : World} {p : Path} {node : Node} {absence : AbsenceRecord}
  {snapshot : Snapshot} {file old : FileRecord} {size : ℕ}

structure Journaled (B : ConfigBridge) (node : Node) (journal : BridgeJournal) (s : World) : Prop where
  look : JournalIs (some node) s
  made : node.made = true
  bytes : node.bytes = B.platform.journalToVec journal ++ [10]

variable {journal : BridgeJournal}

lemma Journaled.of_journalIs (h : Journaled B node journal s) (hs : JournalIs (some node) s') :
    Journaled B node journal s' := ⟨hs, h.made, h.bytes⟩

lemma Journaled.holds (hP : B.platform.Lawful) (h : Journaled B node journal s) (hf : Facts B s) :
    JournalHolds B s journal := by
  rcases hf.journal node h.look with ⟨-, found, hbytes, hholds⟩ | ⟨hforeign, -⟩
  · have hfound := hP.journal found
    rw [← hbytes, h.bytes, hP.journal, Option.some.injEq] at hfound
    exact hfound ▸ hholds
  · rw [h.made] at hforeign
    cases hforeign

lemma Journaled.noStash (hP : B.platform.Lawful) (h : Journaled B node journal s)
    (hj : ∀ a b c d e f g, journal ≠ .stashReleaseN a b c d e f g) : NoStash B s := by
  intro found other hfound _ hbytes
  have hnode := Option.some.inj (Eq.trans (Eq.symm h.look) hfound)
  have hother := hP.journal other
  rw [← hbytes, ← hnode, h.bytes, hP.journal, Option.some.injEq] at hother
  exact hother ▸ hj

def ConfigOnly (s₀ s : World) : Prop :=
  s.captures = s₀.captures ∧ ∀ q, ¬ IsStage q → q ≠ configFile → look s q = look s₀ q

lemma ConfigOnly.refl (s : World) : ConfigOnly s s := ⟨rfl, fun _ _ _ => rfl⟩

lemma coreOnly_configOnly : CoreOnly (ConfigOnly s₀) :=
  fun _ _ h hs => ⟨h.1.trans hs.1, fun q hq hc => (h.2 q hq).trans (hs.2 q hq hc)⟩

lemma ConfigOnly.look_journal (h : ConfigOnly s₀ s) : look s journalFile = look s₀ journalFile :=
  h.2 _ journal_not_isStage (by simp)

lemma ConfigOnly.look_manifest (h : ConfigOnly s₀ s) : look s manifestFile = look s₀ manifestFile :=
  h.2 _ manifest_not_isStage (by simp)

lemma ConfigOnly.journaled (h : ConfigOnly s₀ s) (hs : Journaled B node journal s₀) : Journaled B node journal s :=
  hs.of_journalIs (h.look_journal.trans hs.look)

variable {stageFile : Path}

lemma ConfigOnly.of_others (h : ConfigOnly s₀ s) (hp : IsStage p) (hc : s'.captures = s.captures)
    (hother : ∀ q, q ≠ p → q ≠ configFile → look s' q = look s q) : ConfigOnly s₀ s' := by
  refine ⟨hc.trans h.1, fun q hq hqc => ?_⟩
  have hqp : q ≠ p := fun he => hq (he ▸ hp)
  exact (hother q hqp hqc).trans (h.2 q hq hqc)

lemma working_config (hi : Working B s) (hp : IsStage p) (hc : s'.captures = s.captures)
    (hother : ∀ q, q ≠ p → q ≠ configFile → look s' q = look s q) (hno : NoStash B s)
    (hconfig : ∀ new, look s' configFile = some new → Expendable B new) (hstage : ∀ new, look s' p = some new →
      new.made ∨ p.directory = .etcHowy ∧ new.bytes = B.platform.legacyBytes) : Working B s' := by
  have hsame : ∀ q, ¬ IsStage q → q ≠ configFile → look s' q = look s q := fun q hq hqc =>
    hother q (fun he => hq (he ▸ hp)) hqc
  have hcarries : Carries B s s' :=
    { captures := fun _ hn => hc ▸ hn
      stash := fun g old ho => (hsame _ (stash_not_isStage g) stash_ne_config).trans ho
      manifest := fun old ho hm => ⟨old, (hsame _ manifest_not_isStage (by simp)).trans ho, hm⟩
      config := fun new hnew => .inr ((hconfig new hnew).symm.imp id fun hmade => ⟨hmade, hno⟩) }
  refine ⟨hi.1.step hcarries ?_ ?_ ?_, ?_⟩
  · exact fun new hn => .inl ((hsame _ journal_not_isStage (by simp)).symm.trans hn)
  · exact fun new hn => .inl ((hsame _ manifest_not_isStage (by simp)).symm.trans hn)
  · exact fun new hn => .inl ((hsame _ marker_not_isStage (by simp)).symm.trans hn)
  intro q new hq hnew
  by_cases hqp : q = p
  · exact hqp ▸ hstage new (hqp ▸ hnew)
  · exact hi.2 q new hq ((hother q hqp fun he => config_not_isStage (he ▸ hq)).symm.trans hnew)

lemma exchange_config {a b : Node} (hp : IsStage stageFile) (hd : stageFile.directory = .etcHowy)
    (hno : NoStash B s₀) (hi : Working B s) (hs : ConfigOnly s₀ s) (ha : look s stageFile = some a)
    (hb : look s configFile = some b)
    (heb : Expendable B b) :
    Allowed (Working B) (Untouched B) (ConfigOnly s₀) s (put (put s stageFile b) configFile a) := by
  have hea := hi.2.expendable hp ha
  have hne : stageFile ≠ configFile := fun h => config_not_isStage (h ▸ hp)
  have hother : ∀ q, q ≠ stageFile → q ≠ configFile →
      look (put (put s stageFile b) configFile a) q = look s q := by
    intro q hqs hqc
    rw [look_put_of_ne hqc, look_put_of_ne hqs]
  refine ⟨untouched_exchange ha hb hea heb, working_config hi hp rfl hother
    (NoStash.congr hno hs.look_journal) ?_ ?_, hs.of_others hp rfl hother⟩
  · intro new hnew
    exact Option.some.inj ((look_put_self (put s stageFile b) configFile a).symm.trans hnew) ▸ hea
  intro new hnew
  have hlook : look (put (put s stageFile b) configFile a) stageFile = some b := by
    rw [look_put_of_ne hne, look_put_self]
  exact Option.some.inj (hlook.symm.trans hnew) ▸ heb.imp id fun h => ⟨hd, h⟩

lemma backUp_config {old : Node} (hp : IsStage p) (hd : p.directory = .etcHowy) (hno : NoStash B s₀)
    (hi : Working B s) (hs : ConfigOnly s₀ s) (hold : look s configFile = some old) (hnone : look s p = none)
    (hbytes : old.bytes = B.platform.legacyBytes) :
    Allowed (Working B) (Untouched B) (ConfigOnly s₀) s (put (drop s configFile) p old) := by
  have hne : p ≠ configFile := fun h => config_not_isStage (h ▸ hp)
  have hfree := (look_drop_of_ne hne).trans hnone
  have hother : ∀ q, q ≠ p → q ≠ configFile → look (put (drop s configFile) p old) q = look s q := by
    intro q hqp hqc
    rw [look_put_of_ne hqp, look_drop_of_ne hqc]
  refine ⟨?_, working_config hi hp rfl hother (NoStash.congr hno hs.look_journal) ?_ ?_,
    hs.of_others hp rfl hother⟩
  · refine (untouched_drop ?_).trans (untouched_put_new hfree)
    exact fun other ho => .inr (Option.some.inj (hold.symm.trans ho) ▸ hbytes)
  · intro new hnew
    have hgone : look (put (drop s configFile) p old) configFile = none := by
      rw [look_put_of_ne hne.symm, look_drop_self]
    cases hgone.symm.trans hnew
  · intro new hnew
    exact Option.some.inj ((look_put_self (drop s configFile) p old).symm.trans hnew) ▸ .inr ⟨hd, hbytes⟩

variable {stage target : Option Snapshot} {source legacy record' : FileRecord}
  {backupName stageName transactionId stage' : String} {stash : Snapshot} {captured : GenerationState}
  {manifest : StashManifest} {schema : ℕ}

lemma Shows.congr (h : Shows B s p target) (hs : look s' p = look s p) : Shows B s' p target := by
  cases target with
  | none => exact hs.trans h
  | some snapshot => exact h.imp fun _ hnode => ⟨hs.trans hnode.1, hnode.2⟩

/-- What may be done at a private file and, where `K` holds of the configuration that stands, by an exchange with
it. -/
structure Staging (B : ConfigBridge) (inv : World → Prop) (guar : World → World → Prop) (C : World → Prop)
    (stageFile : Path) (K : Node → FileRecord → Prop) : Prop where
  config : stageFile ≠ configFile
  writes : ∀ s node, inv s → C s → node.made = true → Allowed inv guar C s (put s stageFile node)
  drops : ∀ s, inv s → C s → Allowed inv guar C s (drop s stageFile)
  exchanges : ∀ s a b r, inv s → C s → look s stageFile = some a → look s configFile = some b →
    record B.platform b = .ok r → K b r → Allowed inv guar C s (put (put s stageFile b) configFile a)

section

variable {inv C : World → Prop} {guar : World → World → Prop} [Std.Refl guar] {K : Node → FileRecord → Prop}
  (h : Staging B inv guar C stageFile K)

include h

lemma triple_createStage {bytes : Bytes} {uid gid mode : ℕ} {metadata : Option FileMetadata} :
    Triple inv guar (fun s => C s ∧ Shows B s configFile target)
      (createExclusive B stageFile bytes uid gid mode metadata) fun _ s => C s ∧ Shows B s configFile target := by
  apply triple_createExclusive
  rintro s node hi ⟨hs, hshows⟩ hmade
  obtain ⟨hg, hi', hc⟩ := h.writes s node hi hs hmade
  exact ⟨hg, hi', hc, Shows.congr hshows (look_put_of_ne h.config.symm)⟩

lemma triple_exchangeConfig : Triple inv guar
      (fun s => C s ∧ ∃ b r, look s configFile = some b ∧ record B.platform b = .ok r ∧ K b r) (do
        renameExchange stageFile configFile
        syncDirectory
        let target ← readRegular B configFile maxConfigBytes
        let stage ← readRegular B stageFile maxConfigBytes
        return (target, stage)) fun found s => C s ∧ Shows B s configFile found.1 := by
  refine .bind (triple_exchange (D := C) ?_) fun _ => ?_
  · rintro s a b hi ⟨hs, b', r, hb', hr, hK⟩ ha hb
    obtain rfl : b' = b := Option.some.inj (hb'.symm.trans hb)
    exact h.exchanges s a b' r hi hs ha hb hr hK
  apply Triple.skip looks_syncDirectory
  intro _
  apply Triple.look reads_readRegular
  intro target
  apply Triple.skip reads_readRegular
  intro stage
  exact triple_pure fun _ _ hs => hs

lemma triple_recoverBootstrap (hfile : stageFile = ⟨.etcHowy, utf8Bytes stageName⟩)
    (hK : ∀ b r, r.sha256 = legacySha256 → K b r) :
    Triple inv guar C (recoverBootstrap B legacy stageName) fun _ => C := by
  subst hfile
  apply Triple.check
  rintro ⟨⟩ hpinned
  rw [requirePinnedLegacyRecord, then_eq_ok, require_eq_ok] at hpinned
  apply Triple.skip looks_requireBootstrapSource
  intro source
  apply Triple.skip looks_openDirectory
  intro _
  apply Triple.look reads_readRegular
  intro target
  apply Triple.skip reads_readRegular
  intro stage
  refine .bind (Q := fun _ s => C s ∧ Shows B s configFile target) ?_ fun stage => ?_
  · unfold bootstrapStage
    split
    · apply (triple_createStage h).bind
      intro staged
      apply Triple.skip looks_syncDirectory
      intro _
      exact triple_id
    · exact triple_id
  refine .bind (Q := fun _ => C) ?_ ?_
  · unfold exchangeBootstrap
    split
    next hexchange =>
      apply (triple_exchangeConfig h).conseq _ fun _ _ _ hs => hs.1
      rintro s - ⟨hs, hshows⟩
      cases target with
      | none => cases hexchange.1
      | some target =>
        obtain ⟨b, hb, -, hr⟩ := hshows
        exact ⟨hs, b, target.record, hb, hr, hK _ _ ((sameObject_sha256 hexchange.1).trans hpinned.2.1)⟩
    · exact triple_pure fun _ _ hs => hs.1
  rintro ⟨target, stage⟩
  apply Triple.check
  intro _ _
  cases stage with
  | none => exact Reads.keeps looks_syncDirectory
  | some stage =>
    apply Triple.check
    intro _ _
    exact (triple_removeExact fun s _ hi hs _ => h.drops s hi hs).bind fun _ => Reads.keeps looks_syncDirectory

end

lemma staging_configOnly {K : Node → FileRecord → Prop} (hp : isStageName (utf8Bytes stageName))
    (hno : NoStash B s₀) (hK : ∀ s b r, Working B s → ConfigOnly s₀ s → look s configFile = some b → K b r →
      Expendable B b) :
    Staging B (Working B) (Untouched B) (ConfigOnly s₀) ⟨.etcHowy, utf8Bytes stageName⟩ K := by
  have hstage : IsStage ⟨.etcHowy, utf8Bytes stageName⟩ := ⟨.inl rfl, hp⟩
  exact
    { config := fun h => config_not_isStage (h ▸ hstage)
      writes := fun s node hi hs hmade => put_stage hstage coreOnly_configOnly hi hs hmade
      drops := fun s hi hs => drop_stage hstage coreOnly_configOnly hi hs
      exchanges := fun s a b r hi hs ha hb _ hr => exchange_config hstage rfl hno hi hs ha hb
        (hK s b r hi hs hb hr) }

lemma keeps_recoverBootstrap (hP : B.platform.Lawful) (hp : isStageName (utf8Bytes stageName))
    (hs₀ : Journaled B node (.bootstrapReleaseN schema transactionId record' stage') s₀) :
    Keeps B (ConfigOnly s₀) (recoverBootstrap B legacy stageName) fun _ => ConfigOnly s₀ := by
  have hno := hs₀.noStash hP fun _ _ _ _ _ _ _ => BridgeJournal.noConfusion
  refine triple_recoverBootstrap (staging_configOnly hp hno fun s b _ hi hs hb _ => ?_) rfl
    fun _ r (h : r.sha256 = _) => h
  -- the journal in place says that what stands is the legacy payload or the bridge's own
  exact (hs.journaled hs₀).holds hP hi.1 b hb

section

variable {stageName : String} {source : ConfigState} {previous : Option FileRecord} {manifest : StashManifest}
  {marker : Option FileRecord}

lemma bytes_eq_captured (hP : B.platform.Lawful) {live captured : Node} {current : FileRecord}
    (hcaptured : record B.platform captured = .ok file) (hlive : record B.platform live = .ok current)
    (hsame : sameObject file current)
    (h : live.bytes = captured.bytes ∨ live.bytes = B.platform.legacyBytes) : live.bytes = captured.bytes := by
  rcases h with h | h
  · exact h
  have hdigest : B.platform.digest captured.bytes = B.platform.digest live.bytes := by
    rw [← (record_eq_ok hcaptured).2.2.1, ← (record_eq_ok hlive).2.2.1]
    exact sameObject_sha256 hsame
  rw [h] at hdigest
  exact h.trans (hP.legacy captured.bytes hdigest).symm

def Verified (B : ConfigBridge) (source : ConfigState) (s : World) : Prop :=
  ∃ live, ShowsConfig B s live ∧ configStatesExactMatch source live = true

lemma reads_verifyConfigStateIdentity : Reads (fun s _ => Verified B source s)
    (verifyConfigStateIdentity B source) := by
  apply Reads.bind reads_snapshotConfigState
  intro live
  apply reads_fromExcept.weaken
  intro s _ hmatch hlive
  rw [require_eq_ok] at hmatch
  exact ⟨live, hlive, hmatch⟩

def Prepared (B : ConfigBridge) (node : Node) (manifest : StashManifest) (previous : Option FileRecord)
    (s : World) : Prop :=
  JournalIs (some node) s ∧ StashHolds B s manifest ∧
    (previous ≠ none → ∃ old, look s manifestFile = some old ∧ old.made = true)

lemma keeps_stashCaptured (hP : B.platform.Lawful) :
    Keeps B (fun s => Journaled B node (.stashReleaseN schema transactionId (.present file) previous
        manifest stageName marker) s ∧ Verified B (.present file) s)
      (stashCaptured B transactionId manifest file) fun _ => Prepared B node manifest previous := by
  apply keeps_from
  rintro s₀ hi ⟨hs₀, live, hlive, hmatch⟩
  obtain ⟨hstate, ⟨captured, hmem, hcaptured, hbytes⟩, hprevious⟩ := hs₀.holds hP hi.1
  obtain ⟨current, rfl⟩ : ∃ current, live = .present current := by
    cases live with
    | absent => cases hmatch
    | present current => exact ⟨current, rfl⟩
  obtain ⟨standing, hstanding, hrecord⟩ := hlive
  have hlegacy := bytes_eq_captured hP hcaptured hrecord hmatch (hbytes standing hstanding)
  unfold stashCaptured
  rw [hstate]
  apply Triple.check
  rintro ⟨path, hash, size⟩ hactive
  cases hactive
  apply Triple.check
  intro _ _
  apply Triple.look reads_readPath
  intro found
  cases found with
  | none => exact triple_throw
  | some found =>
    intro s hi' hs
    obtain ⟨hcore, standing', hstanding', hfound, -⟩ := hs
    have hsame : standing' = standing := by
      rw [hcore.2 _ config_not_isStage, hstanding] at hstanding'
      exact (Option.some.inj hstanding').symm
    refine (keeps_ensureStashFile.post ?_) s hi' hcore
    intro _ t _ ht
    refine ⟨ht.journal.trans hs₀.look, ?_, fun hsome => ht.manifest ▸ hprevious hsome⟩
    intro source path hash size hactive
    rw [hstate] at hactive
    cases hactive
    obtain ⟨stash, hstash, hcontents⟩ := ht.stash
    refine ⟨rfl, captured, ht.captures ▸ hmem, hcaptured, stash, hstash, ?_⟩
    rw [hcontents, hfound, hsame, hlegacy]

lemma keeps_recoverStash (hP : B.platform.Lawful) (hp : isStageName (utf8Bytes stageName)) :
    Keeps B (Journaled B node (.stashReleaseN schema transactionId source previous manifest stageName marker))
      (recoverStash B transactionId source previous manifest stageName marker) fun _ => JournalIs (some node) := by
  have hrest : Keeps B (Prepared B node manifest previous) (do
      let bytes ← fromExcept (serializeControl (B.platform.manifestToVec manifest) "stash manifest")
      replaceManifest B previous bytes stageName transactionId
      removeStashedMarker B marker) fun _ => JournalIs (some node) := by
    apply Triple.check
    intro bytes hbytes
    rw [serializeControl_eq_ok hbytes]
    apply (keeps_replaceManifest hp).bind
    intro _
    exact keeps_removeStashedMarker
  apply Triple.look reads_verifyConfigStateIdentity
  intro _
  apply Triple.check
  intro _ _
  cases source with
  | present file => exact (keeps_stashCaptured hP).bind fun _ => hrest
  | absent absence =>
    apply hrest.pre
    rintro s hi ⟨hs, -⟩
    obtain ⟨hstate, -, hprevious⟩ := hs.holds hP hi.1
    refine ⟨hs.look, ?_, hprevious⟩
    intro source path hash size hactive
    rw [hstate] at hactive
    cases hactive

end

lemma looks_readRestoreStash {path hash : String} : Looks (readRestoreStash B source path hash size) := by
  apply Reads.andThen reads_readNamed
  intro found
  cases found with
  | none => exact reads_refuse
  | some stash =>
    apply Reads.andThen looks_fromExcept
    intro _
    apply Reads.andThen looks_fromExcept
    intro _
    exact reads_pure fun _ => trivial

def Differs (captured : GenerationState) (r : FileRecord) : Prop :=
  ∀ source path hash size, captured = .presentStashed source path hash size → logicallyMatches r source = false

/-- The steps of a restore: beside those at its private file, the legacy payload is put aside at `backupFile` and
the configuration is published where none stands. -/
structure Restoration (B : ConfigBridge) (inv : World → Prop) (guar : World → World → Prop) (C : World → Prop)
    (captured : GenerationState) (stageFile backupFile : Path) : Prop where
  stages : Staging B inv guar C stageFile fun b r => b.bytes = B.platform.legacyBytes ∧ Differs captured r
  backs : ∀ s b r, inv s → C s → look s configFile = some b → record B.platform b = .ok r →
    look s backupFile = none → b.bytes = B.platform.legacyBytes ∧ Differs captured r →
    Allowed inv guar C s (put (drop s configFile) backupFile b)
  cleans : ∀ s, inv s → C s → Allowed inv guar C s (drop s backupFile)
  publishes : ∀ bytes absence, Publishes B inv guar (fun s => C s ∧ Live B s (.absent absence)) C configFile bytes

lemma live_of_shows (h : Shows B s configFile (some snapshot)) : Live B s (.present snapshot.record) := by
  obtain ⟨node, hnode, -, hr⟩ := h
  exact ⟨node, hnode, hr⟩

lemma reads_validateAbsenceParent {parent : DirectoryStat} :
    Reads (fun _ _ => parent.device = absence.parentDevice ∧ parent.inode = absence.parentInode)
      (validateAbsenceParent parent absence) :=
  looks_fstat.andThen fun _ => reads_fromExcept.weaken fun _ _ h => require_eq_ok.mp h

section

variable {inv C D : World → Prop} {guar : World → World → Prop} [Std.Refl guar] {backupFile : Path}
  {label : String}

lemma triple_removeLegacy (h : ∀ s, inv s → P s → Allowed inv guar D s (drop s p)) :
    Triple inv guar P (removeLegacy B p label snapshot) fun _ => D := by
  apply Triple.check
  intro _ _
  exact (triple_removeExact fun s _ hi hs _ => h s hi hs).bind fun _ => Reads.keeps looks_syncDirectory

lemma triple_removeExchanged (h : ∀ s, inv s → P s → Allowed inv guar P s (drop s stageFile)) :
    Triple inv guar P (removeExchanged B stageFile stage) fun _ => P := by
  cases stage with
  | none => exact triple_id
  | some stage => exact triple_removeLegacy h

section

variable (h : Restoration B inv guar C captured stageFile backupFile)

include h

lemma triple_backUpAbsentTarget {backup : Option Snapshot} (hcaptured : captured = .absent absence) :
    Triple inv guar (fun s => C s ∧ Shows B s configFile target) (backUpAbsentTarget B backupFile target backup)
      fun _ => C := by
  unfold backUpAbsentTarget
  split
  · exact triple_pure fun s _ hs => hs.1
  · split
    next hexact =>
      refine .bind (triple_change ?_) fun _ => Reads.keeps looks_syncDirectory
      rintro s files hi ⟨hs, b, hb, hbytes, hr⟩ hfiles
      obtain ⟨old, hold, hnone, rfl⟩ := renameNoReplaceFiles_eq_ok hfiles
      obtain rfl : b = old := Option.some.inj (hb.symm.trans hold)
      have hlegacy := hbytes.symm.trans (requireExactLegacy_bytes (of_decide_eq_true hexact))
      exact h.backs s b _ hi hs hb hr hnone ⟨hlegacy, fun _ _ _ _ he => by cases hcaptured.symm.trans he⟩
    · exact triple_throw
  · split
    · exact triple_pure fun s _ hs => hs.1
    · exact triple_throw
  · exact triple_throw

lemma triple_restoreAbsent (hcaptured : captured = .absent absence)
    (hfile : backupFile = ⟨.etcHowy, utf8Bytes backupName⟩) :
    Triple inv guar C (restoreAbsent B absence backupName) fun state s =>
      C s ∧ ∃ s₁, C s₁ ∧ (s.directories = s₁.directories → Live B s state) := by
  subst hfile
  apply triple_intro
  intro s₁ _ hs₁
  apply Triple.at reads_openDirectory
  intro parent hparent
  apply Triple.at reads_validateAbsenceParent
  intro _ hsame
  apply Triple.pre _ fun s _ (hs : s = s₁) => hs ▸ hs₁
  apply Triple.look reads_readRegular
  intro target
  apply Triple.skip reads_readRegular
  intro backup
  apply (triple_backUpAbsentTarget h hcaptured).bind
  intro _
  apply Triple.skip reads_readRegular
  intro backup
  refine .bind (Q := fun _ => C) ?_ fun _ => ?_
  · cases backup with
    | none => exact triple_id
    | some backup => exact triple_removeLegacy h.cleans
  apply Triple.look reads_lookup
  intro found
  cases found with
  | some node => exact triple_throw
  | none =>
    apply triple_pure
    rintro s - ⟨hs, hnone⟩
    refine ⟨hs, s₁, hs₁, fun hdirectories => ⟨hnone, parent, hdirectories ▸ hparent, ?_⟩⟩
    rw [hsame.1, hsame.2]

lemma triple_exchangeRestore {target : Snapshot} (hdiffers : Differs captured target.record) :
    Triple inv guar (fun s => C s ∧ Shows B s configFile (some target))
      (exchangeRestore B stageFile target stage stash source) fun found s => C s ∧
      Shows B s configFile found.1 := by
  apply Triple.check
  intro _ hexact
  refine .bind (Q := fun _ s => C s ∧ Shows B s configFile (some target)) ?_ fun staged => ?_
  · unfold restoreStage
    split
    · exact triple_id
    apply (triple_createStage h.stages).bind
    intro staged
    apply Triple.skip looks_syncDirectory
    intro _
    exact triple_id
  apply Triple.check
  intro _ _
  apply (triple_exchangeConfig h.stages).pre
  rintro s - ⟨hs, b, hb, hbytes, hr⟩
  exact ⟨hs, b, target.record, hb, hr, hbytes.symm.trans (requireExactLegacy_bytes hexact), hdiffers⟩

lemma triple_publishRestored (absence : AbsenceRecord) :
    Triple inv guar (fun s => C s ∧ Live B s (.absent absence))
      (publishRestored B stash source transactionId) fun target s => C s ∧ Shows B s configFile target := by
  apply (h.publishes _ _).bind triple_throw
  intro snapshot
  apply Triple.skip looks_syncDirectory
  intro _
  exact (Reads.triple reads_readRegular).post fun _ _ _ hs => ⟨hs.1.1, hs.2⟩

lemma triple_finishRestore : Triple inv guar (fun s => C s ∧ (target ≠ none → Shows B s configFile target))
      (finishRestore B stageFile target stage source) fun state s => C s ∧ Live B s state := by
  refine .bind (triple_removeExchanged ?_) fun _ => ?_
  · rintro s hi ⟨hs, hshows⟩
    obtain ⟨hg, hi', hc⟩ := h.stages.drops s hi hs
    exact ⟨hg, hi', hc, fun hsome => Shows.congr (hshows hsome) (look_drop_of_ne h.stages.config.symm)⟩
  refine .bind (Q := fun target s => target ≠ none → C s ∧ Shows B s configFile target) ?_ fun target => ?_
  · cases target with
    | some target => exact triple_pure fun s _ hs hsome => ⟨hs.1, hs.2 hsome⟩
    | none =>
      refine .bind (Q := fun r s => ∀ target, r = .ok target → C s ∧ Shows B s configFile target) ?_ fun r => ?_
      · apply triple_lift _ fun e s _ found he => by cases he
        apply (Reads.triple reads_readRegular).post
        rintro target s - ⟨hs, hshows⟩ _ he
        exact Except.ok.inj he ▸ ⟨hs.1, hshows⟩
      · cases r with
        | ok target => exact triple_pure fun s _ hs _ => hs target rfl
        | error e => exact triple_pure fun s _ _ hsome => absurd rfl hsome
  cases target with
  | none => exact triple_throw
  | some target =>
    apply Triple.check
    intro _ _
    apply triple_pure
    intro s _ hs
    obtain ⟨hc, hshows⟩ := hs (Option.some_ne_none _)
    exact ⟨hc, live_of_shows hshows⟩

end

lemma triple_restorePresent {path hash : String} (h : Restoration B inv guar C captured stageFile backupFile)
    (hcaptured : captured = .presentStashed source path hash size)
    (hfile : stageFile = ⟨.etcHowy, utf8Bytes stageName⟩) :
    Triple inv guar C (restorePresent B source path hash size stageName transactionId)
      fun state s => C s ∧ Live B s state := by
  subst hfile
  apply Triple.skip looks_readRestoreStash
  intro stash
  apply Triple.look reads_openDirectory
  intro parent
  apply Triple.look reads_readRegular
  intro target
  apply Triple.skip reads_readRegular
  intro stage
  split
  next current =>
    split
    · refine .bind ((triple_removeExchanged (P := fun s => C s ∧ Live B s (.present current.record)) ?_).pre ?_)
        fun _ => ?_
      · rintro s hi ⟨hs, hlive⟩
        obtain ⟨hg, hi', hc⟩ := h.stages.drops s hi hs
        exact ⟨hg, hi', hc, hlive.agree agree_drop h.stages.config.symm⟩
      · exact fun s _ hs => ⟨hs.1.1, live_of_shows hs.2⟩
      · exact triple_pure fun _ _ hs => hs
    next hmatch =>
      have hdiffers : Differs captured current.record := by
        intro source' path' hash' size' he
        cases hcaptured.symm.trans he
        exact Bool.not_eq_true _ ▸ hmatch
      refine .bind ((triple_exchangeRestore h hdiffers).pre fun s _ hs => ⟨hs.1.1, hs.2⟩) ?_
      rintro ⟨target, stage⟩
      exact (triple_finishRestore h).pre fun s _ hs => ⟨hs.1, fun _ => hs.2⟩
  · refine .bind ((triple_publishRestored h ⟨parent.device, parent.inode⟩).pre ?_) fun target => ?_
    · exact fun s _ hs => ⟨hs.1.1, hs.2, parent, hs.1.2, rfl⟩
    · exact (triple_finishRestore h).pre fun s _ hs => ⟨hs.1, fun _ => hs.2⟩
  · exact (triple_finishRestore h).pre fun s _ hs => ⟨hs.1.1, fun hsome => absurd rfl hsome⟩

lemma triple_restoreConfigState (h : Restoration B inv guar C captured ⟨.etcHowy, utf8Bytes stageName⟩
      ⟨.etcHowy, utf8Bytes backupName⟩) :
    Triple inv guar C (restoreConfigState B captured stageName backupName transactionId) fun state s =>
      C s ∧ ∃ s₁, C s₁ ∧ (s.directories = s₁.directories → Live B s state) := by
  unfold restoreConfigState
  split
  · exact triple_restoreAbsent h rfl rfl
  · exact (triple_restorePresent h rfl rfl).post fun _ s _ hs => ⟨hs.1, s, hs.1, fun _ => hs.2⟩
  · exact triple_throw

end

lemma keeps_restoreConfigState
    (hp : isStageName (utf8Bytes stageName)) (hb : isStageName (utf8Bytes backupName))
    (hno : NoStash B s₀) : Keeps B (ConfigOnly s₀)
      (restoreConfigState B captured stageName backupName transactionId) fun _ => ConfigOnly s₀ := by
  have hbackup : IsStage ⟨.etcHowy, utf8Bytes backupName⟩ := ⟨.inl rfl, hb⟩
  refine (triple_restoreConfigState ⟨staging_configOnly hp hno fun _ _ _ _ _ _ h => .inr h.1, ?_, ?_, ?_⟩).post
    fun _ _ _ hs => hs.1
  · exact fun s b r hi hs hb _ hnone h => backUp_config hbackup rfl hno hi hs hb hnone h.1
  · exact fun s hi hs => drop_stage hbackup coreOnly_configOnly hi hs
  intro bytes absence uid gid mode metadata transactionId label
  apply keeps_from
  rintro s₁ - ⟨hs₁, -⟩
  have hw : Welcome B s₁ configFile bytes := welcome_config (NoStash.congr hno hs₁.look_journal)
  apply (hw.publishes (.inl rfl)).post
  rintro s ⟨node, -, -, -, hcore⟩
  refine ⟨hcore.1.trans hs₁.1, fun q hq hqc => ?_⟩
  rw [hcore.2 q hq, look_put_of_ne hqc, hs₁.2 q hq hqc]

lemma stashHolds_of_restored {target : ConfigState}
    {restoredBy : String} (h : manifest.active.state = .restored captured target restoredBy) :
    StashHolds B s manifest := by
  intro source path hash size hactive
  rw [h] at hactive
  cases hactive

lemma keeps_commitRestored {restoredAlready : Bool} {state : ConfigState} {found : Option Node}
    (hp : isStageName (utf8Bytes stageName))
    (hrestored : restoredAlready → ∃ a b c, manifest.active.state = .restored a b c) :
    Keeps B (fun s => JournalIs found s ∧ ∃ node, look s manifestFile = some node ∧ node.made)
      (commitRestored B manifest restoredAlready captured state transactionId old stageName)
      fun _ => JournalIs found := by
  unfold commitRestored
  split
  next halready =>
    obtain ⟨a, b, c, hstate⟩ := hrestored halready
    apply Triple.check
    intro bytes hbytes
    rw [serializeControl_eq_ok hbytes]
    exact (keeps_replaceManifest hp).pre fun s _ hs => ⟨hs.1, stashHolds_of_restored hstate, fun _ => hs.2⟩
  · apply Triple.check
    intro _ _
    apply Triple.check
    intro bytes hbytes
    rw [serializeControl_eq_ok hbytes]
    exact (keeps_replaceManifest hp).pre fun s _ hs => ⟨hs.1, stashHolds_of_restored rfl, fun _ => hs.2⟩

lemma made_of_showsManifest (hf : Facts B s)
    (h : ShowsManifest B s (some (manifest, snapshot))) : ∃ node, look s manifestFile = some node ∧ node.made := by
  obtain ⟨node, hnode, hcontrol, hparse, -⟩ := h
  rcases hf.manifest node hnode with ⟨hmade, -⟩ | ⟨-, hforeign⟩
  · exact ⟨node, hnode, hmade⟩
  · exact absurd ⟨hcontrol, manifest, hparse⟩ hforeign

lemma restored_by {state : GenerationState} (h : isRestoredBy transactionId state) :
    ∃ captured target, state = .restored captured target transactionId := by
  cases state with
  | restored captured target restoredBy =>
    rw [isRestoredBy, beq_iff_eq] at h
    exact ⟨captured, target, h ▸ rfl⟩
  | absent | presentStashed | consumedRefreshable => cases h

lemma looks_verifyCommitted : Looks (verifyCommitted B) := by
  apply Reads.andThen reads_readManifest
  intro found
  cases found with
  | none => exact reads_refuse
  | some pair => exact (reads_verifyRestoredManifest reads_snapshotConfigState).weaken fun _ _ _ => trivial

lemma keeps_recoverRestore {generation : ℕ} {manifestStageName : String}
    (hp : isStageName (utf8Bytes stageName)) (hb : isStageName (utf8Bytes backupName))
    (hm : isStageName (utf8Bytes manifestStageName)) (hno : NoStash B s₀) : Keeps B (SameCore s₀)
      (recoverRestore B transactionId old generation stageName backupName manifestStageName)
      fun _ => JournalIs (look s₀ journalFile) := by
  apply Triple.look reads_readManifest
  intro found
  cases found with
  | none => exact triple_throw
  | some pair =>
    obtain ⟨manifest, snapshot⟩ := pair
    intro s hi hs
    obtain ⟨hcore, hshows⟩ := hs
    have hmade := made_of_showsManifest hi.1 hshows
    have hlook := hcore.2 _ journal_not_isStage
    have hno' := NoStash.congr hno hlook
    suffices h : Keeps B (ConfigOnly s) (do
        fromExcept (require (manifest.active.generation = generation)
          (refused "restore generation changed unexpectedly"))
        let restoredAlready := isRestoredBy transactionId manifest.active.state
        fromExcept (require (restoredAlready ∨ sameObject snapshot.record old)
          (refused "restore manifest identity changed; controls were retained"))
        let captured ← fromExcept (captureToRestore restoredAlready manifest.active.state)
        let state ← restoreConfigState B captured stageName backupName transactionId
        commitRestored B manifest restoredAlready captured state transactionId old manifestStageName
        verifyCommitted B : Op ConfigState) fun _ => JournalIs (look s₀ journalFile) from
      h s hi (ConfigOnly.refl s)
    apply Triple.check
    intro _ _
    apply Triple.check
    intro _ _
    apply Triple.check
    intro captured _
    apply (keeps_restoreConfigState hp hb hno').bind
    intro state
    refine .bind ((keeps_commitRestored hm fun h => (restored_by h).imp fun _ ⟨b, hb⟩ =>
      ⟨b, _, hb⟩).pre fun t _ ht =>
      ⟨ht.look_journal.trans hlook, ht.look_manifest ▸ hmade⟩) fun _ => ?_
    exact Reads.keeps looks_verifyCommitted

end Howy.Bridge
