import Howy.Bridge.Procedures
import Mathlib.Data.Countable.Basic
import Mathlib.Logic.Equiv.List
import Mathlib.Tactic.DeriveCountable

namespace Howy.Bridge.Safety

open Library Storage
open Provisioning (hexEncode)

variable {α β : Type} {B : ConfigBridge} {P : World → Prop} {s s' s₀ : World} {node : Node}
  {journal : BridgeJournal} {existing : Option (StashManifest × Snapshot)} {R : World → α → Prop}
  {manifest : StashManifest} {held : Bool}
  {snapshot : Snapshot} {x : Op α} {k : α → Op β} {Q : β → World → Prop} {transactionId : String}
  {source : ConfigState}

lemma SameCore.configOnly (h : SameCore s₀ s) : ConfigOnly s₀ s := ⟨h.1, fun q hq _ => h.2 q hq⟩

lemma keeps_recoverJournal (hP : B.platform.Lawful) (hvalid : journal.validate = .ok ()) :
    Keeps B (Journaled B node journal) (recoverJournal B journal) fun _ => JournalIs (some node) := by
  apply keeps_from
  intro s₀ hi hs₀
  cases journal with
  | bootstrapReleaseN schema transactionId legacy stageName =>
    simp only [BridgeJournal.validate, then_eq_ok, validateStageName, require_eq_ok] at hvalid
    have hstage := hvalid.2.2 ▸ configStage_isStageName
    refine .bind (((keeps_recoverBootstrap hP hstage hs₀).pre fun s _ hs => SameCore.configOnly hs).post
      fun _ s _ hs => hs.look_journal.trans hs₀.look) fun _ => ?_
    apply Triple.skip reads_readPath
    intro found
    cases found with
    | none => exact triple_throw
    | some current =>
      apply Triple.check
      intro _ _
      exact triple_id
  | stashReleaseN schema transactionId source previous manifest stageName marker =>
    simp only [BridgeJournal.validate, then_eq_ok, validateControlStageName, require_eq_ok] at hvalid
    have hstage := hvalid.2.2.2.2.1 ▸ controlStage_isStageName
    refine .bind ((keeps_recoverStash hP hstage).pre fun s _ hs =>
      hs₀.of_journalIs ((hs.2 _ journal_not_isStage).trans hs₀.look)) fun _ => ?_
    exact triple_id
  | restoreReleaseN schema transactionId manifest generation stageName backupName manifestStageName =>
    simp only [BridgeJournal.validate, then_eq_ok, validateStageName, validateControlStageName,
      require_eq_ok] at hvalid
    obtain ⟨-, -, -, hstage, hbackup, hmanifest⟩ := hvalid
    have hno := hs₀.noStash hP fun _ _ _ _ _ _ _ => BridgeJournal.noConfusion
    refine .bind (keeps_recoverRestore (hstage ▸ configStage_isStageName)
      (hbackup ▸ configStage_isStageName) (hmanifest ▸ controlStage_isStageName) hno) fun state => ?_
    exact triple_pure fun s _ hs => hs.trans hs₀.look

lemma keeps_finishJournal (hP : B.platform.Lawful) (hvalid : journal.validate = .ok ()) (hmade : node.made) :
    Keeps B (Journaled B node journal) (finishJournal B snapshot journal) fun _ => JournalIs none := by
  apply (keeps_recoverJournal hP hvalid).bind
  intro postMarker
  apply (keeps_removeJournal hmade).bind
  intro _
  refine .bind ?_ fun _ => Reads.keeps looks_refuseOrphanStages
  cases postMarker with
  | none => exact triple_id
  | some post => exact keeps_ensureMarker

lemma keeps_revalidateRestored {found : Option Node} :
    Keeps B (JournalIs found) (revalidateRestored B) fun _ => JournalIs found := by
  apply Triple.skip reads_readManifest
  intro existing
  cases existing with
  | none => exact triple_id
  | some pair =>
    dsimp only
    split
    · apply Triple.skip (reads_verifyRestoredManifest reads_snapshotConfigState)
      intro state
      apply Triple.check
      intro transaction _
      exact keeps_ensureMarker
    · exact triple_id

abbrev Rests (B : ConfigBridge) (P : World → Prop) (p : Op α) (Q : α → World → Prop) : Prop :=
  Triple (Resting B) (Untouched B) P p Q

lemma Keeps.rests {Q : α → World → Prop} (h : Keeps B P x Q) :
    Rests B (fun s => Working B s ∧ P s) x fun a s => Working B s ∧ Q a s := by
  have hpre : Keeps B (fun s => Working B s ∧ P s) x Q := h.pre fun s _ hs => hs.2
  exact (hpre.weaken_inv (fun s => Working.resting) fun s hs => hs.1).post fun _ s _ hs => ⟨hs.2, hs.1⟩

lemma reads_readJournal :
    Reads (fun _ journal => requireControlFile snapshot B.expectedUid B.expectedGid "bridge journal" = .ok () ∧
      B.platform.journalFromSlice snapshot.bytes = some journal ∧ journal.validate = .ok ())
      (readJournal B snapshot) := by
  apply Reads.bind reads_fromExcept
  intro _
  split
  · exact reads_refuse
  rename_i hparse
  apply Reads.bind reads_fromExcept
  intro _
  exact reads_pure fun s hvalid hcontrol => ⟨hcontrol, hparse, hvalid⟩

lemma journaled_of_accepted (hP : B.platform.Lawful) (hi : Resting B s)
    (hshows : Shows B s journalFile (some snapshot))
    (hcontrol : requireControlFile snapshot B.expectedUid B.expectedGid "bridge journal" = .ok ())
    (hparse : B.platform.journalFromSlice snapshot.bytes = some journal) :
    ∃ node, Working B s ∧ Journaled B node journal s := by
  obtain ⟨node, hnode, hbytes, hrecord⟩ := hshows
  rcases hi.1.journal node hnode with ⟨hmade, found, hfound, -⟩ | ⟨-, hforeign⟩
  · have hsame := hP.journal found
    rw [← hfound, ← hbytes, hparse, Option.some.injEq] at hsame
    exact ⟨node, ⟨hi.1, hi.2 node hnode hmade⟩, hnode, hmade, hsame ▸ hfound⟩
  · exact absurd ⟨controlNode_of_require hrecord hcontrol, journal, hbytes ▸ hparse⟩ hforeign

lemma rests_recoverLocked {revalidate : Bool} (hP : B.platform.Lawful) :
    Rests B (fun _ => True) (recoverLocked B revalidate) fun _ s => Working B s ∧ JournalIs none s := by
  apply Triple.look reads_readPath
  intro found
  cases found with
  | none =>
    refine .bind (Q := fun _ s => Working B s ∧ JournalIs none s) ?_ fun _ => ?_
    · apply (reads_clean.triple).post
      rintro _ s hi ⟨⟨-, hnone⟩, hclean⟩
      exact ⟨⟨hi.1, hclean.stagesOurs⟩, hnone⟩
    · split
      · exact Keeps.rests keeps_revalidateRestored
      · exact triple_id
  | some snapshot =>
    apply Triple.look reads_readJournal
    rintro journal s hi ⟨⟨-, hshows⟩, hcontrol, hparse, hvalid⟩
    obtain ⟨node, hworking, hjournaled⟩ := journaled_of_accepted hP hi hshows hcontrol hparse
    have hfinish : Rests B (fun s => Working B s ∧ Journaled B node journal s) (do
        refuseOrphanStages B (some journal.transactionId)
        finishJournal B snapshot journal) fun _ s => Working B s ∧ JournalIs none s := by
      apply Triple.skip looks_refuseOrphanStages
      intro _
      exact Keeps.rests (keeps_finishJournal hP hvalid hjournaled.made)
    exact hfinish s hi ⟨hworking, hjournaled⟩

lemma resting_put {p : Path} (hi : Resting B s) (hc : Carries B s (put s p node)) (hs : ¬ IsStage p)
    (hj : journalFile ≠ p) (hm : manifestFile ≠ p) (hk : markerFile ≠ p) : Resting B (put s p node) := by
  refine ⟨hi.1.step hc ?_ ?_ ?_, ?_⟩
  · exact fun new hn => .inl ((look_put_of_ne hj).symm.trans hn)
  · exact fun new hn => .inl ((look_put_of_ne hm).symm.trans hn)
  · exact fun new hn => .inl ((look_put_of_ne hk).symm.trans hn)
  · intro file hfile hmade
    exact (hi.2 file ((look_put_of_ne hj).symm.trans hfile) hmade).put fun h => absurd h hs

lemma resting_put_lock (hi : Resting B s) (h : look s lockFile = none) (hmade : node.made) :
    Resting B (put s lockFile node) := by
  have hcarries : Carries B s (put s lockFile node) := carries_put_new h hmade fun he => absurd he (by simp)
  exact resting_put hi hcarries lock_not_isStage (by simp) (by simp) (by simp)

lemma rests_openLock : Rests B (fun _ => True) (openLock B) fun _ _ => True := by
  apply triple_action
  intro c s hi _
  cases hc : c.fault with
  | some text => exact ⟨Untouched.refl s, hi, fun _ _ => trivial⟩
  | none =>
    cases hl : s.files.lookup lockFile with
    | some found =>
      dsimp only
      split <;> exact ⟨Untouched.refl s, hi, fun _ _ => trivial⟩
    | none => exact ⟨untouched_put_new hl, resting_put_lock hi hl rfl, fun _ _ => trivial⟩

lemma rests_beginCall : Rests B (fun _ => True) (beginCall B held) fun _ _ => True := by
  apply Triple.check
  intro _ _
  unfold acquireLock
  split
  · exact triple_any
  apply Triple.skip looks_openDirectory
  intro _
  apply rests_openLock.bind
  intro lock
  apply Triple.skip looks_fstat
  intro _
  apply Triple.check
  intro _ _
  apply Triple.skip looks_system
  intro _
  apply Triple.skip looks_quietSystem
  intro _
  exact (looks_syncDirectory.triple).post fun _ _ _ _ => trivial

abbrev Recovered (B : ConfigBridge) (s : World) : Prop := Working B s ∧ JournalIs none s

lemma rests_ensureMarker {generation : Option ℕ} {state : ConfigState} :
    Rests B (Recovered B) (ensureMarker B transactionId generation state) fun _ => Recovered B :=
  Keeps.rests keeps_ensureMarker

lemma rests_writeJournal :
    Rests B (fun s => Working B s ∧ JournalHolds B s journal) (writeJournal B journal) fun _ _ => True :=
  (Keeps.rests keeps_writeJournal).post fun _ _ _ _ => trivial

section

variable (hP : B.platform.Lawful)

include hP

lemma rests_restoreManifest {manifestRecord : FileRecord} :
    Rests B (Recovered B) (restoreManifest B manifest manifestRecord) fun _ _ => True := by
  unfold restoreManifest
  split
  · apply Triple.skip (reads_verifyRestoredManifest reads_snapshotConfigState)
    intro state
    apply Triple.check
    intro transaction _
    apply rests_ensureMarker.bind
    intro _
    exact triple_any
  · exact triple_throw
  · apply Triple.skip reads_pathOccupied
    intro occupied
    split
    · exact triple_throw
    apply Triple.skip looks_newTransactionId
    intro transactionId
    refine .bind (rests_writeJournal.pre fun s _ hs => ⟨hs.1, trivial⟩) fun _ => ?_
    apply (rests_recoverLocked hP).bind
    intro _
    exact triple_any

lemma rests_installBootstrap {legacy : Snapshot} :
    Rests B (fun s => Recovered B s ∧ Shows B s configFile (some legacy)) (installBootstrap B legacy)
      fun _ _ => True := by
  apply Triple.check
  intro _ hexact
  have hlegacy := requireExactLegacy_bytes hexact
  apply Triple.skip reads_pathOccupied
  intro occupied
  split
  · exact triple_throw
  apply Triple.skip looks_newTransactionId
  intro transactionId
  refine .bind (rests_writeJournal.pre ?_) fun _ => ?_
  · rintro s - ⟨⟨hworking, -⟩, standing, hstanding, hbytes, -⟩
    refine ⟨hworking, fun found hfound => .inr ?_⟩
    rw [← Option.some.inj (hstanding.symm.trans hfound), ← hbytes]
    exact hlegacy
  apply (rests_recoverLocked hP).bind
  intro _
  apply Triple.skip reads_readPath
  intro found
  cases found with
  | none => exact triple_throw
  | some installed =>
    apply Triple.check
    intro _ _
    apply rests_ensureMarker.bind
    intro _
    exact triple_any

lemma rests_bootstrapReleaseN : Rests B (fun _ => True) (bootstrapReleaseN B held) fun _ _ => True := by
  apply rests_beginCall.bind
  intro _
  apply (rests_recoverLocked hP).bind
  intro _
  apply Triple.skip reads_readManifest
  intro existing
  cases existing with
  | some pair => exact rests_restoreManifest hP
  | none =>
    apply Triple.skip looks_requireBootstrapSource
    intro source
    apply Triple.look reads_readPath
    intro current
    cases current with
    | none => exact triple_throw
    | some current =>
      dsimp only
      split
      · apply Triple.pre _ fun s _ hs => hs.1
        apply Triple.skip looks_newTransactionId
        intro transactionId
        apply rests_ensureMarker.bind
        intro _
        exact triple_any
      · exact rests_installBootstrap hP

lemma rests_completeReleaseN : Rests B (fun _ => True) (completeReleaseN B held) fun _ _ => True := by
  apply rests_beginCall.bind
  intro _
  apply (rests_recoverLocked hP).bind
  intro _
  apply Triple.skip reads_readManifest
  intro existing
  cases existing with
  | some pair => exact rests_restoreManifest hP
  | none =>
    apply Triple.skip reads_snapshotConfigState
    intro state
    apply Triple.check
    intro _ _
    apply Triple.skip looks_newTransactionId
    intro transactionId
    apply rests_ensureMarker.bind
    intro _
    exact triple_any

end

lemma keeps_publishCreated {source : Snapshot} : Keeps B (JournalIs none)
      (publishNoreplaceAt B configFile source.bytes B.expectedUid B.expectedGid 0o600 none transactionId "create")
      fun _ _ => True := by
  apply keeps_from
  intro s₀ _ hnone
  exact ((welcome_config (noStash_of_none hnone)).publishes (.inl rfl) _ _ _ _ _ _).post fun _ _ _ _ => trivial

lemma rests_createIfAbsent (hP : B.platform.Lawful) :
    Rests B (fun _ => True) (createIfAbsent B held) fun _ _ => True := by
  apply rests_beginCall.bind
  intro _
  apply (rests_recoverLocked hP).bind
  intro _
  apply Triple.skip looks_requireBootstrapSource
  intro source
  apply Triple.skip looks_newTransactionId
  intro transactionId
  apply Triple.skip looks_openDirectory
  intro _
  apply Triple.skip reads_lookup
  intro found
  cases found with
  | some node => exact triple_any
  | none =>
    apply (Keeps.rests keeps_publishCreated).bind
    intro outcome
    cases outcome with
    | occupied => exact triple_any
    | published snapshot =>
      apply Triple.skip looks_syncDirectory
      intro _
      apply Triple.check
      intro _ _
      exact triple_any

lemma keeps_noteCapture : Keeps B (fun s => ShowsConfig B s source) noteCapture fun _ s =>
    CaptureHolds B s source := by
  apply triple_action
  intro c s hi hs
  split
  next hnone =>
    refine ⟨Untouched.refl s, hi, fun _ _ => ?_⟩
    cases source with
    | absent => trivial
    | present file =>
      obtain ⟨standing, hstanding, -⟩ := hs
      cases hstanding.symm.trans hnone
  next standing hstanding =>
    have hcarries : Carries B s { s with captures := standing :: s.captures } :=
      ⟨fun _ hn => List.mem_cons_of_mem _ hn, fun _ _ ho => ho, fun old ho hm => ⟨old, ho, hm⟩,
        fun _ ho => .inl ho⟩
    refine ⟨fun _ _ ho _ => ho, ⟨hi.1.step hcarries (fun _ ho => .inl ho) (fun _ ho => .inl ho)
      fun _ ho => .inl ho, hi.2⟩, fun _ _ => ?_⟩
    cases source with
    | absent => trivial
    | present file =>
      obtain ⟨shown, hshown, hrecord⟩ := hs
      obtain rfl : shown = standing := Option.some.inj (hshown.symm.trans hstanding)
      refine ⟨shown, List.mem_cons_self, hrecord, fun other hother => .inl ?_⟩
      rw [Option.some.inj (hstanding.symm.trans hother)]

lemma newManifest_state (h : newManifest source existing transactionId = .ok manifest) :
    manifest.active.state = capturedState source manifest.active.generation := by
  simp only [newManifest, bind_eq_ok, pure_eq_ok] at h
  obtain ⟨_, -, consumed, -, _, -, rfl⟩ := h
  rfl

lemma rests_stashNewGeneration (hP : B.platform.Lawful) :
    Rests B (fun s => Working B s ∧ CaptureHolds B s source ∧ ShowsManifest B s existing)
      (stashNewGeneration B source existing) fun _ _ => True := by
  apply Triple.skip looks_newTransactionId
  intro transactionId
  apply Triple.check
  intro manifest hmanifest
  apply Triple.skip reads_readMarkerSnapshot
  intro marker
  refine .bind (rests_writeJournal.pre ?_) fun _ => ?_
  · rintro s - ⟨hworking, hcapture, hshows⟩
    refine ⟨hworking, newManifest_state hmanifest, hcapture, fun hsome => ?_⟩
    cases existing with
    | none => exact absurd rfl hsome
    | some pair => exact made_of_showsManifest hworking.1 hshows
  · apply (rests_recoverLocked hP).bind
    intro _
    exact triple_any

lemma rests_stashReleaseN (hP : B.platform.Lawful) :
    Rests B (fun _ => True) (stashReleaseN B held) fun _ _ => True := by
  apply rests_beginCall.bind
  intro _
  apply (rests_recoverLocked hP).bind
  intro _
  apply Triple.look reads_snapshotConfigState
  intro source
  refine .bind ((Keeps.rests keeps_noteCapture).pre fun s _ hs => ⟨hs.1.1, hs.2⟩) fun _ => ?_
  apply Triple.check
  intro _ _
  apply Triple.look reads_readManifest
  intro existing
  cases existing with
  | none => exact (rests_stashNewGeneration hP).pre fun s _ hs => ⟨hs.1.1, hs.1.2, hs.2⟩
  | some pair =>
    obtain ⟨manifest, snapshot⟩ := pair
    have hexact : Rests B (fun s => (Working B s ∧ CaptureHolds B s source) ∧
        ShowsManifest B s (some (manifest, snapshot))) (do
        validateActiveCapture B manifest source
        if ← pathOccupied B markerFile then
          refuse "active stash generation unexpectedly retained a bootstrap marker"
        else return .alreadyExact : Op StashOutcome) fun _ _ => True := by
      apply Triple.skip looks_validateActiveCapture
      intro _
      apply Triple.skip reads_pathOccupied
      intro occupied
      split
      · exact triple_throw
      · exact triple_any
    dsimp only
    split
    · exact (rests_stashNewGeneration hP).pre fun s _ hs => ⟨hs.1.1, hs.1.2, hs.2⟩
    · exact triple_throw
    · exact hexact

lemma rests_call (hP : B.platform.Lawful) {call : Call} :
    Rests B (fun _ => True) (call.program B held) fun _ _ => True := by
  cases call with
  | bootstrapReleaseN => exact (rests_bootstrapReleaseN hP).bind fun _ => triple_any
  | completeReleaseN => exact (rests_completeReleaseN hP).bind fun _ => triple_any
  | createIfAbsent => exact (rests_createIfAbsent hP).bind fun _ => triple_any
  | stashReleaseN => exact (rests_stashReleaseN hP).bind fun _ => triple_any
  | recover =>
    apply rests_beginCall.bind
    intro _
    exact (rests_recoverLocked hP).post fun _ _ _ _ => trivial

section

variable (B)

/-- None of the files is the bridge's yet, and none under the name of a control passes for one: the journal and
manifest do not parse, and the marker, which a stash removes unread, does not have the metadata of a control. -/
structure Foreign (s₀ : World) : Prop where
  made : ∀ path node, look s₀ path = some node → node.made = false
  journal : ∀ node, look s₀ journalFile = some node → ControlNode B node →
    B.platform.journalFromSlice node.bytes = none
  manifest : ∀ node, look s₀ manifestFile = some node → ControlNode B node →
    B.platform.manifestFromSlice node.bytes = none
  marker : ∀ node, look s₀ markerFile = some node → ¬ ControlNode B node

def StashPresent (s : World) : Prop :=
  ∀ node manifest source path hash size, look s manifestFile = some node → ControlNode B node →
    B.platform.manifestFromSlice node.bytes = some manifest →
    manifest.active.state = .presentStashed source path hash size →
    path = stashPath manifest.active.generation ∧ ∃ captured ∈ s.captures,
    record B.platform captured = .ok source ∧
      ∃ stash, look s (stashFile manifest.active.generation) = some stash ∧ stash.bytes = captured.bytes

variable {B}

lemma Foreign.resting (h : Foreign B s) : Resting B s := by
  refine ⟨⟨?_, ?_, ?_⟩, ?_⟩
  · intro node hnode
    refine .inr ⟨h.made _ node hnode, ?_⟩
    rintro ⟨hcontrol, journal, hparse⟩
    rw [h.journal node hnode hcontrol] at hparse
    cases hparse
  · intro node hnode
    refine .inr ⟨h.made _ node hnode, ?_⟩
    rintro ⟨hcontrol, manifest, hparse⟩
    rw [h.manifest node hnode hcontrol] at hparse
    cases hparse
  · exact fun node hnode => .inr (h.marker node hnode)
  · intro node hnode hmade
    rw [h.made _ node hnode] at hmade
    cases hmade

lemma Facts.stashPresent (hP : B.platform.Lawful) (h : Facts B s) : StashPresent B s := by
  intro node manifest source path hash size hnode hcontrol hparse hstate
  rcases h.manifest node hnode with ⟨-, found, hbytes, hholds⟩ | ⟨-, hforeign⟩
  · have hfound := hP.manifest found
    rw [← hbytes, hparse, Option.some.injEq] at hfound
    subst hfound
    exact hholds source path hash size hstate
  · exact absurd ⟨hcontrol, manifest, hparse⟩ hforeign

lemma resting_install (hi : Resting B s) (hbytes : node.bytes = B.platform.legacyBytes) :
    Resting B (install node s) := by
  have hm : manifestFile ≠ configFile := by simp
  have hcarries : Carries B s (put s configFile node) :=
    { captures := fun _ hn => hn
      stash := fun g old ho => (look_put_of_ne stash_ne_config).trans ho
      manifest := fun old ho hmade => ⟨old, (look_put_of_ne hm).trans ho, hmade⟩
      config := by
        intro new hnew
        rw [look_put_self, Option.some.injEq] at hnew
        exact .inr (.inl (hnew ▸ hbytes)) }
  exact resting_put hi hcarries config_not_isStage (by simp) hm (by simp)

lemma resting_of_reachable (hP : B.platform.Lawful) (h₀ : Foreign B s₀) (h : Reachable B s₀ s) : Resting B s := by
  induction h with
  | start => exact h₀.resting
  | call call held _ hsteps ih => exact ((rests_call hP).steps ih trivial hsteps).1
  | install node _ hbytes _ ih => exact resting_install ih hbytes

/-- In every run from files that are foreign to the bridge, whatever fails and wherever a call is stopped, each
step of the bridge leaves every file alone that is neither the legacy payload nor its own, and a stashed generation
has the captured bytes in its stash. -/
theorem bridge_spares_foreign_files (B : ConfigBridge) (hP : B.platform.Lawful) (s₀ : World) (h₀ : Foreign B s₀)
    (s : World) (hs : Reachable B s₀ s) :
    StashPresent B s ∧ ∀ (call : Call) (held : Bool) (δ : Type) (f : Choice → World → Option (δ × World))
      (k : δ → Prog Choice World (Except BridgeError Unit)) (s' : World) (c : Choice) (x : δ) (s'' : World),
      Prog.Steps (fun _ => True) (call.program B held).run s (.act δ f k) s' → f c s' = some (x, s'') →
      Untouched B s' s'' := by
  have hresting := resting_of_reachable hP h₀ hs
  refine ⟨Facts.stashPresent hP hresting.1, ?_⟩
  intro call held δ f k s' c x s'' hsteps hf
  obtain ⟨-, hsafe⟩ := (rests_call hP).steps hresting trivial hsteps
  exact (hsafe c x s'' trivial hf).1

end

instance countableChar : Countable Char :=
  Function.Injective.countable (f := Char.toNat) fun _ _ h => Char.toNat_inj.mp h

instance countableString : Countable String :=
  Function.Injective.countable (f := String.toList) fun _ _ => String.toList_injective

deriving instance Countable for FileMetadata
deriving instance Countable for FileRecord
deriving instance Countable for AbsenceRecord
deriving instance Countable for ConfigState
deriving instance Countable for GenerationState
deriving instance Countable for GenerationRecord
deriving instance Countable for StashManifest
deriving instance Countable for BridgeJournal

section

variable {α : Type} [Countable α] [DecidableEq α]

noncomputable def toVec (short a : α) : Bytes :=
  if a = short then [1] else 2 :: List.replicate ((exists_injective_nat α).choose a) 0

open Classical in
noncomputable def fromSlice (short : α) (bytes : Bytes) : Option α :=
  if bytes = [1, 10] then some short
  else if h : ∃ a, a ≠ short ∧ bytes = toVec short a ++ [10] then some h.choose
  else none

lemma toVec_injective {short a b : α} (ha : a ≠ short) (hb : b ≠ short)
    (h : toVec short a ++ [10] = toVec short b ++ [10]) : a = b := by
  have hvec := List.append_cancel_right h
  rw [toVec, toVec, if_neg ha, if_neg hb] at hvec
  exact (exists_injective_nat α).choose_spec (List.replicate_left_injective 0 (List.cons.inj hvec).2)

lemma fromSlice_toVec {short : α} (a : α) : fromSlice short (toVec short a ++ [10]) = some a := by
  by_cases ha : a = short
  · rw [ha, toVec, if_pos rfl]
    rfl
  have hne : toVec short a ++ [10] ≠ [1, 10] := by
    rw [toVec, if_neg ha]
    intro h
    exact absurd (List.cons.inj h).1 (by decide)
  have hex : ∃ b, b ≠ short ∧ toVec short a ++ [10] = toVec short b ++ [10] := ⟨a, ha, rfl⟩
  rw [fromSlice, if_neg hne, dif_pos hex]
  exact congrArg some (toVec_injective ha hex.choose_spec.1 hex.choose_spec.2).symm

end

def sampleSha256 (bytes : Bytes) : FixedArray UInt8 32 :=
  if bytes = [76] then .filled 32 1 else .filled 32 0

noncomputable def samplePlatform (journal : BridgeJournal) (manifest : StashManifest) : Platform where
  sha256 := sampleSha256
  legacyBytes := [76]
  bootstrapBytes := []
  secureBootstrapTemplateToml := []
  configFromToml _ := none
  journalToVec := toVec journal
  journalFromSlice := fromSlice journal
  manifestToVec := toVec manifest
  manifestFromSlice := fromSlice manifest
  markerToVec _ := []
  markerFromSlice _ := none

lemma samplePlatform_lawful (journal : BridgeJournal) (manifest : StashManifest) :
    (samplePlatform journal manifest).Lawful where
  journal := fromSlice_toVec
  manifest := fromSlice_toVec
  legacy bytes h := by
    by_contra hne
    change bytes ≠ [76] at hne
    have hone : (samplePlatform journal manifest).digest [76] = hexEncode (FixedArray.filled 32 1).val := rfl
    have hzero : (samplePlatform journal manifest).digest bytes = hexEncode (FixedArray.filled 32 0).val := by
      change hexEncode (sampleSha256 bytes).val = _
      rw [sampleSha256, if_neg hne]
    rw [hzero] at h
    exact absurd (h.trans hone) (by decide +kernel)

def sampleNode (inode : ℕ) (bytes : Bytes) : Node where
  kind := .regular
  device := 1
  inode := inode
  uid := 0
  gid := 0
  permissions := 0o600
  nlink := 1
  bytes := bytes
  accessSeconds := 0
  accessNanoseconds := 0
  modificationSeconds := 0
  modificationNanoseconds := 0
  made := false

def sampleTransaction : String := "00000000000000000000000000000000"

def sampleDigest : String := "0000000000000000000000000000000000000000000000000000000000000000"

def sampleRecord (inode length : ℕ) : FileRecord := ⟨1, inode, sampleDigest, 0, 0, 0o600, 1, length, 0, 0, 0, 0⟩

def sampleManifest : StashManifest :=
  ⟨2, "release-n", "/etc/howy/config.toml",
    ⟨1, sampleTransaction, .presentStashed (sampleRecord 5 2) (stashPath 1) sampleDigest 2⟩, []⟩

def sampleJournal (marker : Option FileRecord) : BridgeJournal :=
  .stashReleaseN 2 sampleTransaction (.present (sampleRecord 5 2)) none sampleManifest
    (controlStagePrefix ++ sampleTransaction ++ "-manifest") marker

noncomputable def sampleBridge (marker : Option FileRecord) : ConfigBridge :=
  ⟨samplePlatform (sampleJournal marker) sampleManifest, 0, 0, true, 0, 0⟩

def configuredWorld : World where
  files := (∅ : Table Path Node).insert configFile (sampleNode 5 [104, 105])
  directories _ := some ⟨1, 1, 0, 0, 0o755, 2⟩

def markedWorld : World := put configuredWorld markerFile (sampleNode 7 [1, 2, 3])

noncomputable def stashRun (marker : Option FileRecord) (s : World) : Option (Except BridgeError Unit × World) :=
  (Call.stashReleaseN.program (sampleBridge marker) false).run.run (List.replicate 400 {}) s

lemma reachable_stashRun {marker : Option FileRecord} {r : Except BridgeError Unit}
    (h : stashRun marker s = some (r, s')) : Reachable (sampleBridge marker) s s' :=
  .call .stashReleaseN false .start (Prog.steps_of_run (fun _ _ => trivial) h)

theorem bridge_spares_foreign_files_stashed : Foreign (sampleBridge none) configuredWorld ∧
    ∃ r s', stashRun none configuredWorld = some (r, s') ∧ (look s' manifestFile).map Node.bytes = some [1, 10] ∧
      StashPresent (sampleBridge none) s' := by
  have hrun : (stashRun none configuredWorld).map (fun x => (look x.2 manifestFile).map Node.bytes) =
      some (some [1, 10]) := by decide +kernel
  obtain ⟨⟨r, s'⟩, hs', hmanifest⟩ := Option.map_eq_some_iff.mp hrun
  have hforeign : Foreign (sampleBridge none) configuredWorld := by
    have honly : ∀ path node, look configuredWorld path = some node → path = configFile ∧ node.made = false := by
      intro path node hnode
      rcases look_put_cases (s := ⟨∅, fun _ => none, []⟩) hnode with ⟨hpath, rfl⟩ | hnone
      · exact ⟨hpath, rfl⟩
      · cases hnone
    exact ⟨fun path node h => (honly path node h).2, fun node h => absurd (honly _ node h).1 (by simp),
      fun node h => absurd (honly _ node h).1 (by simp),
      fun node h => absurd (honly _ node h).1 (by simp)⟩
  exact ⟨hforeign, r, s', hs', hmanifest,
    (bridge_spares_foreign_files (sampleBridge none) (samplePlatform_lawful _ _)
    configuredWorld hforeign s' (reachable_stashRun hs')).1⟩

/-- A stash removes whatever stands under the marker's name with the metadata of a control, without reading it. -/
theorem stash_unlinks_foreign_marker :
    (sampleBridge (some (sampleRecord 7 3))).platform.Lawful ∧
    look markedWorld markerFile = some (sampleNode 7 [1, 2, 3]) ∧
    ¬ Expendable (sampleBridge (some (sampleRecord 7 3))) (sampleNode 7 [1, 2, 3]) ∧
    ∃ s', Reachable (sampleBridge (some (sampleRecord 7 3))) markedWorld s' ∧ look s' markerFile = none := by
  have hrun : (stashRun (some (sampleRecord 7 3)) markedWorld).map (fun x => look x.2 markerFile) = some none := by
    decide +kernel
  obtain ⟨⟨r, s'⟩, hs', hnone⟩ := Option.map_eq_some_iff.mp hrun
  refine ⟨samplePlatform_lawful _ _, look_put_self _ _ _, ?_, s', reachable_stashRun hs', hnone⟩
  rintro (hmade | hbytes)
  · cases hmade
  · exact absurd hbytes (by decide)

end Howy.Bridge.Safety
