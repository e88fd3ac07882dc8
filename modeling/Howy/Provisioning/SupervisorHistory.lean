import Howy.Provisioning.JournalHistory
import Howy.Provisioning.Supervisor

namespace Howy.Provisioning.SupervisorHistory

open Library JournalHistory SupervisorJournalV1

variable {E : Encoding} {a b c : SupervisorJournalV1}

inductive PhaseStep : SupervisorPhaseV1 → SupervisorPhaseV1 → Prop
  | same (phase : SupervisorPhaseV1) : PhaseStep phase phase
  | next {phase phase' : SupervisorPhaseV1} (h : phase.next = some phase') : PhaseStep phase phase'
  | restoreStopped : PhaseStep .unitsStopped .unitsRestored
  | restoreReady : PhaseStep .directoriesReady .unitsRestored

inductive DirectoriesStep : SupervisorPhaseV1 → SupervisorPhaseV1 → List SecurityDirectoryRecordV1 →
    List SecurityDirectoryRecordV1 → Prop
  | same (phase phase' : SupervisorPhaseV1) (records : List SecurityDirectoryRecordV1) :
      DirectoriesStep phase phase' records records
  | plan (records : List SecurityDirectoryRecordV1) {record : SecurityDirectoryRecordV1}
      (h : record.observedDirectory = none) :
      DirectoriesStep .unitsStopped .unitsStopped records (records ++ [record])
  | observe (records : List SecurityDirectoryRecordV1) {record : SecurityDirectoryRecordV1}
      (h : record.observedDirectory = none) (observed : DirectoryIdentityV1) :
      DirectoriesStep .unitsStopped .unitsStopped (records ++ [record])
        (records ++ [{ record with observedDirectory := some observed }])

inductive QuarantineMove : CleanupQuarantineV1 → CleanupQuarantineV1 → Prop
  | rename (path : String) : QuarantineMove ⟨path, .planned⟩ ⟨path, .renamed⟩
  | remove (path : String) : QuarantineMove ⟨path, .renamed⟩ ⟨path, .removed⟩
  | restore (path : String) : QuarantineMove ⟨path, .renamed⟩ ⟨path, .restored⟩

inductive QuarantineStep : Option CleanupQuarantineV1 → Option CleanupQuarantineV1 → Prop
  | same (quarantine : Option CleanupQuarantineV1) : QuarantineStep quarantine quarantine
  | move {left right : CleanupQuarantineV1} (h : QuarantineMove left right) : QuarantineStep
      (some left) (some right)

structure Steps (a b : SupervisorJournalV1) : Prop where
  generation : b.generation.toNat = a.generation.toNat + 1
  phase : PhaseStep a.phase b.phase
  supervisorFailed : a.supervisorFailed = true → b.supervisorFailed = true
  stable : b.toStable = a.toStable
  directories : DirectoriesStep a.phase b.phase a.securityDirectories b.securityDirectories
  quarantine : QuarantineStep a.cleanupQuarantine b.cleanupQuarantine
  records : RecordsAdvance a.atomicWrites b.atomicWrites

def LaterDirectory (record record' : SecurityDirectoryRecordV1) : Prop :=
  record' = record ∨
    record.observedDirectory = none ∧ ∃ observed, record' = { record with observedDirectory := some observed }

structure Follows (n : ℕ) (a b : SupervisorJournalV1) : Prop where
  generation : b.generation.toNat = a.generation.toNat + n
  ordinal : a.phase.ordinal ≤ b.phase.ordinal
  supervisorFailed : a.supervisorFailed = true → b.supervisorFailed = true
  stable : b.toStable = a.toStable
  directories : Grows LaterDirectory a.securityDirectories b.securityDirectories
  quarantine : Relation.ReflTransGen QuarantineStep a.cleanupQuarantine b.cleanupQuarantine
  records : Grows LaterRecord a.atomicWrites b.atomicWrites

lemma phaseStep_of_ordinary (h : a.ordinary b) :
    PhaseStep a.phase b.phase ∧ a.supervisorFailed = b.supervisorFailed := by
  simp only [ordinary, Bool.and_eq_true, Bool.or_eq_true, beq_iff_eq] at h
  obtain ⟨(hnext | ⟨hstopped, hrestored⟩) | ⟨hready, hrestored⟩, hfailed⟩ := h
  · exact ⟨.next hnext, hfailed⟩
  · rw [hstopped, hrestored]
    exact ⟨.restoreStopped, hfailed⟩
  · rw [hready, hrestored]
    exact ⟨.restoreReady, hfailed⟩

lemma eq_dropLast_append {α : Type} {l : List α} {x : α} (h : l.getLast? = some x) : l = l.dropLast ++ [x] := by
  obtain ⟨front, rfl⟩ := List.getLast?_eq_some_iff.mp h
  rw [List.dropLast_concat]

lemma directoriesStep_of_validate (h : a.directoriesTransition b) :
    DirectoriesStep a.phase b.phase a.securityDirectories b.securityDirectories := by
  rw [directoriesTransition, validateSecurityDirectoryRecordsTransition] at h
  split at h
  next heq =>
    rw [heq]
    exact .same _ _ _
  split at h
  · cases h
  rename_i hphase
  rw [not_or, not_not, not_not] at hphase
  rw [hphase.1, hphase.2]
  split at h
  next hplan =>
    obtain ⟨hlength, ⟨rest, hrest⟩, hlast⟩ := hplan
    have hone : rest.length = 1 := by
      rw [← hrest, List.length_append] at hlength
      omega
    obtain ⟨record, rfl⟩ := List.length_eq_one_iff.mp hone
    rw [← hrest, List.getLast?_concat, Option.any_some, Bool.and_eq_true, Option.isNone_iff_eq_none] at hlast
    rw [← hrest]
    exact .plan _ hlast.1
  split at h
  · split at h
    next left right hleft hright =>
      simp only [Bool.and_eq_true, beq_iff_eq, Option.isNone_iff_eq_none, Option.isSome_iff_exists] at h
      obtain ⟨⟨⟨hfront, hsame⟩, hnone⟩, observed, hobserved⟩ := h
      rw [eq_dropLast_append hleft, eq_dropLast_append hright, ← hfront]
      have hright : right = { left with observedDirectory := some observed } := by
        have hother := congrArg (fun record => { record with observedDirectory := some observed }) hsame
        rw [← hobserved] at hother
        rw [← hobserved]
        exact hother.symm
      rw [hright]
      exact .observe _ hnone observed
    · cases h
  · cases h

lemma quarantineStep_of_validate (h : a.quarantineTransition b) :
    QuarantineStep a.cleanupQuarantine b.cleanupQuarantine := by
  unfold quarantineTransition validateQuarantineTransition at h
  split at h
  next hleft hright =>
    rw [hleft, hright]
    exact .same _
  next left right hleft hright =>
    rw [hleft, hright]
    obtain ⟨path, state⟩ := left
    obtain ⟨path', state'⟩ := right
    rw [Bool.and_eq_true, beq_iff_eq] at h
    obtain ⟨rfl, hstate⟩ := h
    cases state with
    | planned =>
      cases state' with
      | planned => exact .same _
      | renamed => exact .move (.rename path)
      | removed | restored => cases hstate
    | renamed =>
      cases state' with
      | planned => cases hstate
      | renamed => exact .same _
      | removed => exact .move (.remove path)
      | restored => exact .move (.restore path)
    | removed =>
      cases state' with
      | removed => exact .same _
      | planned | renamed | restored => cases hstate
    | restored =>
      cases state' with
      | restored => exact .same _
      | planned | renamed | removed => cases hstate
  · cases h

lemma recordsAdvance_of_recordsStable (h : a.recordsStable b) : RecordsAdvance a.atomicWrites b.atomicWrites := by
  rw [recordsStable, Bool.or_eq_true] at h
  rcases h with h | h
  · rw [atomic, Bool.and_eq_true] at h
    exact recordsAdvance_of_validate h.2
  · rw [beq_iff_eq] at h
    exact h ▸ .same _

lemma stable_of_validate (h : a.snapshotsStable b) (hunits : a.unitsTransition b) : b.toStable = a.toStable := by
  simp only [snapshotsStable, unitsTransition, Bool.and_eq_true, beq_iff_eq] at h hunits
  cases a with | mk stable => cases b with | mk stable' => cases stable; cases stable'; simp_all

lemma phaseStep_of_validate (h : ((((a.ordinary b ∨ a.failClosed b) ∨ a.atomic b) ∨
      a.quarantinePhase b) ∨ a.directoryPhase b) ∨ a.guardIdentityPhase b) :
    PhaseStep a.phase b.phase ∧ (a.supervisorFailed → b.supervisorFailed) := by
  have hsame (hphase : a.phase = b.phase) (hfailed : a.supervisorFailed = b.supervisorFailed) :
      PhaseStep a.phase b.phase ∧ (a.supervisorFailed → b.supervisorFailed) := by
    rw [hphase, hfailed]
    exact ⟨.same _, id⟩
  rcases h with ((((h | h) | h) | h) | h) | h
  · obtain ⟨hphase, hfailed⟩ := phaseStep_of_ordinary h
    exact ⟨hphase, fun ha => hfailed ▸ ha⟩
  · simp only [failClosed, Bool.and_eq_true, beq_iff_eq] at h
    rw [h.1.1]
    exact ⟨.same _, fun _ => h.2⟩
  · simp only [atomic, Bool.and_eq_true, beq_iff_eq] at h
    exact hsame h.1.1.1.1 h.1.1.1.2
  · simp only [quarantinePhase, Bool.and_eq_true, beq_iff_eq] at h
    exact hsame h.1.1.1.1 h.1.1.1.2
  · simp only [directoryPhase, Bool.and_eq_true, beq_iff_eq] at h
    exact hsame (h.1.1.1.1.1.1.trans h.1.1.1.1.1.2.symm) h.1.1.1.1.2
  · simp only [guardIdentityPhase, Bool.and_eq_true, beq_iff_eq] at h
    exact hsame h.1.1.1.1.1.1.1.1 h.1.1.1.1.2

lemma steps_of_validate (h : validateSupervisorJournalTransition E a b = .ok ()) : Steps a b := by
  simp only [validateSupervisorJournalTransition, then_eq_ok, require_eq_ok, Bool.or_eq_true] at h
  obtain ⟨-, -, hgeneration, -, hshape, hsnapshots, hunits, hdirectories, hquarantine, hrecords⟩ := h
  obtain ⟨hphase, hfailed⟩ := phaseStep_of_validate hshape
  exact ⟨toNat_of_checkedSuccessor hgeneration, hphase, hfailed, stable_of_validate hsnapshots hunits,
    directoriesStep_of_validate hdirectories, quarantineStep_of_validate hquarantine,
    recordsAdvance_of_recordsStable hrecords⟩

lemma PhaseStep.ordinal_le {phase phase' : SupervisorPhaseV1} (h : PhaseStep phase phase') :
    phase.ordinal ≤ phase'.ordinal := by
  cases h with
  | same => exact le_rfl
  | next h => cases phase <;> cases h <;> decide
  | restoreStopped | restoreReady => decide

lemma laterDirectory_refl (record : SecurityDirectoryRecordV1) : LaterDirectory record record := .inl rfl

lemma LaterDirectory.trans {r r' r'' : SecurityDirectoryRecordV1} (h : LaterDirectory r r')
    (h' : LaterDirectory r' r'') : LaterDirectory r r'' := by
  rcases h with rfl | ⟨hnone, observed, rfl⟩
  · exact h'
  · rcases h' with rfl | ⟨hobserved, -⟩
    · exact .inr ⟨hnone, observed, rfl⟩
    · cases hobserved

lemma grows_directoriesStep {phase phase' : SupervisorPhaseV1}
    {records records' records'' : List SecurityDirectoryRecordV1}
    (h : Grows LaterDirectory records records') (h' : DirectoriesStep phase phase' records' records'') :
    Grows LaterDirectory records records'' := by
  cases h' with
  | same => exact h
  | plan _ _ => exact h.append_right _
  | observe front hnone observed =>
    refine h.trans_forall₂ (R := LaterDirectory) (fun _ _ _ => LaterDirectory.trans) ?_
    exact List.rel_append (List.forall₂_same.mpr fun record _ => laterDirectory_refl record)
      (.cons (.inr ⟨hnone, observed, rfl⟩) .nil)

lemma follows_zero (a : SupervisorJournalV1) : Follows 0 a a where
  generation := rfl
  ordinal := le_rfl
  supervisorFailed := id
  stable := rfl
  directories := grows_refl laterDirectory_refl _
  quarantine := .refl
  records := grows_refl laterRecord_refl _

lemma Follows.step {n : ℕ} (h : Follows n a b) (h' : Steps b c) : Follows (n + 1) a c where
  generation := by rw [h'.generation, h.generation, Nat.add_assoc]
  ordinal := h.ordinal.trans h'.phase.ordinal_le
  supervisorFailed ha := h'.supervisorFailed (h.supervisorFailed ha)
  stable := h'.stable.trans h.stable
  directories := grows_directoriesStep h.directories h'.directories
  quarantine := h.quarantine.tail h'.quarantine
  records := Grows.recordsAdvance h.records h'.records

theorem supervisor_histories_monotone (E : Encoding) {journals : List SupervisorJournalV1}
    (hhead : ∀ journal ∈ journals.head?, journal.validate E = .ok ())
    (h : journals.IsChain fun current next => validateSupervisorJournalTransition E current next = .ok ()) :
    journals.IsChain Steps ∧ (∀ i n (hi : i + n < journals.length), Follows n journals[i] journals[i + n]) ∧
      ∀ journal ∈ journals, ∀ record ∈ journal.atomicWrites, record.plan.stagingPath ∈
      journal.transactionOwnedPaths := by
  have hsteps := h.imp fun _ _ => steps_of_validate
  refine ⟨hsteps, chain_steps follows_zero (fun _ _ _ _ => Follows.step) hsteps, ?_⟩
  have hvalid := chain_forall (P := fun journal => journal.validate E = .ok ()) ?_ h hhead
  · intro journal hjournal
    have hrecords := hvalid journal hjournal
    simp only [SupervisorJournalV1.validate, then_eq_ok] at hrecords
    obtain ⟨-, -, -, -, -, -, -, -, hrecords, -⟩ := hrecords
    exact stagingPath_mem_of_validate hrecords
  · intro current next hnext
    simp only [validateSupervisorJournalTransition, then_eq_ok] at hnext
    exact hnext.2.1

def sampleEncoding : Encoding := ⟨sampleSerialization, fun _ => [], fun _ => none, fun _ => none, fun _ => none⟩

def samplePrepared : SupervisorJournalV1 :=
  { sampleJournal with
    operation := .provisionMode1
    phase := .prepared
    serviceUnitState := some (sampleUnit .service)
    socketUnitState := some (sampleUnit .socket)
    priorEffectiveUnits := some sampleJournal.priorEffectiveUnits
    securityDirectories := []
    cleanupArtifact := none
    cleanupManifest := none
    cleanupPreAdmission := none
    cleanupQuarantine := none }

def sampleStarted : SupervisorJournalV1 :=
  { samplePrepared with
    generation := 2
    priorJournalIdentity := some (sampleFile 4000)
    guard := some ⟨⟨1, sampleTransaction⟩, sampleFile 76⟩
    phase := .guarded }

def sampleStopped : SupervisorJournalV1 := { sampleStarted with generation := 3, phase := .unitsStopped }

theorem supervisor_histories_monotone_sample :
    [samplePrepared, sampleStarted, sampleStopped].IsChain Steps ∧ Follows 2 samplePrepared sampleStopped := by
  have hhead : ∀ journal ∈ [samplePrepared, sampleStarted, sampleStopped].head?,
      journal.validate sampleEncoding = .ok () := by
    intro journal hjournal
    cases hjournal
    decide +kernel
  obtain ⟨hsteps, hfollows, -⟩ := supervisor_histories_monotone sampleEncoding hhead (by
    rw [List.isChain_cons_cons, List.isChain_cons_cons]
    exact ⟨by decide +kernel, by decide +kernel, List.isChain_singleton _⟩)
  exact ⟨hsteps, hfollows 0 2 (by decide)⟩

end Howy.Provisioning.SupervisorHistory
