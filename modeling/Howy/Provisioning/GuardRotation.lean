import Howy.Provisioning.SupervisorHistory

namespace Howy.Provisioning.GuardRotation

open Library JournalHistory SupervisorHistory

variable {g g' : TransactionGuardIdentityV1}

def OneStep (failed failed' : Bool) (records records' : List AtomicWriteRecordV1)
    (paths paths' : List String) : Prop :=
  (failed' = failed ∧ records' = records ∧ paths' = paths) ∨
    (failed = false ∧ failed' = true ∧ records' = records ∧ paths' = paths) ∨
    (failed' = failed ∧ validateAtomicWriteRecordsTransition records records' = true ∧
      validateAtomicOwnedPathsTransition paths paths' records records' = true)

lemma samePhase_of_guard {same : Bool} (h : validateGuardTransition (some g) (some g') same) (hne : g ≠ g') :
    same := by
  rw [validateGuardTransition, Bool.or_eq_true, beq_iff_eq] at h
  exact h.resolve_left hne

lemma oneStep_of_step {σ : Type} {units : Prop} {a b : Facts σ} (hordinal : a.ordinal = b.ordinal)
    (h : Step units a b) :
    OneStep a.supervisorFailed b.supervisorFailed a.records b.records a.paths b.paths ∧ units := by
  cases h with
  | ordinary ordinal failed records paths => omega
  | supervisor ordinal before after units records paths =>
    exact ⟨.inr (.inl ⟨before, after, records.symm, paths.symm⟩), units⟩
  | atomic ordinal failed units records paths => exact ⟨.inr (.inr ⟨failed.symm, records, paths⟩), units⟩
  | guardIdentity ordinal failed units records paths =>
    exact ⟨.inl ⟨failed.symm, records.symm, paths.symm⟩, units⟩

lemma eq_of_rotation {Phase Hashes Action : Type} {a b : JournalProgress Phase Hashes Action}
    (hphase : a.phase = b.phase) (hlive : a.liveHashes = b.liveHashes)
    (haction : a.recoveryAction = b.recoveryAction)
    (heffective : a.effectiveUnits = b.effectiveUnits) : b = { a with
      guard := b.guard
      generation := b.generation
      priorJournalIdentity := b.priorJournalIdentity
      supervisorFailed := b.supervisorFailed
      atomicWrites := b.atomicWrites
      transactionOwnedPaths := b.transactionOwnedPaths } := by
  rw [hphase, hlive, haction, heffective]

def SupervisorStep (a b : SupervisorJournalV1) : Prop :=
  QuarantineStep a.cleanupQuarantine b.cleanupQuarantine ∧
    ((b.supervisorFailed = a.supervisorFailed ∧ b.securityDirectories = a.securityDirectories ∧
        validateAtomicWriteRecordsTransition a.atomicWrites b.atomicWrites = true) ∨
      ((a.supervisorFailed = true → b.supervisorFailed = true) ∧ b.atomicWrites = a.atomicWrites ∧
        DirectoriesStep a.phase a.phase a.securityDirectories b.securityDirectories))

/-- A transition that replaces a recorded guard, in each of the three kinds of journal. -/
theorem guard_rotation_within_phase (E : Encoding) (g g' : TransactionGuardIdentityV1) (hne : g ≠ g') :
    (∀ a b : ProvisioningJournalV1, validateJournalTransition E.toSerialization a b = .ok () → a.guard = some g →
      b.guard = some g' → b = { a with
        guard := b.guard
        generation := b.generation
        priorJournalIdentity := b.priorJournalIdentity
        supervisorFailed := b.supervisorFailed
        atomicWrites := b.atomicWrites
        transactionOwnedPaths := b.transactionOwnedPaths } ∧
      OneStep a.supervisorFailed b.supervisorFailed a.atomicWrites b.atomicWrites a.transactionOwnedPaths
        b.transactionOwnedPaths) ∧
    (∀ a b : PlaintextProvisioningJournalV1, validatePlaintextJournalTransition E.toSerialization a b = .ok () →
      a.guard = some g → b.guard = some g' →
      b = { a with
        guard := b.guard
        generation := b.generation
        priorJournalIdentity := b.priorJournalIdentity
        supervisorFailed := b.supervisorFailed
        atomicWrites := b.atomicWrites
        transactionOwnedPaths := b.transactionOwnedPaths } ∧
      OneStep a.supervisorFailed b.supervisorFailed a.atomicWrites b.atomicWrites a.transactionOwnedPaths
        b.transactionOwnedPaths) ∧
    ∀ a b : SupervisorJournalV1, validateSupervisorJournalTransition E a b = .ok () → a.guard = some g →
      b.guard = some g' → b = { a with
        guard := b.guard
        generation := b.generation
        priorJournalIdentity := b.priorJournalIdentity
        supervisorFailed := b.supervisorFailed
        atomicWrites := b.atomicWrites
        securityDirectories := b.securityDirectories
        cleanupQuarantine := b.cleanupQuarantine } ∧ SupervisorStep a b := by
  refine ⟨fun a b h hg hg' => ?_, fun a b h hg hg' => ?_, fun a b h hg hg' => ?_⟩
  · have hstep := step_of_validate h
    simp only [validateJournalTransition, then_eq_ok, require_eq_ok] at h
    obtain ⟨ha, hb, ⟨-, hguard, -⟩, hstable, -⟩ := h
    rw [hg, hg'] at hguard
    have hphase := beq_iff_eq.mp (samePhase_of_guard hguard hne)
    obtain ⟨hone, hunits⟩ := oneStep_of_step (congrArg JournalPhase.ordinal hphase) hstep
    have hstable := beq_iff_eq.mp hstable
    have hsettled := settled_of_validate ha
    have hsettled' := settled_of_validate hb
    have hlive : a.liveHashes = b.liveHashes := by rw [hsettled.liveHashes, hsettled'.liveHashes, hphase, hstable]
    have haction : a.recoveryAction = b.recoveryAction := by
      rw [hsettled.recoveryAction, hsettled'.recoveryAction, hphase]
    refine ⟨?_, hone⟩
    rw [hstable]
    exact congrArg (ProvisioningJournalV1.mk b.toStable) (eq_of_rotation hphase hlive haction hunits)
  · have hstep := step_of_validatePlaintext h
    simp only [validatePlaintextJournalTransition, then_eq_ok, require_eq_ok] at h
    obtain ⟨ha, hb, ⟨-, hguard, -⟩, hstable⟩ := h
    rw [hg, hg'] at hguard
    have hphase := beq_iff_eq.mp (samePhase_of_guard hguard hne)
    obtain ⟨hone, hunits⟩ := oneStep_of_step (congrArg PlaintextJournalPhase.ordinal hphase) hstep
    have hstable := beq_iff_eq.mp hstable
    have hsettled := plaintextSettled_of_validate ha
    have hsettled' := plaintextSettled_of_validate hb
    have hlive : a.liveConfigSha256 = b.liveConfigSha256 := by
      rw [hsettled.liveConfig, hsettled'.liveConfig, hphase, hstable]
    have haction : a.recoveryAction = b.recoveryAction := by
      rw [hsettled.recoveryAction, hsettled'.recoveryAction, hphase]
    refine ⟨?_, hone⟩
    rw [hstable]
    exact congrArg (PlaintextProvisioningJournalV1.mk b.toStable) (eq_of_rotation hphase hlive haction hunits)
  · have hsteps := steps_of_validate h
    simp only [validateSupervisorJournalTransition, then_eq_ok, require_eq_ok] at h
    obtain ⟨-, -, -, hguard, -, -, -, -, -, hrecords⟩ := h
    rw [hg, hg'] at hguard
    have hphase := beq_iff_eq.mp (samePhase_of_guard hguard hne)
    refine ⟨?_, hsteps.quarantine, ?_⟩
    · rw [← hsteps.stable, hphase]
    rw [SupervisorJournalV1.recordsStable, Bool.or_eq_true] at hrecords
    rcases hrecords with hatomic | hsame
    · simp only [SupervisorJournalV1.atomic, Bool.and_eq_true, beq_iff_eq] at hatomic
      obtain ⟨⟨⟨⟨-, hfailed⟩, -⟩, hdirectories⟩, hrecords⟩ := hatomic
      exact .inl ⟨hfailed.symm, hdirectories.symm, hrecords⟩
    · have hdirectories := hsteps.directories
      rw [← hphase] at hdirectories
      exact .inr ⟨hsteps.supervisorFailed, (beq_iff_eq.mp hsame).symm, hdirectories⟩

def sampleOldGuard : TransactionGuardIdentityV1 := ⟨⟨1, sampleTransaction⟩, sampleFile 76⟩

def sampleNewGuard : TransactionGuardIdentityV1 := ⟨⟨1, sampleTransaction⟩, { sampleFile 76 with inode := 4 }⟩

def sampleRotated : ProvisioningJournalV1 := { sampleGuarded with generation := 3, guard := some sampleNewGuard }

def sampleRotatedFailed : ProvisioningJournalV1 := { sampleRotated with supervisorFailed := true }

def sampleRotatedPlanned : ProvisioningJournalV1 := { samplePlanned with guard := some sampleNewGuard }

theorem guard_rotation_within_phase_sample : OneStep sampleGuarded.supervisorFailed sampleRotated.supervisorFailed
    sampleGuarded.atomicWrites sampleRotated.atomicWrites sampleGuarded.transactionOwnedPaths
    sampleRotated.transactionOwnedPaths := by
  have hne : sampleOldGuard ≠ sampleNewGuard := by decide
  have h : validateJournalTransition sampleEncoding.toSerialization sampleGuarded sampleRotated =
    .ok () := by decide +kernel
  exact ((guard_rotation_within_phase sampleEncoding _ _ hne).1 _ _ h rfl rfl).2

/-- A recorded guard is replaced together with the failure mark, and together with a new plan. -/
theorem guard_rotation_with_failure_or_plan :
    sampleGuarded.guard = some sampleOldGuard ∧ sampleRotatedFailed.guard = some sampleNewGuard ∧
      sampleRotatedPlanned.guard = some sampleNewGuard ∧ sampleOldGuard ≠ sampleNewGuard ∧
      validateJournalTransition sampleEncoding.toSerialization sampleGuarded sampleRotatedFailed = .ok () ∧
      sampleRotatedFailed.supervisorFailed ≠ sampleGuarded.supervisorFailed ∧
      validateJournalTransition sampleEncoding.toSerialization sampleGuarded sampleRotatedPlanned = .ok () ∧
      sampleRotatedPlanned.atomicWrites ≠ sampleGuarded.atomicWrites := by
  refine ⟨rfl, rfl, rfl, by decide, ?_, by decide, ?_, by decide⟩
  · decide +kernel
  · decide +kernel

end Howy.Provisioning.GuardRotation
