import Howy.Provisioning.Objects
import Mathlib.Data.List.Sort

/-! The provisioning journals, when one is valid, and when one may follow another. -/

namespace Howy.Provisioning

open Library

def maxTransactionOwnedPaths : ℕ := 32
def mode1KeyEpoch : UInt64 := 1

inductive JournalPhase where
  | prepared
  | guarded
  | unitsStopped
  | artifactCommitted
  | dropinCommitted
  | disabledConfigCommitted
  | readinessVerified
  | disabledReceiptCommitted
  | disabledUnitsStarted
  | enabledConfigCommitted
  | activationCommitted
  | unitsStarted
  | enabledReceiptCommitted
deriving DecidableEq

def JournalPhase.all : List JournalPhase :=
  [.prepared, .guarded, .unitsStopped, .artifactCommitted, .dropinCommitted, .disabledConfigCommitted,
    .readinessVerified, .disabledReceiptCommitted, .disabledUnitsStarted, .enabledConfigCommitted,
    .activationCommitted, .unitsStarted, .enabledReceiptCommitted]

def JournalPhase.ordinal : JournalPhase → ℕ
  | .prepared => 0
  | .guarded => 1
  | .unitsStopped => 2
  | .artifactCommitted => 3
  | .dropinCommitted => 4
  | .disabledConfigCommitted => 5
  | .readinessVerified => 6
  | .disabledReceiptCommitted => 7
  | .disabledUnitsStarted => 8
  | .enabledConfigCommitted => 9
  | .activationCommitted => 10
  | .unitsStarted => 11
  | .enabledReceiptCommitted => 12

def JournalPhase.next (phase : JournalPhase) : Option JournalPhase := JournalPhase.all[phase.ordinal + 1]?

inductive RecoveryAction where
  | restorePriorState
  | completeDisabledProvisioning
  | restoreDisabledState
  | completeEnabledActivation
deriving DecidableEq

def recoveryActionForPhase : JournalPhase → RecoveryAction
  | .prepared | .guarded | .unitsStopped | .artifactCommitted | .dropinCommitted | .disabledConfigCommitted
  | .readinessVerified => .restorePriorState
  | .disabledReceiptCommitted | .disabledUnitsStarted => .completeDisabledProvisioning
  | .enabledConfigCommitted => .restoreDisabledState
  | .activationCommitted | .unitsStarted | .enabledReceiptCommitted => .completeEnabledActivation

inductive PlaintextJournalPhase where
  | prepared
  | guarded
  | unitsStopped
  | dropinRemoved
  | enabledConfigCommitted
  | activationCommitted
  | unitsStarted
deriving DecidableEq

def PlaintextJournalPhase.all : List PlaintextJournalPhase :=
  [.prepared, .guarded, .unitsStopped, .dropinRemoved, .enabledConfigCommitted,
    .activationCommitted, .unitsStarted]

def PlaintextJournalPhase.ordinal : PlaintextJournalPhase → ℕ
  | .prepared => 0
  | .guarded => 1
  | .unitsStopped => 2
  | .dropinRemoved => 3
  | .enabledConfigCommitted => 4
  | .activationCommitted => 5
  | .unitsStarted => 6

def PlaintextJournalPhase.next (phase : PlaintextJournalPhase) : Option PlaintextJournalPhase :=
  PlaintextJournalPhase.all[phase.ordinal + 1]?

inductive PlaintextRecoveryAction where
  | restorePriorState
  | completeActivation
deriving DecidableEq

def plaintextRecoveryActionForPhase : PlaintextJournalPhase → PlaintextRecoveryAction
  | .prepared | .guarded | .unitsStopped | .dropinRemoved | .enabledConfigCommitted => .restorePriorState
  | .activationCommitted | .unitsStarted => .completeActivation

structure PlannedObjectHashes where
  artifactSha256 : Sha256Digest
  dropinSha256 : Sha256Digest
  disabledConfigSha256 : Sha256Digest
  enabledConfigSha256 : Sha256Digest
  disabledReceiptSha256 : Sha256Digest
  enabledReceiptSha256 : Sha256Digest
deriving DecidableEq

def PlannedObjectHashes.validate (hashes : PlannedObjectHashes) : Check := do
  hashes.artifactSha256.validate
  hashes.dropinSha256.validate
  hashes.disabledConfigSha256.validate
  hashes.enabledConfigSha256.validate
  hashes.disabledReceiptSha256.validate
  hashes.enabledReceiptSha256.validate

structure LiveObjectHashes where
  artifactSha256 : Option Sha256Digest
  dropinSha256 : Option Sha256Digest
  configSha256 : Option Sha256Digest
  disabledReceiptSha256 : Option Sha256Digest
  enabledReceiptSha256 : Option Sha256Digest
deriving DecidableEq

structure BackupHashes where
  artifactSha256 : Option Sha256Digest
  configSha256 : Option Sha256Digest
  dropinSha256 : Option Sha256Digest
  receiptSha256 : Option Sha256Digest
deriving DecidableEq

/-- What the transitions of a provisioning journal may change. `liveHashes` is a plaintext journal's
`live_config_sha256`. -/
structure JournalProgress (Phase Hashes Action : Type) where
  generation : UInt64
  priorJournalIdentity : Option AtomicFileIdentityV1
  guard : Option TransactionGuardIdentityV1
  phase : Phase
  liveHashes : Hashes
  transactionOwnedPaths : List String
  atomicWrites : List AtomicWriteRecordV1
  effectiveUnits : Option EffectiveUnitSetV1
  recoveryAction : Action
  supervisorFailed : Bool
deriving DecidableEq

/-- The fields `stable_fields_equal` compares. -/
structure ProvisioningJournalV1.Stable where
  schemaVersion : UInt16
  transactionId : String
  journalStagingPath : String
  mode : UInt8
  epoch : UInt64
  credentialName : String
  plannedHashes : PlannedObjectHashes
  artifactPreexisted : Bool
  transientUnit : String
  priorConfig : Option ExactFileSnapshot
  priorDropin : Option ExactFileSnapshot
  priorReceipt : Option ExactFileSnapshot
  serviceUnitState : StableUnitState
  socketUnitState : StableUnitState
  postProvisionServiceTarget : StableUnitState
  postProvisionSocketTarget : StableUnitState
  priorDaemonInvocationId : Option String
  priorEffectiveUnits : EffectiveUnitSetV1
  securityDirectories : List SecurityDirectoryRecordV1
  backupHashes : BackupHashes
deriving DecidableEq

structure ProvisioningJournalV1 extends ProvisioningJournalV1.Stable,
  JournalProgress JournalPhase LiveObjectHashes RecoveryAction
deriving DecidableEq

structure PlaintextProvisioningJournalV1.Stable where
  schemaVersion : UInt16
  transactionId : String
  journalStagingPath : String
  enabledConfigSha256 : Sha256Digest
  priorConfig : Option ExactFileSnapshot
  priorDropin : Option ExactFileSnapshot
  serviceUnitState : StableUnitState
  socketUnitState : StableUnitState
  priorDaemonInvocationId : Option String
  priorEffectiveUnits : EffectiveUnitSetV1
  dropinSha256 : Sha256Digest
  securityDirectories : List SecurityDirectoryRecordV1
deriving DecidableEq

structure PlaintextProvisioningJournalV1 extends PlaintextProvisioningJournalV1.Stable,
  JournalProgress PlaintextJournalPhase (Option Sha256Digest) PlaintextRecoveryAction
deriving DecidableEq

abbrev PlaintextProvisioningJournalV1.liveConfigSha256 (journal : PlaintextProvisioningJournalV1) :
    Option Sha256Digest := journal.liveHashes

def validatePriorJournalIdentity (generation : UInt64) (prior : Option AtomicFileIdentityV1) : Check := do
  require ((generation == 1) = prior.isNone) (.invalidSchema "prior journal identity presence")
  checkSome (fun prior => do
    prior.validate
    require (prior.uid = 0 ∧ prior.gid = 0 ∧ prior.permissions = 0o600)
      (.invalidSchema "prior journal identity metadata")) prior

def validateJournalGuard (E : Serialization) (transactionId : String) (required : Bool)
    (guard : Option TransactionGuardIdentityV1) : Check := do
  require (required = guard.isSome) (.invalidSchema "journal guard presence")
  checkSome (fun identity => identity.validate E transactionId) guard

def validateMode1Identity (mode : UInt8) (epoch : UInt64) (credentialName : String) : Check :=
  require (mode = 1 ∧ epoch = mode1KeyEpoch ∧ credentialName = mode1CredentialName)
    (.invalidSchema "mode-1 identity")

def validatePathOrder : Option String → List String → Check
  | _, [] => .ok ()
  | previous, path :: paths => do
    validateAbsolutePath path "transaction-owned path"
    require (previous.all fun value => utf8Bytes value < utf8Bytes path)
      (.invalidSchema "transaction-owned path ordering")
    validatePathOrder (some path) paths

def validatePaths (paths : List String) : Check := do
  require (paths ≠ [] ∧ paths.length ≤ maxTransactionOwnedPaths) (.limitExceeded "transaction-owned paths")
  validatePathOrder none paths

-- The binary searches below run on paths that are known to be in order.
def validateOwnedJournalStagingPath (paths : List String) (journalStagingPath : String) : Check :=
  require (journalStagingPath ∈ paths) (.invalidSchema "transaction-owned journal staging path")

def AtomicWriteStateV1.isReleased : AtomicWriteStateV1 → Bool
  | .backupCleaned _ | .aborted => true
  | _ => false

def validateAtomicWriteRecordList (transactionId : String) (transactionOwnedPaths : List String) :
    List AtomicWriteRecordV1 → Check
  | [] => .ok ()
  | record :: later => do
    record.validate
    require (record.plan.transactionId = transactionId) (.invalidSchema "atomic write transaction binding")
    require (record.plan.stagingPath ∈ transactionOwnedPaths ∧
      record.plan.backupPath.all fun backup => transactionOwnedPaths.contains backup)
      (.invalidSchema "atomic transaction-owned path")
    require (¬ later.any fun l =>
      l.plan.stagingPath == record.plan.stagingPath && !AtomicWriteStateV1.isReleased record.state)
      (.invalidSchema "atomic staging path reuse")
    validateAtomicWriteRecordList transactionId transactionOwnedPaths later

def validateAtomicWriteRecords (transactionId : String) (transactionOwnedPaths : List String)
    (records : List AtomicWriteRecordV1) : Check := do
  require (records.length ≤ maxTransactionOwnedPaths) (.limitExceeded "atomic write records")
  validateAtomicWriteRecordList transactionId transactionOwnedPaths records

def validateTransientUnit (value : String) : Check := do
  validateSafeName value 128 "transient unit"
  require (utf8Bytes "howy-readiness-" <+: utf8Bytes value ∧ utf8Bytes ".service" <:+ utf8Bytes value)
    (.invalidSchema "transient unit")

def validatePhaseHash (required : Bool) (actual : Option Sha256Digest) (expected : Sha256Digest) : Check :=
  require (¬ ((required && actual != some expected) || (!required && actual.isSome)))
    (.invalidSchema "journal phase hash")

def validateOptionalDigests (digests : List (Option Sha256Digest)) : Check :=
  checkAll (checkSome Sha256Digest.validate) digests

def validateBackupHash (sha256 : Sha256) (field : String) (prior : Option ExactFileSnapshot)
    (backup : Option Sha256Digest) : Check :=
  match prior, backup with
  | some snapshot, some backup => do
    let bytes ← snapshot.bytes.decode
    require (Sha256Digest.fromBytes sha256 bytes = backup) (.invalidSchema field)
  | _, _ => .ok ()

def ProvisioningJournalV1.validateLiveHashMatrix (journal : ProvisioningJournalV1) : Check := do
  let ordinal := journal.phase.ordinal
  validatePhaseHash (JournalPhase.artifactCommitted.ordinal ≤ ordinal) journal.liveHashes.artifactSha256
    journal.plannedHashes.artifactSha256
  validatePhaseHash (JournalPhase.dropinCommitted.ordinal ≤ ordinal) journal.liveHashes.dropinSha256
    journal.plannedHashes.dropinSha256
  let expectedConfig :=
    if ordinal < JournalPhase.disabledConfigCommitted.ordinal then none
    else if ordinal < JournalPhase.enabledConfigCommitted.ordinal then
      some journal.plannedHashes.disabledConfigSha256
    else some journal.plannedHashes.enabledConfigSha256
  require (journal.liveHashes.configSha256 = expectedConfig) (.invalidSchema "journal live config hash")
  validatePhaseHash (JournalPhase.disabledReceiptCommitted.ordinal ≤ ordinal)
    journal.liveHashes.disabledReceiptSha256 journal.plannedHashes.disabledReceiptSha256
  validatePhaseHash (JournalPhase.enabledReceiptCommitted.ordinal ≤ ordinal)
    journal.liveHashes.enabledReceiptSha256 journal.plannedHashes.enabledReceiptSha256

variable (E : Serialization)

def ProvisioningJournalV1.validateBackups (journal : ProvisioningJournalV1) : Check := do
  checkSome (ExactFileSnapshot.validate E.sha256 maxConfigBytes "prior config bytes") journal.priorConfig
  checkSome (ExactFileSnapshot.validate E.sha256 maxDropinBytes "prior drop-in bytes") journal.priorDropin
  checkSome (ExactFileSnapshot.validate E.sha256 maxReceiptBytes "prior receipt bytes") journal.priorReceipt
  require (journal.priorConfig.isSome = journal.backupHashes.configSha256.isSome ∧
    journal.priorDropin.isSome = journal.backupHashes.dropinSha256.isSome ∧
    journal.priorReceipt.isSome = journal.backupHashes.receiptSha256.isSome ∧
    journal.artifactPreexisted = journal.backupHashes.artifactSha256.isSome)
    (.invalidSchema "journal backup presence")
  validateBackupHash E.sha256 "config backup hash" journal.priorConfig journal.backupHashes.configSha256
  validateBackupHash E.sha256 "drop-in backup hash" journal.priorDropin journal.backupHashes.dropinSha256
  validateBackupHash E.sha256 "receipt backup hash" journal.priorReceipt journal.backupHashes.receiptSha256
  require (journal.backupHashes.artifactSha256.all fun backup => backup == journal.plannedHashes.artifactSha256)
    (.invalidSchema "artifact backup hash")

def ProvisioningJournalV1.validateUnits (journal : ProvisioningJournalV1) : Check := do
  journal.serviceUnitState.validate
  journal.socketUnitState.validate
  require (journal.serviceUnitState.unitKind = .service ∧ journal.socketUnitState.unitKind = .socket)
    (.invalidSchema "unit kind")
  let targets ← disabledPostProvisionUnitTargets journal.serviceUnitState journal.socketUnitState
  require (journal.postProvisionServiceTarget = targets.1 ∧ journal.postProvisionSocketTarget = targets.2)
    (.invalidSchema "post-provision unit target")
  validatePriorDaemonInvocation journal.serviceUnitState journal.priorDaemonInvocationId
  require (journal.priorEffectiveUnits.service.unitKind = .service ∧
    journal.priorEffectiveUnits.socket.unitKind = .socket) (.invalidSchema "prior effective unit kind")
  require (decide (JournalPhase.dropinCommitted.ordinal ≤ journal.phase.ordinal) = journal.effectiveUnits.isSome)
    (.invalidSchema "journal effective unit presence")
  checkSome (fun effective => effective.validateMode1 journal.plannedHashes.dropinSha256) journal.effectiveUnits

def ProvisioningJournalV1.validate (journal : ProvisioningJournalV1) : Check := do
  require (journal.schemaVersion = provisioningSchemaVersion) (.invalidSchema "journal version")
  validateTransactionIdV1 journal.transactionId "transaction id"
  require (journal.generation ≠ 0) (.invalidSchema "journal generation")
  validatePriorJournalIdentity journal.generation journal.priorJournalIdentity
  validateJournalStagingPath journal.transactionId journal.journalStagingPath
  validateJournalGuard E journal.transactionId (JournalPhase.guarded.ordinal ≤ journal.phase.ordinal) journal.guard
  validateMode1Identity journal.mode journal.epoch journal.credentialName
  journal.plannedHashes.validate
  validatePaths journal.transactionOwnedPaths
  validateOwnedJournalStagingPath journal.transactionOwnedPaths journal.journalStagingPath
  validateAtomicWriteRecords journal.transactionId journal.transactionOwnedPaths journal.atomicWrites
  validateSecurityDirectoryRecords journal.securityDirectories
  validateTransientUnit journal.transientUnit
  journal.validateBackups E
  journal.validateUnits
  validateOptionalDigests [journal.backupHashes.artifactSha256, journal.backupHashes.configSha256,
    journal.backupHashes.dropinSha256, journal.backupHashes.receiptSha256]
  require (journal.recoveryAction = recoveryActionForPhase journal.phase)
    (.invalidSchema "journal recovery action")
  journal.validateLiveHashMatrix

def PlaintextProvisioningJournalV1.validate (journal : PlaintextProvisioningJournalV1) : Check := do
  require (journal.schemaVersion = provisioningSchemaVersion) (.invalidSchema "plaintext journal version")
  validateTransactionIdV1 journal.transactionId "transaction id"
  require (journal.generation ≠ 0) (.invalidSchema "plaintext journal generation")
  validatePriorJournalIdentity journal.generation journal.priorJournalIdentity
  validateJournalStagingPath journal.transactionId journal.journalStagingPath
  validateJournalGuard E journal.transactionId
    (PlaintextJournalPhase.guarded.ordinal ≤ journal.phase.ordinal) journal.guard
  validatePaths journal.transactionOwnedPaths
  validateOwnedJournalStagingPath journal.transactionOwnedPaths journal.journalStagingPath
  validateAtomicWriteRecords journal.transactionId journal.transactionOwnedPaths journal.atomicWrites
  validateSecurityDirectoryRecords journal.securityDirectories
  journal.enabledConfigSha256.validate
  journal.dropinSha256.validate
  checkSome Sha256Digest.validate journal.liveConfigSha256
  checkSome (ExactFileSnapshot.validate E.sha256 maxConfigBytes "prior config bytes") journal.priorConfig
  checkSome (ExactFileSnapshot.validate E.sha256 maxDropinBytes "prior drop-in bytes") journal.priorDropin
  journal.serviceUnitState.validate
  journal.socketUnitState.validate
  validatePriorDaemonInvocation journal.serviceUnitState journal.priorDaemonInvocationId
  require (journal.serviceUnitState.unitKind = .service ∧ journal.socketUnitState.unitKind = .socket ∧
    journal.recoveryAction = plaintextRecoveryActionForPhase journal.phase)
    (.invalidSchema "plaintext journal state")
  require (decide (PlaintextJournalPhase.dropinRemoved.ordinal ≤ journal.phase.ordinal) =
    journal.effectiveUnits.isSome) (.invalidSchema "plaintext journal effective unit presence")
  checkSome (fun effective => effective.validateMode0 journal.dropinSha256) journal.effectiveUnits
  require (journal.liveConfigSha256 =
    if PlaintextJournalPhase.enabledConfigCommitted.ordinal ≤ journal.phase.ordinal then
    some journal.enabledConfigSha256
    else none) (.invalidSchema "plaintext journal live config hash")

def validateGuardTransition (current next : Option TransactionGuardIdentityV1) (samePhase : Bool) : Bool :=
  match current, next with
  | none, none => true
  | some _, none => false
  | none, some _ => true
  | some left, some right => left == right || samePhase

def validateAtomicWriteStateTransition (plan : AtomicWritePlanV1) : AtomicWriteStateV1 → AtomicWriteStateV1 → Bool
  | .planned, .staged identity => validateAtomicStagedIdentity plan identity == .ok ()
  | .planned, .aborted => true
  | .staged identity, .committed observation =>
    observation.target == identity && observation.validateForPlan plan == .ok ()
  | .staged _, .aborted => true
  | .committed left, .backupCleaned right => left == right && left.backup.isSome
  | _, _ => false

def validateAtomicWriteRecordsTransition (current next : List AtomicWriteRecordV1) : Bool :=
  if next.length = current.length + 1 ∧ next.take current.length = current ∧
      next.getLast?.map (·.state) = some .planned then true
  else if next.length ≠ current.length then false
  else match (current.zip next).filter fun (left, right) => left != right with
    | [(left, right)] =>
      left.plan == right.plan && validateAtomicWriteStateTransition left.plan left.state right.state
    | _ => false

def dedup : List String → List String
  | a :: b :: l => if a = b then dedup (b :: l) else a :: dedup (b :: l)
  | l => l

def sortedPaths (paths : List String) : List String :=
  dedup (paths.insertionSort fun a b => utf8Bytes a ≤ utf8Bytes b)

def validateAtomicOwnedPathsTransition (currentPaths nextPaths : List String)
    (currentRecords nextRecords : List AtomicWriteRecordV1) : Bool :=
  if nextRecords.length = currentRecords.length + 1 ∧ nextRecords.take currentRecords.length = currentRecords then
    match nextRecords.getLast? with
    | some record =>
      sortedPaths (currentPaths ++ [record.plan.stagingPath] ++ record.plan.backupPath.toList) == nextPaths
    -- the list is longer than another one
    | none => false
  else currentPaths == nextPaths

def checkedSuccessor (generation : UInt64) : Option UInt64 :=
  if generation.toNat + 1 < 2 ^ 64 then some (generation + 1) else none

namespace JournalProgress

variable {Phase Hashes Action : Type} [DecidableEq Phase] [DecidableEq Hashes] [DecidableEq Action]
  (nextPhase : Phase → Option Phase) (effectivePhase : Phase) (current next : JournalProgress Phase Hashes Action)

def effectiveTransition : Bool :=
  match current.effectiveUnits, next.effectiveUnits with
  | none, some _ => next.phase == effectivePhase
  | left, right => left == right

def supervisorTransition : Bool :=
  current.supervisorFailed == next.supervisorFailed ||
    (!current.supervisorFailed && next.supervisorFailed && current.phase == next.phase)

def ordinaryPhase : Bool :=
  nextPhase current.phase == some next.phase && current.supervisorFailed == next.supervisorFailed

def supervisorPhase : Bool :=
  current.phase == next.phase && !current.supervisorFailed && next.supervisorFailed &&
    current.effectiveUnits == next.effectiveUnits

def guardIdentityPhase : Bool :=
  current.phase == next.phase && current.guard.isSome && next.guard.isSome && current.guard != next.guard &&
    current.supervisorFailed == next.supervisorFailed && current.liveHashes == next.liveHashes &&
    current.effectiveUnits == next.effectiveUnits && current.recoveryAction == next.recoveryAction &&
    current.atomicWrites == next.atomicWrites && current.transactionOwnedPaths == next.transactionOwnedPaths

def atomicPhase : Bool :=
  current.phase == next.phase && current.supervisorFailed == next.supervisorFailed &&
    current.liveHashes == next.liveHashes && current.effectiveUnits == next.effectiveUnits &&
    current.recoveryAction == next.recoveryAction &&
    validateAtomicWriteRecordsTransition current.atomicWrites next.atomicWrites &&
    validateAtomicOwnedPathsTransition current.transactionOwnedPaths next.transactionOwnedPaths
      current.atomicWrites next.atomicWrites

def recordsStable : Bool := current.atomicPhase next || current.atomicWrites == next.atomicWrites

def pathsStable : Bool := current.atomicPhase next || current.transactionOwnedPaths == next.transactionOwnedPaths

def transition : Prop :=
  checkedSuccessor current.generation = some next.generation ∧
    validateGuardTransition current.guard next.guard (current.phase == next.phase) ∧
    (current.ordinaryPhase nextPhase next || current.supervisorPhase next || current.atomicPhase next ||
      current.guardIdentityPhase next) ∧
    current.effectiveTransition effectivePhase next ∧ current.recordsStable next ∧ current.pathsStable next

instance : Decidable (transition nextPhase effectivePhase current next) := by
  unfold transition
  infer_instance

end JournalProgress

def ProvisioningJournalV1.stableFieldsEqual (current next : ProvisioningJournalV1) : Bool :=
  current.toStable == next.toStable

def PlaintextProvisioningJournalV1.stableFieldsEqual (current next : PlaintextProvisioningJournalV1) : Bool :=
  current.toStable == next.toStable

def validateJournalTransition (current next : ProvisioningJournalV1) : Check := do
  current.validate E
  next.validate E
  require (current.transition JournalPhase.next .dropinCommitted next.toJournalProgress ∧
    current.stableFieldsEqual next ∧ current.supervisorTransition next.toJournalProgress) .invalidTransition

def validatePlaintextJournalTransition (current next : PlaintextProvisioningJournalV1) : Check := do
  current.validate E
  next.validate E
  require (current.transition PlaintextJournalPhase.next .dropinRemoved next.toJournalProgress ∧
    current.stableFieldsEqual next) .invalidTransition

end Howy.Provisioning
