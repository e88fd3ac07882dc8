import Howy.Provisioning.Journal

/-! The supervisor's journal, which comes before a mode-specific one, and the admission of a cleanup. -/

namespace Howy.Provisioning

open Library Storage

def mode1CredentialDirectory : String := "/etc/credstore.encrypted"
def securityUnadoptedDirectory : String := "/var/lib/howy/security-state/unadopted"
def systemdCredentialEncryptedSizeMax : UInt64 := 1179648
def systemdCredentialTextSizeMax : UInt64 := 1612686

inductive SystemdCredentialKeyId where
  | host
  | tpm2Hmac
  | hostAndTpm2Hmac
deriving DecidableEq

structure UnitObservation where
  unitKind : UnitKind
  loadState : UnitLoadState
  activeState : UnitActiveState
  subState : UnitSubState
  unitFileState : UnitFileState
  hasQueuedJob : Bool
deriving DecidableEq

structure CredentialArtifactSourceIdentityV1 where
  credentialName : String
  envelopeSha256 : Sha256Digest
  envelopeSize : UInt64
  actualKeyId : SystemdCredentialKeyId
deriving DecidableEq

def CredentialArtifactSourceIdentityV1.validateShape (source : CredentialArtifactSourceIdentityV1) : Check := do
  validateSafeName source.credentialName 128 "credential source name"
  require (source.envelopeSize ≠ 0 ∧ source.envelopeSize ≤ systemdCredentialEncryptedSizeMax)
    (.invalidSchema "credential source identity")
  source.envelopeSha256.validate

def CredentialArtifactSourceIdentityV1.validateExpected (source : CredentialArtifactSourceIdentityV1) : Check := do
  source.validateShape
  require (source.credentialName = mode1CredentialName) (.invalidSchema "credential source identity")

def DirectoryIdentityV1.validateExpected (identity : DirectoryIdentityV1) : Check := do
  identity.validateShape
  require (identity.path = mode1CredentialDirectory ∧ identity.objectType = .directory)
    (.invalidSchema "credential directory identity")

structure ArtifactDescriptorIdentityV1 where
  path : String
  deviceId : UInt64
  inode : UInt64
  sha256 : Sha256Digest
  byteLength : UInt64
  objectType : FileObjectType
  uid : UInt32
  gid : UInt32
  permissions : UInt32
  linkCount : UInt64
  parentDirectory : DirectoryIdentityV1
deriving DecidableEq

def ArtifactDescriptorIdentityV1.validateShape (descriptor : ArtifactDescriptorIdentityV1) : Check := do
  validateAbsolutePath descriptor.path "cleanup artifact path"
  require (descriptor.byteLength ≠ 0 ∧ descriptor.byteLength ≤ systemdCredentialTextSizeMax ∧
    descriptor.deviceId ≠ 0 ∧ descriptor.inode ≠ 0 ∧ strayPermissions descriptor.permissions = 0 ∧
    descriptor.linkCount ≠ 0) (.invalidSchema "cleanup artifact descriptor")
  descriptor.sha256.validate
  descriptor.parentDirectory.validateShape

def ArtifactDescriptorIdentityV1.validateExpected (descriptor : ArtifactDescriptorIdentityV1) : Check := do
  descriptor.validateShape
  require (descriptor.path = mode1CredentialPath ∧ descriptor.objectType = .regularFile ∧ descriptor.uid = 0 ∧
    descriptor.gid = 0 ∧ descriptor.permissions = 0o600 ∧ descriptor.linkCount = 1)
    (.invalidSchema "cleanup artifact descriptor")
  DirectoryIdentityV1.validateExpected descriptor.parentDirectory

structure CleanupArtifactIdentityV1 where
  transactionId : String
  descriptor : ArtifactDescriptorIdentityV1
  source : CredentialArtifactSourceIdentityV1
deriving DecidableEq

def CleanupArtifactIdentityV1.validateSize (identity : CleanupArtifactIdentityV1) : Check :=
  require (identity.source.envelopeSize ≤ identity.descriptor.byteLength)
    (.invalidSchema "cleanup artifact source size")

def CleanupArtifactIdentityV1.validateExpected (identity : CleanupArtifactIdentityV1) : Check := do
  validateTransactionIdV1 identity.transactionId "cleanup transaction id"
  identity.descriptor.validateExpected
  identity.source.validateExpected
  identity.validateSize

def CleanupArtifactIdentityV1.validateObserved (identity : CleanupArtifactIdentityV1) : Check := do
  validateTransactionIdV1 identity.transactionId "cleanup transaction id"
  identity.descriptor.validateShape
  identity.source.validateShape
  identity.validateSize

structure UnadoptedArtifactV1 where
  schemaVersion : UInt16
  identity : CleanupArtifactIdentityV1
deriving DecidableEq

def UnadoptedArtifactV1.validate (manifest : UnadoptedArtifactV1) : Check := do
  require (manifest.schemaVersion = provisioningSchemaVersion) (.invalidSchema "unadopted manifest version")
  manifest.identity.validateExpected

structure CleanupReferences where
  config : Bool
  receipt : Bool
  dropin : Bool
  journal : Bool
  activeTransaction : Bool
  effectiveUnit : Bool
deriving DecidableEq

structure CleanupStateInput where
  expectedArtifact : CleanupArtifactIdentityV1
  observedArtifact : CleanupArtifactIdentityV1
  references : CleanupReferences
  service : UnitObservation
  socket : UnitObservation
  readinessTransientExists : Bool
  daemonResponded : Bool
deriving DecidableEq

inductive CleanupRefusal where
  | expectedIdentityInvalid
  | observedIdentityInvalid
  | transactionMismatch
  | pathMismatch
  | objectIdentityMismatch
  | hashMismatch
  | lengthMismatch
  | typeMismatch
  | ownershipMismatch
  | modeMismatch
  | linkMismatch
  | directoryMismatch
  | sourceMismatch
  | configReference
  | receiptReference
  | dropinReference
  | journalReference
  | activeTransaction
  | effectiveUnitReference
  | unitNotInactive
  | unitUnstable
  | unitTransitional
  | unitJobQueued
  | readinessTransient
  | daemonReference
deriving DecidableEq

inductive CleanupAdmissibility where
  | admissible
  | refuse (refusal : CleanupRefusal)
deriving DecidableEq

def checkUnitInactive (unit : UnitObservation) : Except CleanupRefusal Unit := do
  require (unit.hasQueuedJob = false) .unitJobQueued
  require (unit.activeState ≠ .activating ∧ unit.activeState ≠ .deactivating ∧ unit.activeState ≠ .reloading)
    .unitTransitional
  require (unit.loadState = .loaded ∧ unit.unitFileState.isAdmissible ∧ unit.activeState ≠ .failed ∧
    unit.subState ≠ .failed) .unitUnstable
  require (unit.activeState = .inactive ∧ unit.subState = .dead) .unitNotInactive

def checkCleanup (input : CleanupStateInput) : Except CleanupRefusal Unit := do
  let expected := input.expectedArtifact
  let observed := input.observedArtifact
  require (expected.validateExpected = .ok ()) .expectedIdentityInvalid
  require (observed.validateObserved = .ok ()) .observedIdentityInvalid
  require (expected.transactionId = observed.transactionId) .transactionMismatch
  require (expected.descriptor.path = observed.descriptor.path) .pathMismatch
  require (expected.descriptor.deviceId = observed.descriptor.deviceId ∧
    expected.descriptor.inode = observed.descriptor.inode) .objectIdentityMismatch
  require (expected.descriptor.sha256 = observed.descriptor.sha256) .hashMismatch
  require (expected.descriptor.byteLength = observed.descriptor.byteLength) .lengthMismatch
  require (expected.descriptor.objectType = observed.descriptor.objectType) .typeMismatch
  require (expected.descriptor.uid = observed.descriptor.uid ∧ expected.descriptor.gid = observed.descriptor.gid)
    .ownershipMismatch
  require (expected.descriptor.permissions = observed.descriptor.permissions) .modeMismatch
  require (expected.descriptor.linkCount = observed.descriptor.linkCount) .linkMismatch
  require (expected.descriptor.parentDirectory = observed.descriptor.parentDirectory) .directoryMismatch
  require (expected.source = observed.source) .sourceMismatch
  require (input.references.config = false) .configReference
  require (input.references.receipt = false) .receiptReference
  require (input.references.dropin = false) .dropinReference
  require (input.references.journal = false) .journalReference
  require (input.references.activeTransaction = false) .activeTransaction
  require (input.references.effectiveUnit = false) .effectiveUnitReference
  require (input.readinessTransientExists = false) .readinessTransient
  require (input.daemonResponded = false) .daemonReference
  require (input.service.unitKind = .service ∧ input.socket.unitKind = .socket) .unitUnstable
  checkAll checkUnitInactive [input.service, input.socket]

def classifyCleanupAdmissibility (input : CleanupStateInput) : CleanupAdmissibility :=
  match checkCleanup input with
  | .ok () => .admissible
  | .error refusal => .refuse refusal

structure CleanupPreAdmissionV1 where
  observedArtifact : CleanupArtifactIdentityV1
  references : CleanupReferences
  service : UnitObservation
  socket : UnitObservation
  readinessTransientExists : Bool
  daemonResponded : Bool
  effectiveUnits : EffectiveUnitSetV1
deriving DecidableEq

def CleanupPreAdmissionV1.validate (admission : CleanupPreAdmissionV1)
    (expectedArtifact : CleanupArtifactIdentityV1) : Check :=
  require (admission.effectiveUnits.service.unitKind = .service ∧
    admission.effectiveUnits.socket.unitKind = .socket ∧
    classifyCleanupAdmissibility ⟨expectedArtifact, admission.observedArtifact, admission.references,
      admission.service, admission.socket, admission.readinessTransientExists,
      admission.daemonResponded⟩ = .admissible)
    (.invalidSchema "cleanup pre-admission")

inductive SupervisorOperationV1 where
  | provisionMode1
  | enableMode1
  | provisionMode0
  | cleanupUnadopted
deriving DecidableEq

inductive SupervisorPhaseV1 where
  | prepared
  | guarded
  | unitsStopped
  | directoriesReady
  | mutationCommitted
  | unitsRestored
deriving DecidableEq

def SupervisorPhaseV1.ordinal : SupervisorPhaseV1 → ℕ
  | .prepared => 0
  | .guarded => 1
  | .unitsStopped => 2
  | .directoriesReady => 3
  | .mutationCommitted => 4
  | .unitsRestored => 5

def SupervisorPhaseV1.next : SupervisorPhaseV1 → Option SupervisorPhaseV1
  | .prepared => some .guarded
  | .guarded => some .unitsStopped
  | .unitsStopped => some .directoriesReady
  | .directoriesReady => some .mutationCommitted
  | .mutationCommitted => some .unitsRestored
  | .unitsRestored => none

inductive CleanupQuarantineStateV1 where
  | planned
  | renamed
  | removed
  | restored
deriving DecidableEq

structure CleanupQuarantineV1 where
  path : String
  state : CleanupQuarantineStateV1
deriving DecidableEq

def CleanupQuarantineV1.validate (quarantine : CleanupQuarantineV1) (transactionId : String) : Check :=
  require (quarantine.path = mode1CredentialDirectory ++ "/.howy-" ++ transactionId ++ ".quarantine" ∧
    (utf8Bytes quarantine.path).length ≤ maxPathBytes) (.invalidSchema "cleanup quarantine path")

structure CleanupManifestIdentityV1 where
  path : String
  file : AtomicFileIdentityV1
deriving DecidableEq

/-- The fields no transition changes: those `snapshots_stable` and `units_transition` compare. -/
structure SupervisorJournalV1.Stable where
  schemaVersion : UInt16
  transactionId : String
  journalStagingPath : String
  operation : SupervisorOperationV1
  priorConfig : Option ExactFileSnapshot
  priorDropin : Option ExactFileSnapshot
  priorReceipt : Option ExactFileSnapshot
  serviceUnitState : Option StableUnitState
  socketUnitState : Option StableUnitState
  priorDaemonInvocationId : Option String
  priorEffectiveUnits : Option EffectiveUnitSetV1
  transactionOwnedPaths : List String
  cleanupArtifact : Option CleanupArtifactIdentityV1
  cleanupManifest : Option CleanupManifestIdentityV1
  cleanupPreAdmission : Option CleanupPreAdmissionV1
deriving DecidableEq

structure SupervisorJournalV1 extends SupervisorJournalV1.Stable where
  generation : UInt64
  priorJournalIdentity : Option AtomicFileIdentityV1
  guard : Option TransactionGuardIdentityV1
  phase : SupervisorPhaseV1
  atomicWrites : List AtomicWriteRecordV1
  securityDirectories : List SecurityDirectoryRecordV1
  cleanupQuarantine : Option CleanupQuarantineV1
  supervisorFailed : Bool
deriving DecidableEq

structure Encoding extends Serialization where
  manifestJson : UnadoptedArtifactV1 → Bytes
  mode1 : Bytes → Option ProvisioningJournalV1
  plaintext : Bytes → Option PlaintextProvisioningJournalV1
  supervisor : Bytes → Option SupervisorJournalV1

variable (E : Encoding)

def UnadoptedArtifactV1.deterministicBytes (manifest : UnadoptedArtifactV1) :
    Except ProvisioningContractError Bytes := do
  manifest.validate
  require ((E.manifestJson manifest).length ≤ maxReceiptBytes) (.limitExceeded "unadopted manifest bytes")
  return E.manifestJson manifest

def CleanupManifestIdentityV1.validate (manifest : CleanupManifestIdentityV1)
    (artifact : CleanupArtifactIdentityV1) : Check := do
  let expectedBytes ← UnadoptedArtifactV1.deterministicBytes E ⟨provisioningSchemaVersion, artifact⟩
  manifest.file.validate
  require (manifest.path = securityUnadoptedDirectory ++ "/" ++ artifact.transactionId ++ ".json" ∧
    (utf8Bytes manifest.path).length ≤ maxPathBytes ∧ manifest.file.objectType = .regularFile ∧
    manifest.file.uid = 0 ∧
    manifest.file.gid = 0 ∧ manifest.file.permissions = 0o600 ∧ manifest.file.linkCount = 1 ∧
    manifest.file.byteLength.toNat = expectedBytes.length ∧ manifest.file.byteLength.toNat ≤ maxReceiptBytes ∧
    manifest.file.sha256 = Sha256Digest.fromBytes E.sha256 expectedBytes)
    (.invalidSchema "cleanup manifest identity")

namespace SupervisorJournalV1

section

variable (journal : SupervisorJournalV1)

def validateUnits : Check :=
  match journal.serviceUnitState, journal.socketUnitState, journal.priorEffectiveUnits with
  | some service, some socket, some effective => do
    service.validate
    socket.validate
    require (service.unitKind = .service ∧ socket.unitKind = .socket ∧ effective.service.unitKind = .service ∧
      effective.socket.unitKind = .socket) (.invalidSchema "supervisor unit kind")
    validatePriorDaemonInvocation service journal.priorDaemonInvocationId
  | _, _, _ => .error (.invalidSchema "supervisor unit snapshot presence")

def validateCleanup : Check :=
  match journal.operation, journal.cleanupArtifact, journal.cleanupManifest, journal.cleanupPreAdmission,
    journal.cleanupQuarantine with
  | .cleanupUnadopted, some identity, some manifest, some preAdmission, some quarantine => do
    identity.validateExpected
    manifest.validate E identity
    preAdmission.validate identity
    quarantine.validate journal.transactionId
    require (quarantine.path ∈ journal.transactionOwnedPaths)
      (.invalidSchema "transaction-owned cleanup quarantine")
  | .cleanupUnadopted, _, _, _, _ => .error (.invalidSchema "cleanup supervisor identity")
  | _, none, none, none, none => .ok ()
  | _, _, _, _, _ => .error (.invalidSchema "unexpected cleanup supervisor identity")

def validateDirectories : Check :=
  if SupervisorPhaseV1.directoriesReady.ordinal ≤ journal.phase.ordinal then
    validateSecurityDirectoryRecords journal.securityDirectories
  else validateSecurityDirectoryRecordPrefix journal.securityDirectories

def validate : Check := do
  require (journal.schemaVersion = provisioningSchemaVersion) (.invalidSchema "supervisor journal version")
  validateTransactionIdV1 journal.transactionId "transaction id"
  require (journal.generation ≠ 0) (.invalidSchema "supervisor journal generation")
  validatePriorJournalIdentity journal.generation journal.priorJournalIdentity
  validateJournalStagingPath journal.transactionId journal.journalStagingPath
  validateJournalGuard E.toSerialization journal.transactionId
    (SupervisorPhaseV1.guarded.ordinal ≤ journal.phase.ordinal) journal.guard
  validatePaths journal.transactionOwnedPaths
  validateOwnedJournalStagingPath journal.transactionOwnedPaths journal.journalStagingPath
  validateAtomicWriteRecords journal.transactionId journal.transactionOwnedPaths journal.atomicWrites
  journal.validateDirectories
  checkSome (ExactFileSnapshot.validate E.sha256 maxConfigBytes "prior config bytes") journal.priorConfig
  checkSome (ExactFileSnapshot.validate E.sha256 maxDropinBytes "prior drop-in bytes") journal.priorDropin
  checkSome (ExactFileSnapshot.validate E.sha256 maxReceiptBytes "prior receipt bytes") journal.priorReceipt
  journal.validateUnits
  journal.validateCleanup E

end

end SupervisorJournalV1

/-- `plan_security_directory` adds a record, `ensure_security_directory` fills in what the last one lacks. -/
def validateSecurityDirectoryRecordsTransition (currentPhase nextPhase : SupervisorPhaseV1)
    (current next : List SecurityDirectoryRecordV1) : Bool :=
  if current = next then true
  else if currentPhase ≠ .unitsStopped ∨ nextPhase ≠ .unitsStopped then false
  else if next.length = current.length + 1 ∧ current <+: next ∧ (next.getLast?.any fun record =>
      record.observedDirectory.isNone && (requiredSecurityDirectories[current.length]?.map (·.1)) ==
        some record.path) then
    true
  else if next.length = current.length then
    match current.getLast?, next.getLast? with
    | some left, some right =>
      current.dropLast == next.dropLast &&
        { left with observedDirectory := none } == { right with observedDirectory := none } &&
        left.observedDirectory.isNone && right.observedDirectory.isSome
    | _, _ => false
  else false

def validateQuarantineTransition (current next : Option CleanupQuarantineV1) : Bool :=
  match current, next with
  | none, none => true
  | some left, some right =>
    left.path == right.path &&
      match left.state, right.state with
      | .planned, .planned | .planned, .renamed | .renamed, .renamed | .renamed, .removed | .renamed, .restored
      | .removed, .removed | .restored, .restored => true
      | _, _ => false
  | _, _ => false

namespace SupervisorJournalV1

variable (current next : SupervisorJournalV1)

def unitsTransition : Bool :=
  current.serviceUnitState == next.serviceUnitState && current.socketUnitState == next.socketUnitState &&
    current.priorDaemonInvocationId == next.priorDaemonInvocationId &&
    current.priorEffectiveUnits == next.priorEffectiveUnits

def ordinary : Bool :=
  (current.phase.next == some next.phase || (current.phase == .unitsStopped && next.phase == .unitsRestored) ||
    (current.phase == .directoriesReady && next.phase == .unitsRestored)) &&
    current.supervisorFailed == next.supervisorFailed

def failClosed : Bool := current.phase == next.phase && !current.supervisorFailed && next.supervisorFailed

def guardIdentityPhase : Bool :=
  current.phase == next.phase && current.guard.isSome && next.guard.isSome && current.guard != next.guard &&
    current.supervisorFailed == next.supervisorFailed && current.atomicWrites == next.atomicWrites &&
    current.securityDirectories == next.securityDirectories &&
    current.cleanupQuarantine == next.cleanupQuarantine && current.unitsTransition next

def snapshotsStable : Bool :=
  current.schemaVersion == next.schemaVersion && current.transactionId == next.transactionId &&
    current.journalStagingPath == next.journalStagingPath && current.operation == next.operation &&
    current.priorConfig == next.priorConfig && current.priorDropin == next.priorDropin &&
    current.priorReceipt == next.priorReceipt && current.transactionOwnedPaths == next.transactionOwnedPaths &&
    current.cleanupArtifact == next.cleanupArtifact && current.cleanupManifest == next.cleanupManifest &&
    current.cleanupPreAdmission == next.cleanupPreAdmission

def directoriesTransition : Bool :=
  validateSecurityDirectoryRecordsTransition current.phase next.phase current.securityDirectories
    next.securityDirectories

def quarantineTransition : Bool := validateQuarantineTransition current.cleanupQuarantine next.cleanupQuarantine

def quarantinePhase : Bool :=
  current.phase == next.phase && current.supervisorFailed == next.supervisorFailed &&
    current.atomicWrites == next.atomicWrites && current.cleanupQuarantine != next.cleanupQuarantine &&
    current.quarantineTransition next

def directoryPhase : Bool :=
  current.phase == .unitsStopped && next.phase == .unitsStopped && current.supervisorFailed ==
    next.supervisorFailed && current.atomicWrites == next.atomicWrites && current.cleanupQuarantine ==
    next.cleanupQuarantine &&
    current.securityDirectories != next.securityDirectories && current.directoriesTransition next

def atomic : Bool :=
  current.phase == next.phase && current.supervisorFailed == next.supervisorFailed &&
    current.unitsTransition next && current.securityDirectories == next.securityDirectories &&
    validateAtomicWriteRecordsTransition current.atomicWrites next.atomicWrites

def recordsStable : Bool := current.atomic next || current.atomicWrites == next.atomicWrites

end SupervisorJournalV1

def validateSupervisorJournalTransition (current next : SupervisorJournalV1) : Check := do
  current.validate E
  next.validate E
  require (checkedSuccessor current.generation = some next.generation ∧
    validateGuardTransition current.guard next.guard (current.phase == next.phase) ∧
    (current.ordinary next || current.failClosed next || current.atomic next || current.quarantinePhase next ||
      current.directoryPhase next || current.guardIdentityPhase next) ∧
    current.snapshotsStable next ∧ current.unitsTransition next ∧ current.directoriesTransition next ∧
    current.quarantineTransition next ∧ current.recordsStable next) .invalidTransition

end Howy.Provisioning
