import Howy.Provisioning.Texts

/-! The objects that a provisioning journal describes: files, directories, planned writes and units. -/

namespace Howy.Provisioning

open Library Storage

def provisioningSchemaVersion : UInt16 := 1
def maxConfigBytes : ℕ := 1048576
def maxDropinBytes : ℕ := 65536
def maxJournalBytes : UInt64 := 4500000
def maxReceiptBytes : ℕ := 131072
def mode1CredentialName : String := "howy.storage.mode1.epoch1"
def mode1CredentialPath : String := "/etc/credstore.encrypted/howy.storage.mode1.epoch1"
def mode1CredentialSourceCompanionName : String := "howy.storage.mode1.source"
def mode1DropinPath : String := "/etc/systemd/system/howy.service.d/60-howy-mode1-credential.conf"
def baseServiceUnitPath : String := "/usr/lib/systemd/system/howy.service"
def baseSocketUnitPath : String := "/usr/lib/systemd/system/howy.socket"
def securityTransactionGuardPath : String := "/var/lib/howy-security-transaction.guard"
def packageBootstrapMarkerPath : String := "/var/lib/howy-package-bootstrap.complete"

def requiredSecurityDirectories : List (String × UInt32) :=
  [("/etc/howy", 0o700), ("/etc/howy/models", 0o700), ("/etc/howy/models/mode1", 0o700),
    ("/etc/credstore.encrypted", 0o700), ("/etc/systemd/system/howy.service.d", 0o755), ("/var/lib/howy", 0o700),
    ("/var/lib/howy/security-state", 0o700), ("/var/lib/howy/security-state/unadopted", 0o700)]

inductive FileObjectType where
  | regularFile
  | directory
  | symlink
  | other
deriving DecidableEq

def fileObjectTypeCode : FileObjectType → UInt8
  | .regularFile => 1
  | .directory => 2
  | .symlink => 3
  | .other => 4

inductive FileLinkPolicy where
  | exactlyOne
deriving DecidableEq

def fileLinkPolicyCode : FileLinkPolicy → UInt8
  | .exactlyOne => 1

def strayPermissions (permissions : UInt32) : UInt32 := permissions &&& ~~~0o7777

structure FileTimestampV1 where
  seconds : Int64
  nanoseconds : UInt32
deriving DecidableEq

def FileTimestampV1.validate (timestamp : FileTimestampV1) : Check :=
  require (timestamp.nanoseconds ≤ 999999999) (.invalidSchema "file timestamp")

structure RestorableFileTimestampsV1 where
  access : FileTimestampV1
  modification : FileTimestampV1
deriving DecidableEq

structure FileMetadataSnapshotV1 where
  schemaVersion : UInt16
  objectType : FileObjectType
  uid : UInt32
  gid : UInt32
  permissions : UInt32
  linkCount : UInt64
  linkPolicy : FileLinkPolicy
  byteLength : UInt64
  restorableTimestamps : RestorableFileTimestampsV1
deriving DecidableEq

def FileMetadataSnapshotV1.validate (metadata : FileMetadataSnapshotV1) : Check := do
  require (metadata.schemaVersion = provisioningSchemaVersion ∧ metadata.objectType = .regularFile ∧
    strayPermissions metadata.permissions = 0 ∧ metadata.linkPolicy = .exactlyOne ∧ metadata.linkCount = 1)
    (.invalidSchema "file metadata snapshot")
  metadata.restorableTimestamps.access.validate
  metadata.restorableTimestamps.modification.validate

def fileMetadataDomain : Bytes := utf8Bytes "HOWFILEMETADATA-v1" ++ [0]

def frame (tag : UInt8) (value : Bytes) : Bytes := tag :: leBytes 8 value.length ++ value

def FileMetadataSnapshotV1.deterministicBytes (metadata : FileMetadataSnapshotV1) :
    Except ProvisioningContractError Bytes := do
  metadata.validate
  let timestamps := metadata.restorableTimestamps
  return fileMetadataDomain ++ frame 1 (leBytes 2 metadata.schemaVersion.toNat) ++
    frame 2 [fileObjectTypeCode metadata.objectType] ++ frame 3 (leBytes 4 metadata.uid.toNat) ++
    frame 4 (leBytes 4 metadata.gid.toNat) ++ frame 5 (leBytes 4 metadata.permissions.toNat) ++
    frame 6 (leBytes 8 metadata.linkCount.toNat) ++ frame 7 [fileLinkPolicyCode metadata.linkPolicy] ++
    frame 8 (leBytes 8 metadata.byteLength.toNat) ++
    frame 9 (leBytes 8 timestamps.access.seconds.toUInt64.toNat) ++
    frame 10 (leBytes 4 timestamps.access.nanoseconds.toNat) ++
    frame 11 (leBytes 8 timestamps.modification.seconds.toUInt64.toNat) ++
    frame 12 (leBytes 4 timestamps.modification.nanoseconds.toNat)

def FileMetadataSnapshotV1.deterministicSha256 (sha256 : Sha256) (metadata : FileMetadataSnapshotV1) :
    Except ProvisioningContractError Sha256Digest := do
  let bytes ← metadata.deterministicBytes
  return Sha256Digest.fromBytes sha256 bytes

structure ExactFileSnapshot where
  bytes : ExactBytes
  metadata : FileMetadataSnapshotV1
  metadataSha256 : Sha256Digest
deriving DecidableEq

def ExactFileSnapshot.validate (sha256 : Sha256) (maximum : ℕ) (field : String) (snapshot : ExactFileSnapshot) :
    Check := do
  snapshot.bytes.validateMax maximum field
  snapshot.metadata.validate
  let digest ← snapshot.metadata.deterministicSha256 sha256
  require (snapshot.metadata.byteLength.toNat = snapshot.bytes.byteLen ∧ snapshot.metadataSha256 = digest)
    (.invalidSchema "file snapshot metadata binding")
  snapshot.metadataSha256.validate

structure AtomicFileIdentityV1 where
  deviceId : UInt64
  inode : UInt64
  objectType : FileObjectType
  uid : UInt32
  gid : UInt32
  permissions : UInt32
  linkCount : UInt64
  byteLength : UInt64
  sha256 : Sha256Digest
deriving DecidableEq

def AtomicFileIdentityV1.validate (identity : AtomicFileIdentityV1) : Check := do
  require (identity.deviceId ≠ 0 ∧ identity.inode ≠ 0 ∧ identity.objectType = .regularFile ∧
    strayPermissions identity.permissions = 0 ∧ identity.linkCount = 1 ∧ identity.byteLength ≤ maxJournalBytes)
    (.invalidSchema "atomic file identity")
  identity.sha256.validate

structure TransactionGuardV1 where
  schemaVersion : UInt16
  transactionId : String
deriving DecidableEq

def TransactionGuardV1.validate (guard : TransactionGuardV1) : Check := do
  require (guard.schemaVersion = provisioningSchemaVersion) (.invalidSchema "transaction guard version")
  validateTransactionIdV1 guard.transactionId "transaction guard id"

/-- What the hash function and `serde_json` do; neither is part of the repository. -/
structure Serialization where
  sha256 : Sha256
  guardJson : TransactionGuardV1 → Bytes

variable (E : Serialization)

def TransactionGuardV1.deterministicBytes (guard : TransactionGuardV1) :
    Except ProvisioningContractError Bytes := do
  guard.validate
  require ((E.guardJson guard).length ≤ 256) (.limitExceeded "transaction guard bytes")
  return E.guardJson guard

structure TransactionGuardIdentityV1 where
  content : TransactionGuardV1
  file : AtomicFileIdentityV1
deriving DecidableEq

def TransactionGuardIdentityV1.validate (transactionId : String)
    (identity : TransactionGuardIdentityV1) : Check := do
  identity.content.validate
  identity.file.validate
  let bytes ← identity.content.deterministicBytes E
  require (identity.content.transactionId = transactionId ∧ identity.file.uid = 0 ∧ identity.file.gid = 0 ∧
    identity.file.permissions = 0o600 ∧ identity.file.byteLength.toNat = bytes.length ∧
    identity.file.sha256 = Sha256Digest.fromBytes E.sha256 bytes) (.invalidSchema "transaction guard identity")

structure DirectoryIdentityV1 where
  path : String
  objectType : FileObjectType
  deviceId : UInt64
  inode : UInt64
  uid : UInt32
  gid : UInt32
  permissions : UInt32
  linkCount : UInt64
deriving DecidableEq

def DirectoryIdentityV1.validateShape (identity : DirectoryIdentityV1) : Check := do
  validateAbsolutePath identity.path "credential directory path"
  require (identity.deviceId ≠ 0 ∧ identity.inode ≠ 0 ∧ strayPermissions identity.permissions = 0 ∧
    identity.linkCount ≠ 0) (.invalidSchema "credential directory identity")

structure SecurityDirectoryRecordV1 where
  path : String
  uid : UInt32
  gid : UInt32
  permissions : UInt32
  parentDirectory : DirectoryIdentityV1
  expectedDirectory : Option DirectoryIdentityV1
  observedDirectory : Option DirectoryIdentityV1
  preexisted : Bool
deriving DecidableEq

def validateSecurityDirectoryIdentity (record : SecurityDirectoryRecordV1) (identity : DirectoryIdentityV1) :
    Check := do
  identity.validateShape
  require (identity.path = record.path ∧ identity.objectType = .directory ∧ identity.uid = record.uid ∧
    identity.gid = record.gid ∧ identity.permissions = record.permissions)
    (.invalidSchema "security directory identity")

def SecurityDirectoryRecordV1.validate (record : SecurityDirectoryRecordV1) : Check :=
  match requiredSecurityDirectories.find? fun required => required.1 == record.path with
  | none => .error (.invalidSchema "security directory path")
  | some (_, requiredMode) =>
    match parent (utf8Bytes record.path) with
    | none => .error (.invalidSchema "security directory parent")
    | some expectedParent => do
      require (record.uid = 0 ∧ record.gid = 0 ∧ record.permissions = requiredMode ∧
        utf8Bytes record.parentDirectory.path = expectedParent ∧ record.parentDirectory.objectType = .directory ∧
        record.parentDirectory.uid = 0 ∧ record.parentDirectory.gid = 0 ∧
        record.parentDirectory.permissions &&& 0o022 = 0) (.invalidSchema "security directory metadata")
      record.parentDirectory.validateShape
      require (record.preexisted = record.expectedDirectory.isSome)
        (.invalidSchema "security directory preexistence")
      checkSome (validateSecurityDirectoryIdentity record) record.expectedDirectory
      checkSome (fun observed => do
        validateSecurityDirectoryIdentity record observed
        checkSome (fun expected => require (expected = observed)
          (.invalidSchema "preexisting security directory changed")) record.expectedDirectory)
        record.observedDirectory

def validateSecurityDirectoryRecordPrefix (records : List SecurityDirectoryRecordV1) : Check := do
  require (records.length ≤ requiredSecurityDirectories.length) (.invalidSchema "security directory count")
  checkAll (fun (required, record) => do
    record.validate
    require (record.path = required.1) (.invalidSchema "security directory order"))
    (requiredSecurityDirectories.zip records)

def validateSecurityDirectoryRecords (records : List SecurityDirectoryRecordV1) : Check := do
  require (records.length = requiredSecurityDirectories.length) (.invalidSchema "security directory count")
  validateSecurityDirectoryRecordPrefix records
  require (records.all fun record => record.observedDirectory.isSome)
    (.invalidSchema "unobserved security directory")

inductive AtomicExpectedTargetV1 where
  | absent
  | present (identity : AtomicFileIdentityV1)
deriving DecidableEq

inductive AtomicWriteKindV1 where
  | noReplace
  | exchange
deriving DecidableEq

structure AtomicWritePlanV1 where
  schemaVersion : UInt16
  transactionId : String
  targetPath : String
  parentDirectory : DirectoryIdentityV1
  expectedTarget : AtomicExpectedTargetV1
  stagingPath : String
  backupPath : Option String
  uid : UInt32
  gid : UInt32
  permissions : UInt32
  timestamps : Option RestorableFileTimestampsV1
  bytesSha256 : Sha256Digest
  byteLength : UInt64
  operation : AtomicWriteKindV1
deriving DecidableEq

def AtomicWritePlanV1.validateOperation (plan : AtomicWritePlanV1) : Check :=
  match plan.operation, plan.expectedTarget, plan.backupPath with
  | .noReplace, .absent, none => .ok ()
  | .exchange, .present identity, some backup => do
    identity.validate
    require (identity.uid = plan.uid ∧ identity.gid = plan.gid ∧ identity.permissions &&& 0o022 = 0 ∧
      backup = plan.stagingPath) (.invalidSchema "atomic exchange backup path")
  | _, _, _ => .error (.invalidSchema "atomic operation target state")

def inDirectory (path directory : Bytes) : Bool := (parent path).any fun p => samePath p directory

def AtomicWritePlanV1.validate (plan : AtomicWritePlanV1) : Check := do
  require (plan.schemaVersion = provisioningSchemaVersion ∧ strayPermissions plan.permissions = 0 ∧
    plan.byteLength ≤ maxJournalBytes) (.invalidSchema "atomic write plan")
  validateTransactionIdV1 plan.transactionId "atomic transaction id"
  validateAbsolutePath plan.targetPath "atomic target path"
  plan.parentDirectory.validateShape
  require (inDirectory (utf8Bytes plan.targetPath) (utf8Bytes plan.parentDirectory.path))
    (.invalidSchema "atomic target parent")
  plan.validateOperation
  checkSome (fun timestamps => do
    timestamps.access.validate
    timestamps.modification.validate) plan.timestamps
  plan.bytesSha256.validate
  let expectedStage ← canonicalAtomicStagingPath plan.transactionId plan.targetPath plan.bytesSha256
  require (utf8Bytes plan.stagingPath = expectedStage ∧ plan.stagingPath ≠ plan.targetPath ∧
    inDirectory (utf8Bytes plan.stagingPath) (utf8Bytes plan.parentDirectory.path))
    (.invalidSchema "atomic staging path")

structure AtomicWriteObservationV1 where
  target : AtomicFileIdentityV1
  backup : Option AtomicFileIdentityV1
deriving DecidableEq

def AtomicWriteObservationV1.validateForPlan (observation : AtomicWriteObservationV1) (plan : AtomicWritePlanV1) :
    Check := do
  plan.validate
  observation.target.validate
  require (observation.target.uid = plan.uid ∧ observation.target.gid = plan.gid ∧
    observation.target.permissions = plan.permissions ∧ observation.target.byteLength = plan.byteLength ∧
    observation.target.sha256 = plan.bytesSha256) (.invalidSchema "atomic committed target")
  match plan.expectedTarget, observation.backup with
  | .absent, none => .ok ()
  | .present expected, some backup =>
    if expected = backup then backup.validate else .error (.invalidSchema "atomic committed backup")
  | _, _ => .error (.invalidSchema "atomic committed backup")

inductive AtomicWriteStateV1 where
  | planned
  | staged (identity : AtomicFileIdentityV1)
  | aborted
  | committed (observation : AtomicWriteObservationV1)
  | backupCleaned (observation : AtomicWriteObservationV1)
deriving DecidableEq

structure AtomicWriteRecordV1 where
  plan : AtomicWritePlanV1
  state : AtomicWriteStateV1
deriving DecidableEq

def validateAtomicStagedIdentity (plan : AtomicWritePlanV1) (identity : AtomicFileIdentityV1) : Check := do
  identity.validate
  require (identity.objectType = .regularFile ∧ identity.uid = plan.uid ∧ identity.gid = plan.gid ∧
    identity.permissions = plan.permissions ∧ identity.linkCount = 1 ∧ identity.byteLength = plan.byteLength ∧
    identity.sha256 = plan.bytesSha256) (.invalidSchema "atomic staged identity")

def AtomicWriteRecordV1.validate (record : AtomicWriteRecordV1) : Check := do
  record.plan.validate
  match record.state with
  | .planned | .aborted => .ok ()
  | .staged identity => validateAtomicStagedIdentity record.plan identity
  | .committed observation => observation.validateForPlan record.plan
  | .backupCleaned observation => do
    observation.validateForPlan record.plan
    require (observation.backup.isSome) (.invalidSchema "atomic backup cleanup state")

inductive UnitLoadState where
  | loaded
  | notFound
  | error
  | badSetting
  | masked
deriving DecidableEq

inductive UnitActiveState where
  | active
  | inactive
  | activating
  | deactivating
  | reloading
  | failed
  | maintenance
deriving DecidableEq

inductive UnitSubState where
  | running
  | dead
  | failed
  | startPre
  | start
  | startPost
  | stop
  | stopSigterm
  | stopSigkill
  | stopPost
  | reload
  | autoRestart
  | listening
  | other
deriving DecidableEq

inductive UnitFileState where
  | enabled
  | enabledRuntime
  | linked
  | linkedRuntime
  | alias
  | masked
  | maskedRuntime
  | static
  | disabled
  | indirect
  | generated
  | transient
  | bad
deriving DecidableEq

def UnitFileState.isMasked (state : UnitFileState) : Bool := state == .masked || state == .maskedRuntime

def UnitFileState.isAdmissible (state : UnitFileState) : Bool := !state.isMasked && state != .bad

inductive UnitKind where
  | service
  | socket
deriving DecidableEq

inductive StableRollbackTarget where
  | activeRunning
  | activeListening
  | inactiveDead
deriving DecidableEq

structure StableUnitState where
  unitKind : UnitKind
  loadState : UnitLoadState
  activeState : UnitActiveState
  subState : UnitSubState
  unitFileState : UnitFileState
deriving DecidableEq

def StableUnitState.rollbackTarget (state : StableUnitState) : Option StableRollbackTarget :=
  match state.unitKind, state.activeState, state.subState with
  | .service, .active, .running => some .activeRunning
  | .socket, .active, .listening | .socket, .active, .running => some .activeListening
  | _, .inactive, .dead => some .inactiveDead
  | _, _, _ => none

def StableUnitState.validate (state : StableUnitState) : Check :=
  require (state.loadState = .loaded ∧ state.unitFileState.isAdmissible ∧ state.rollbackTarget.isSome)
    (.invalidSchema "stable unit state")

def disabledPostProvisionUnitTargets (service socket : StableUnitState) :
    Except ProvisioningContractError (StableUnitState × StableUnitState) := do
  service.validate
  socket.validate
  require (service.unitKind = .service ∧ socket.unitKind = .socket)
    (.invalidSchema "disabled post-provision unit kind")
  let serviceTarget := { service with activeState := .inactive, subState := .dead }
  serviceTarget.validate
  return (serviceTarget, socket)

def validatePriorDaemonInvocation (service : StableUnitState) (invocationId : Option String) : Check := do
  require ((service.rollbackTarget == some .activeRunning) = invocationId.isSome)
    (.invalidSchema "prior daemon invocation presence")
  checkSome (fun value => require (isLowerHex value 64) (.invalidSchema "prior daemon invocation id")) invocationId

structure EffectiveFileMetadataV1 where
  objectType : FileObjectType
  uid : UInt32
  gid : UInt32
  permissions : UInt32
  linkCount : UInt64
  byteLength : UInt64
deriving DecidableEq

structure EffectiveUnitFileV1 where
  path : String
  sha256 : Sha256Digest
  metadata : EffectiveFileMetadataV1
deriving DecidableEq

def EffectiveUnitFileV1.validate (file : EffectiveUnitFileV1) (expectedPath : String)
    (expectedPermissions : UInt32) : Check := do
  validateAbsolutePath file.path "effective unit file path"
  file.sha256.validate
  require (file.path = expectedPath ∧ file.metadata.objectType = .regularFile ∧ file.metadata.uid = 0 ∧
    file.metadata.gid = 0 ∧ file.metadata.permissions = expectedPermissions ∧ file.metadata.linkCount = 1 ∧
    file.metadata.byteLength ≠ 0) (.invalidSchema "effective unit file")

structure EffectiveUnitConditionV1 where
  condition : String
  trigger : Bool
  negate : Bool
  parameter : String
deriving DecidableEq

structure EffectiveCredentialLoadV1 where
  name : String
  source : String
deriving DecidableEq

structure EffectiveSetCredentialV1 where
  name : String
  value : String
deriving DecidableEq

/-- `hardening` lists the map's entries in the order of their keys. -/
structure EffectiveUnitObservationV1 where
  unitKind : UnitKind
  fragment : EffectiveUnitFileV1
  dropins : List EffectiveUnitFileV1
  conditions : List EffectiveUnitConditionV1
  loadCredentialEncrypted : List EffectiveCredentialLoadV1
  setCredential : List EffectiveSetCredentialV1
  execStart : List (List String)
  hardening : List (String × String)
deriving DecidableEq

structure EffectiveUnitSetV1 where
  service : EffectiveUnitObservationV1
  socket : EffectiveUnitObservationV1
deriving DecidableEq

def transactionGuardCondition : EffectiveUnitConditionV1 :=
  ⟨"ConditionPathExists", false, true, securityTransactionGuardPath⟩

def packageBootstrapCondition : EffectiveUnitConditionV1 :=
  ⟨"ConditionPathExists", false, false, packageBootstrapMarkerPath⟩

def requiredUnitConditions : List EffectiveUnitConditionV1 :=
  [transactionGuardCondition, packageBootstrapCondition]

def requiredServiceHardening : List (String × String) :=
  [("LimitCORE", "0"), ("LimitMEMLOCK", "65536"), ("LockPersonality", "yes"), ("MemoryDenyWriteExecute", "no"),
    ("NoNewPrivileges", "yes"), ("PrivateTmp", "yes"), ("ProtectControlGroups", "yes"),
    ("ProtectHome", "read-only"),
    ("ProtectKernelModules", "yes"), ("ProtectKernelTunables", "yes"), ("ProtectSystem", "strict"),
    ("RestrictAddressFamilies", "AF_UNIX"), ("RestrictNamespaces", "yes"), ("RestrictRealtime", "yes"),
    ("UMask", "0077")]

def isSoleDropin (expectedSha256 : Sha256Digest) : List EffectiveUnitFileV1 → Bool
  | [dropin] =>
    dropin.path == mode1DropinPath && dropin.sha256 == expectedSha256 &&
      dropin.validate mode1DropinPath 0o600 == .ok ()
  | _ => false

def EffectiveUnitSetV1.validateCommon (units : EffectiveUnitSetV1)
    (expectedDropinSha256 : Sha256Digest) : Check := do
  expectedDropinSha256.validate
  units.service.fragment.validate baseServiceUnitPath 0o644
  units.socket.fragment.validate baseSocketUnitPath 0o644
  require (units.service.unitKind = .service ∧ units.socket.unitKind = .socket ∧
    isSoleDropin expectedDropinSha256 units.service.dropins ∧
    units.socket.dropins = [] ∧ units.service.conditions = requiredUnitConditions ∧
    units.socket.conditions = requiredUnitConditions ∧ units.service.execStart = [["/usr/bin/howyd"]] ∧
    units.socket.execStart = [] ∧ units.socket.loadCredentialEncrypted = [] ∧ units.socket.setCredential = [] ∧
    units.socket.hardening = [] ∧ units.service.hardening = requiredServiceHardening)
    (.invalidSchema "effective unit policy")

def EffectiveUnitSetV1.validateMode1 (units : EffectiveUnitSetV1)
    (expectedDropinSha256 : Sha256Digest) : Check := do
  units.validateCommon expectedDropinSha256
  require (units.service.loadCredentialEncrypted = [⟨mode1CredentialName, mode1CredentialPath⟩] ∧
    units.service.setCredential = [⟨mode1CredentialSourceCompanionName, mode1CredentialPath⟩])
    (.invalidSchema "effective mode 1 credentials")

def EffectiveUnitSetV1.validateMode0 (units : EffectiveUnitSetV1)
    (expectedDropinSha256 : Sha256Digest) : Check := do
  units.validateCommon expectedDropinSha256
  require (units.service.loadCredentialEncrypted = [] ∧ units.service.setCredential = [])
    (.invalidSchema "effective mode 0 credentials")

end Howy.Provisioning
