import Howy.Security.FileSystem

/-! Journaled atomic writes of the security runtime: create a stage, commit it, and reconcile what a crash left. -/

namespace Howy.Security

open Library Storage Provisioning

inductive AtomicWriteReconciliation where
  | notCommitted
  | committed (observation : AtomicWriteObservationV1)
deriving DecidableEq

variable (sha256 : Sha256)

def atomicIdentity (bytes : Bytes) (stat : Node) : AtomicFileIdentityV1 where
  deviceId := stat.device
  inode := stat.inode
  objectType := stat.kind
  uid := stat.uid
  gid := stat.gid
  permissions := stat.permissions
  linkCount := stat.nlink
  byteLength := bytes.length.toUInt64
  sha256 := Sha256Digest.fromBytes sha256 bytes

variable (plan : AtomicWritePlanV1)

def expectedAtomicLength : ℕ :=
  match plan.expectedTarget with
  | .absent => 0
  | .present identity => identity.byteLength.toNat

def newAtomicIdentityMatches (identity : AtomicFileIdentityV1) : Bool :=
  decide (identity.objectType = .regularFile ∧ identity.uid = plan.uid ∧ identity.gid = plan.gid ∧
    identity.permissions = plan.permissions ∧ identity.linkCount = 1 ∧ identity.byteLength = plan.byteLength ∧
    identity.sha256 = plan.bytesSha256)

def validateNewAtomicIdentity (identity : AtomicFileIdentityV1) :
    Except SecurityError Unit := do
  asOperation identity.validate
  require (newAtomicIdentityMatches plan identity = true) (.operation "atomic stage identity differs from plan")

def isExpectedTarget (expected : AtomicExpectedTargetV1) (identity : Option AtomicFileIdentityV1) : Bool :=
  match expected, identity with
  | .absent, none => true
  | .present expected, some identity => expected == identity
  | _, _ => false

def validateExpectedAtomicTarget (observed : Option ObservedFile) :
    Except SecurityError Unit :=
  require (isExpectedTarget plan.expectedTarget (observed.map (·.atomicIdentity sha256)) = true)
    (.operation "atomic target changed after planning")

def atomicParentFd : Op (List Bytes) := do
  fromExcept (asOperation plan.validate)
  let resolvedParent ← fromExcept (resolve plan.parentDirectory.path)
  let fd ← openDirectoryPathBound resolvedParent
  validateDirectoryIdentity fd plan.parentDirectory
  validateAbsoluteParentIdentity resolvedParent fd plan.parentDirectory
  return fd

def openAtomicPaths : Op (Path × Path) := do
  let parent ← atomicParentFd plan
  let (_, targetName) ← fromExcept (splitAbsolute (utf8Bytes plan.targetPath))
  let (_, stageName) ← fromExcept (splitAbsolute (utf8Bytes plan.stagingPath))
  let targetName ← fromExcept (cstring targetName)
  let stageName ← fromExcept (cstring stageName)
  return (⟨parent, targetName⟩, ⟨parent, stageName⟩)

def unlinkCreatedStageExact (path : Path) (device inode : UInt64) : Op Unit := do
  match ← fstatatNofollow path with
  | none => pure ()
  | some stat => do
    fromExcept (require (stat.device = device ∧ stat.inode = inode ∧ stat.kind = .regularFile ∧ stat.nlink = 1)
      (.operation "journaled stage identity changed before cleanup"))
    unlinkat (.operation "journaled stage unlink failed") path
    fsyncDirectory

def setTimestamps (timestamps : Option RestorableFileTimestampsV1) (handle : Handle) : Op Handle :=
  match timestamps with
  | none => pure handle
  | some timestamps => futimens (.operation "atomic stage timestamp setup failed") timestamps handle

def fillAtomicStage (bytes : Bytes) (stage : Path) : Op AtomicFileIdentityV1 := do
  let handle ← fchown (.operation "atomic stage metadata setup failed") plan.uid plan.gid (.named stage)
  let handle ← fchmod (.operation "atomic stage metadata setup failed") plan.permissions handle
  let handle ← writeAll (.operation "atomic stage write failed") bytes handle
  let handle ← setTimestamps plan.timestamps handle
  system (.operation "atomic stage fsync failed")
  let stat ← statHandle handle
  let staged := atomicIdentity sha256 bytes stat
  fromExcept (validateNewAtomicIdentity plan staged)
  system (.uncertain "atomic stage directory fsync failed")
  let observed ← observeAtomicAt stage plan.byteLength.toNat plan.parentDirectory
  let observed ← orMissing (.uncertain "atomic stage disappeared") observed
  fromExcept (require (observed.atomicIdentity sha256 = staged)
    (.uncertain "atomic stage changed before durable identity return"))
  return staged

def createAtomicStage (bytes : Bytes) : Op AtomicFileIdentityV1 := do
  fromExcept (asOperation plan.validate)
  fromExcept (require (bytes.length = plan.byteLength.toNat ∧ Sha256Digest.fromBytes sha256 bytes =
    plan.bytesSha256) (.operation "atomic write bytes do not match journaled plan"))
  let parent ← atomicParentFd plan
  let (_, stageName) ← fromExcept (splitAbsolute (utf8Bytes plan.stagingPath))
  let stageName ← fromExcept (cstring stageName)
  let stage : Path := ⟨parent, stageName⟩
  openExclusive (.operation "journaled atomic stage creation failed") stage plan.permissions
  let created ← statHandle (.named stage)
  match ← ExceptT.lift (fillAtomicStage sha256 plan bytes stage).run with
  | .ok staged => return staged
  | .error e =>
    match ← ExceptT.lift (unlinkCreatedStageExact stage created.device created.inode).run with
    | .ok () => throw e
    | .error cleanup => throw (.uncertain
        ("atomic write failed before rename and exact stage cleanup failed: " ++ cleanup.text))

def explainRenameFailure (staged : AtomicFileIdentityV1) (stage target : Path)
    (e : SecurityError) : Op AtomicWriteObservationV1 := do
  let stageAfter ← ExceptT.lift (observeAtomicAt stage plan.byteLength.toNat plan.parentDirectory).run
  let targetAfter ← ExceptT.lift (observeAtomicAt target maxJournalBytes.toNat plan.parentDirectory).run
  match stageAfter, targetAfter with
  | .ok (some stage), .ok target =>
    if stage.atomicIdentity sha256 = staged ∧ validateExpectedAtomicTarget sha256 plan target = .ok () then throw e
    else throw (.uncertain "atomic rename reported failure with indeterminate post-state")
  | _, _ => throw (.uncertain "atomic rename reported failure with indeterminate post-state")

def observeBackup (stage : Path) : Op (Option ObservedFile) :=
  match plan.operation with
  | .noReplace => do
    match ← fstatatNofollow stage with
    | some _ => throw (.uncertain "atomic no-replace stage remained after rename")
    | none => return none
  | .exchange => do
    let backup ← orElse (.uncertain "atomic backup was unsafe after exchange")
      (observeAtomicAt stage maxJournalBytes.toNat plan.parentDirectory)
    let backup ← orMissing (.uncertain "atomic exchange backup missing") backup
    return some backup

def observeRenamed (staged : AtomicFileIdentityV1) (stage target : Path) :
    Op AtomicWriteObservationV1 := do
  let resolvedParent ← fromExcept (resolve plan.parentDirectory.path)
  orElse (.uncertain "absolute parent path changed across atomic rename")
    (validateAbsoluteParentIdentity resolvedParent target.directory plan.parentDirectory)
  let targetObserved ← orElse (.uncertain "atomic target was unsafe after rename")
    (observeAtomicAt target maxJournalBytes.toNat plan.parentDirectory)
  let targetObserved ← orMissing (.uncertain "atomic target missing after rename") targetObserved
  let backupObserved ← observeBackup plan stage
  let observation : AtomicWriteObservationV1 :=
    ⟨targetObserved.atomicIdentity sha256, backupObserved.map (·.atomicIdentity sha256)⟩
  orElse (.uncertain "post-rename target or backup identity mismatch")
    (fromExcept (asOperation (observation.validateForPlan plan)))
  fromExcept (require (observation.target = staged)
    (.uncertain "committed target differs from the durably recorded stage"))
  system (.uncertain "atomic rename directory fsync failed")
  return observation

def commitAtomicStage (staged : AtomicFileIdentityV1) : Op AtomicWriteObservationV1 := do
  fromExcept (asOperation plan.validate)
  fromExcept (validateNewAtomicIdentity plan staged)
  let (target, stage) ← openAtomicPaths plan
  let resolvedParent ← fromExcept (resolve plan.parentDirectory.path)
  validateAbsoluteParentIdentity resolvedParent target.directory plan.parentDirectory
  let stagedBefore ← observeAtomicAt stage plan.byteLength.toNat plan.parentDirectory
  let stagedBefore ← orMissing (.uncertain "journaled atomic stage disappeared") stagedBefore
  fromExcept (require (stagedBefore.atomicIdentity sha256 = staged)
    (.uncertain "journaled atomic stage identity changed before commit"))
  let before ← observeAtomicAt target (max plan.byteLength.toNat (expectedAtomicLength plan)) plan.parentDirectory
  fromExcept (validateExpectedAtomicTarget sha256 plan before)
  match ← ExceptT.lift (renameat2 plan.operation stage target).run with
  | .error e => explainRenameFailure sha256 plan staged stage target e
  | .ok () => observeRenamed sha256 plan staged stage target

def removeFileExact (path : String) (expected : AtomicFileIdentityV1) : Op Unit := do
  fromExcept (asOperation expected.validate)
  let productionParent ← orMissing (.operation "exact path has no parent") (parent (utf8Bytes path))
  let resolved ← fromExcept (resolve path)
  let (directory, name) ← fromExcept (splitAbsolute resolved)
  let parent ← openDirectoryPathBound directory
  let stat ← fstatDirectory parent
  -- the parent of a path that is text is text
  let parentIdentity := directoryIdentity ((fromUtf8 productionParent).getD "") stat
  let name ← fromExcept (cstring name)
  let live ← observeAtomicAt ⟨parent, name⟩ expected.byteLength.toNat parentIdentity
  let live ← orMissing (.operation "exact file disappeared before unlink") live
  fromExcept (require (live.atomicIdentity sha256 = expected)
    (.uncertain "exact file identity changed before unlink"))
  unlinkat (.operation "exact file unlink failed") ⟨parent, name⟩
  fsyncDirectory

def committedObservation (target : AtomicFileIdentityV1)
    (stage : Option AtomicFileIdentityV1) : Except SecurityError AtomicWriteObservationV1 :=
  let stageIsOld := stage.isSome && isExpectedTarget plan.expectedTarget stage
  if plan.operation = .exchange ∧ stageIsOld = true then .ok ⟨target, stage⟩
  else if plan.operation = .noReplace ∧ stage = none then .ok ⟨target, none⟩
  else .error (.uncertain "atomic recovery found an unexpected post-rename stage")

def settleAtomicWrite (staged : Option AtomicFileIdentityV1)
    (target stage : Option AtomicFileIdentityV1) : Op AtomicWriteReconciliation :=
  let targetIsOld := isExpectedTarget plan.expectedTarget target
  match staged with
  | none =>
    if targetIsOld = true ∧ stage = none then return .notCommitted
    else throw (.uncertain "atomic recovery retained a stage without a durably recorded identity")
  | some staged => do
    fromExcept (validateNewAtomicIdentity plan staged)
    if target = some staged then do
      let observation ← fromExcept (committedObservation plan staged stage)
      orElse (.uncertain "atomic committed observation is inconsistent")
        (fromExcept (asOperation (observation.validateForPlan plan)))
      return .committed observation
    else if targetIsOld = true ∧ stage = some staged then do
      removeFileExact sha256 plan.stagingPath staged
      return .notCommitted
    else throw (.uncertain "atomic recovery found target/stage identities outside the journaled plan")

def reconcileAtomicWrite (staged : Option AtomicFileIdentityV1) :
    Op AtomicWriteReconciliation := do
  let (targetPath, stagePath) ← openAtomicPaths plan
  let maximum := max plan.byteLength.toNat (expectedAtomicLength plan)
  let target ← observeAtomicAt targetPath maximum plan.parentDirectory
  let stage ← observeAtomicAt stagePath maximum plan.parentDirectory
  settleAtomicWrite sha256 plan staged (target.map (·.atomicIdentity sha256)) (stage.map (·.atomicIdentity sha256))

end Howy.Security
