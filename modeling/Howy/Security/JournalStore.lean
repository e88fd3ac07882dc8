import Howy.Provisioning.Supervisor
import Howy.Security.FileSystem

/-! The one journal file of the security runtime: loading, replacing and removing it. -/

namespace Howy.Security

open Library Storage Provisioning

def securityJournalPath : String := "/var/lib/howy-security-transaction-v1.json"

inductive ParsedJournal where
  | mode1 (journal : ProvisioningJournalV1)
  | plaintext (journal : PlaintextProvisioningJournalV1)
  | supervisor (journal : SupervisorJournalV1)
deriving DecidableEq

namespace ParsedJournal

def transactionId : ParsedJournal → String
  | mode1 journal => journal.transactionId
  | plaintext journal => journal.transactionId
  | supervisor journal => journal.transactionId

def stagingPath : ParsedJournal → String
  | mode1 journal => journal.journalStagingPath
  | plaintext journal => journal.journalStagingPath
  | supervisor journal => journal.journalStagingPath

def generation : ParsedJournal → UInt64
  | mode1 journal => journal.generation
  | plaintext journal => journal.generation
  | supervisor journal => journal.generation

def priorJournalIdentity : ParsedJournal → Option AtomicFileIdentityV1
  | mode1 journal => journal.priorJournalIdentity
  | plaintext journal => journal.priorJournalIdentity
  | supervisor journal => journal.priorJournalIdentity

end ParsedJournal

variable (E : Encoding)

def handsOverToMode1 (current : SupervisorJournalV1) (next : ProvisioningJournalV1) : Bool :=
  (current.operation == .provisionMode1 || current.operation == .enableMode1) && current.phase ==
    .directoriesReady && next.guard == current.guard && next.securityDirectories == current.securityDirectories &&
    next.priorConfig == current.priorConfig && next.priorDropin == current.priorDropin &&
    next.priorReceipt == current.priorReceipt && some next.serviceUnitState == current.serviceUnitState &&
    some next.socketUnitState == current.socketUnitState &&
    next.priorDaemonInvocationId == current.priorDaemonInvocationId &&
    current.priorEffectiveUnits == some next.priorEffectiveUnits

def handsOverToPlaintext (current : SupervisorJournalV1) (next : PlaintextProvisioningJournalV1) : Bool :=
  current.operation == .provisionMode0 && current.phase == .directoriesReady && next.guard == current.guard &&
    next.securityDirectories == current.securityDirectories && next.priorConfig == current.priorConfig &&
    next.priorDropin == current.priorDropin && some next.serviceUnitState == current.serviceUnitState &&
    some next.socketUnitState == current.socketUnitState &&
    next.priorDaemonInvocationId == current.priorDaemonInvocationId &&
    current.priorEffectiveUnits == some next.priorEffectiveUnits

def ParsedJournal.validNext (current next : ParsedJournal) : Bool :=
  current.transactionId == next.transactionId && current.stagingPath == next.stagingPath &&
    checkedSuccessor current.generation == some next.generation &&
    match current, next with
    | .mode1 current, .mode1 next => validateJournalTransition E.toSerialization current next == .ok ()
    | .plaintext current, .plaintext next =>
      validatePlaintextJournalTransition E.toSerialization current next == .ok ()
    | .supervisor current, .supervisor next => validateSupervisorJournalTransition E current next == .ok ()
    | .supervisor current, .mode1 next => handsOverToMode1 current next
    | .supervisor current, .plaintext next => handsOverToPlaintext current next
    | _, _ => false

def parseBounded {α : Type} (decode : Bytes → Option α) (validate : α → Check) (bytes : Bytes) : Option α :=
  if bytes.length ≤ maxJournalBytes.toNat then (decode bytes).filter fun journal =>
    validate journal == .ok () else none

def parsedJournal (bytes : Bytes) : Except SecurityError ParsedJournal :=
  match parseBounded E.mode1 (ProvisioningJournalV1.validate E.toSerialization) bytes,
    parseBounded E.plaintext (PlaintextProvisioningJournalV1.validate E.toSerialization) bytes,
    parseBounded E.supervisor (SupervisorJournalV1.validate E) bytes with
  | some journal, _, _ => .ok (.mode1 journal)
  | none, some journal, _ => .ok (.plaintext journal)
  | none, none, some journal => .ok (.supervisor journal)
  | none, none, none => .error (.uncertain "journal bytes are not a strict transaction schema")

def validateRootDirectory (directory : List Bytes) (permissions : UInt32) : Op Unit := do
  let stat ← fstatDirectory directory
  fromExcept (require (stat.kind = .directory ∧ stat.uid = 0 ∧ stat.gid = 0 ∧ stat.permissions = permissions ∧
    stat.nlink ≠ 0) (.operation "directory metadata is unsafe"))

def journalParent : Op (List Bytes × DirectoryIdentityV1 × Bytes) := do
  let resolved ← fromExcept (resolve securityJournalPath)
  let (directory, targetName) ← fromExcept (splitAbsolute resolved)
  let parent ← openDirectoryPathBound directory
  validateRootDirectory parent 0o755
  let stat ← fstatDirectory parent
  let targetName ← fromExcept (cstring targetName)
  return (parent, directoryIdentity "/var/lib" stat, targetName)

def journalStageName (stagingPath : String) : Except SecurityError Bytes := do
  let resolved ← resolve stagingPath
  let (stagingParent, name) ← splitAbsolute resolved
  let resolvedJournal ← resolve securityJournalPath
  let (journalParent, _) ← splitAbsolute resolvedJournal
  require (samePath stagingParent journalParent = true ∧ stagingPath ≠ securityJournalPath)
    (.operation "journal staging path is outside the held parent")
  cstring name

def ObservedFile.validateRegular (file : ObservedFile) (uid gid permissions : UInt32) :
    Except SecurityError Unit :=
  require (file.metadata.objectType = .regularFile ∧ file.metadata.uid = uid ∧ file.metadata.gid = gid ∧
    file.metadata.permissions = permissions ∧ file.metadata.linkCount = 1 ∧
    file.metadata.byteLength = file.bytes.length.toUInt64 ∧ file.deviceId ≠ 0 ∧ file.inode ≠ 0)
    (.operation "unsafe file metadata")

def observedControlMatches (left right : ObservedFile) : Bool :=
  left.bytes == right.bytes && left.atomicIdentity E.sha256 == right.atomicIdentity E.sha256 &&
    left.parentDeviceId == right.parentDeviceId && left.parentInode == right.parentInode &&
    left.parentUid == right.parentUid && left.parentGid == right.parentGid &&
    left.parentPermissions == right.parentPermissions

def optionalObservedControlMatches (left right : Option ObservedFile) : Bool :=
  match left, right with
  | none, none => true
  | some left, some right => observedControlMatches E left right
  | _, _ => false

def openJournalStage (stage : Path) (allowNamedFallback : Bool) : Op Handle := do
  match ← openUnnamed (.operation "unnamed journal stage creation failed") 0o600 with
  | some node => return .unnamed node
  | none =>
    if allowNamedFallback then do
      openExclusive (.uncertain "named journal stage creation failed and any occupant was retained") stage 0o600
      return .named stage
    else throw (.operation "unnamed journal stage creation failed")

def publishJournalStage (stage : Path) : Handle → Op Unit
  | .named _ => pure ()
  | .unnamed node => do
    if ← linkat stage node then pure ()
    else if ← linkat stage node then pure ()
    else throw (.operation "unnamed journal stage publication failed")

def fillJournalStage (stage : Path) (parent : DirectoryIdentityV1) (bytes : Bytes) (handle : Handle)
    (created : Node) : Op ObservedFile := do
  let handle ← fchown (.operation "journal stage metadata setup failed") 0 0 handle
  let handle ← fchmod (.operation "journal stage metadata setup failed") 0o600 handle
  let handle ← writeAll (.operation "journal stage write failed") bytes handle
  system (.operation "journal stage fsync failed")
  publishJournalStage stage handle
  system (.uncertain "journal stage directory fsync failed")
  let observed ← observeAtomicAt stage bytes.length parent
  let observed ← orMissing (.uncertain "journal stage disappeared") observed
  fromExcept (require (observed.deviceId = created.device ∧ observed.inode = created.inode ∧
      observed.bytes = bytes ∧ observed.metadata.uid = 0 ∧ observed.metadata.gid = 0 ∧
      observed.metadata.permissions = 0o600)
    (.uncertain "journal stage changed before durable observation"))
  return observed

def createJournalStage (stage : Path) (parent : DirectoryIdentityV1) (bytes : Bytes) (allowNamedFallback : Bool) :
    Op ObservedFile := do
  match ← fstatatNofollow stage with
  | some _ => throw (.uncertain "journal stage is occupied and was retained")
  | none => do
    let handle ← openJournalStage stage allowNamedFallback
    let created ← statHandle handle
    fillJournalStage stage parent bytes handle created

def unlinkJournalEntryExact (path : Path) (parent : DirectoryIdentityV1) (expected : ObservedFile) : Op Unit := do
  let live ← observeAtomicAt path maxJournalBytes.toNat parent
  let live ← orMissing (.uncertain "journal control disappeared before unlink") live
  fromExcept (require (observedControlMatches E live expected = true)
    (.uncertain "journal control identity or bytes changed before unlink"))
  unlinkat (.uncertain "exact journal control unlink failed") path
  system (.uncertain "journal directory fsync failed")

def isJournalStageName (name : Bytes) : Bool :=
  (utf8Bytes ".howy-txn-").isPrefixOf name && (utf8Bytes "-transaction-v1.json-journal.stage").isSuffixOf name

def observeCandidates (parentFd : List Bytes) (parent : DirectoryIdentityV1) :
    List Bytes → Op (List (Bytes × ObservedFile))
  | [] => pure []
  | name :: names => do
    let observed ← observeAtomicAt ⟨parentFd, name⟩ maxJournalBytes.toNat parent
    let observed ← orMissing (.uncertain "journal stage changed during scan") observed
    let rest ← observeCandidates parentFd parent names
    return (name, observed) :: rest

-- The listing itself is taken not to fail: the source cannot tell an error of `readdir` from the end.
def journalStageCandidates (parentFd : List Bytes) (parent : DirectoryIdentityV1) :
    Op (List (Bytes × ObservedFile)) := do
  system (.operation "journal directory duplication failed")
  system (.operation "journal directory stream open failed")
  let names ← query fun _ s =>
    .ok (((s.files.keys.filter fun path => path.directory == parentFd).map Path.name).filter isJournalStageName)
  observeCandidates parentFd parent names

def settleJournalStage (parentFd : List Bytes) (parent : DirectoryIdentityV1) (target : ObservedFile)
    (targetParsed : ParsedJournal) (stageName : Bytes) (stage : ObservedFile) : Op (Option ObservedFile) := do
  let expectedName ← fromExcept (journalStageName targetParsed.stagingPath)
  fromExcept (require (expectedName = stageName) (.uncertain "journal stage belongs to another transaction"))
  fromExcept (ObservedFile.validateRegular stage 0 0 0o600)
  let stageParsed ← fromExcept (parsedJournal E stage.bytes)
  if targetParsed.validNext E stageParsed = true then
    throw (.uncertain "pre-exchange journal stage identity was not durably bound and was retained")
  else if stageParsed.validNext E targetParsed = true ∧
      targetParsed.priorJournalIdentity = some (stage.atomicIdentity E.sha256) then do
    unlinkJournalEntryExact E ⟨parentFd, stageName⟩ parent stage
    return some target
  else throw (.uncertain "journal target and stage are not adjacent owned generations")

def settleJournalStages (parentFd : List Bytes) (parent : DirectoryIdentityV1) (target : ObservedFile)
    (targetParsed : ParsedJournal) : List (Bytes × ObservedFile) → Op (Option ObservedFile)
  | [] => return some target
  | [(stageName, stage)] => settleJournalStage E parentFd parent target targetParsed stageName stage
  | _ => throw (.uncertain "multiple journal stages were retained")

def loadJournal : Op (Option ObservedFile) := do
  let (parentFd, parent, targetName) ← journalParent
  let target ← observeAtomicAt ⟨parentFd, targetName⟩ maxJournalBytes.toNat parent
  let candidates ← journalStageCandidates parentFd parent
  match target, candidates with
  | none, [] => return none
  | none, [_] =>
    throw (.uncertain "orphan journal stage has no durably bound created identity and was retained")
  | none, _ => throw (.uncertain "multiple orphan journal stages were retained")
  | some target, candidates => do
    fromExcept (ObservedFile.validateRegular target 0 0 0o600)
    let targetParsed ← fromExcept (parsedJournal E target.bytes)
    settleJournalStages E parentFd parent target targetParsed candidates

def checkIncoming (prior : Option ObservedFile) (bytes : Bytes) : Except SecurityError ParsedJournal := do
  let incoming ← parsedJournal E bytes
  match prior with
  | none => require (incoming.generation = 1) (.uncertain "initial journal generation is not one")
  | some prior => do
    let current ← parsedJournal E prior.bytes
    require (current.validNext E incoming = true)
      (.uncertain "journal update is not the exact next owned generation")
  require (incoming.priorJournalIdentity = prior.map (·.atomicIdentity E.sha256))
    (.uncertain "journal generation does not bind the exact prior file identity")
  return incoming

def finishExchange (target stagePath : Path) (parent : DirectoryIdentityV1) (prior stage : ObservedFile) :
    Op ObservedFile := do
  system (.uncertain "journal exchange directory fsync failed")
  let targetAfter ← observeAtomicAt target maxJournalBytes.toNat parent
  let targetAfter ← orMissing (.uncertain "journal target missing after exchange") targetAfter
  fromExcept (require (observedControlMatches E targetAfter stage = true)
    (.uncertain "journal target identity changed after exchange"))
  let backup ← observeAtomicAt stagePath maxJournalBytes.toNat parent
  let backup ← orMissing (.uncertain "journal backup missing after exchange") backup
  fromExcept (require (observedControlMatches E backup prior = true)
    (.uncertain "exchanged journal backup differs from the exact prior journal"))
  unlinkJournalEntryExact E stagePath parent backup
  return targetAfter

def replaceJournal (target stagePath : Path) (parent : DirectoryIdentityV1) (prior : ObservedFile)
    (bytes : Bytes) : Op ObservedFile := do
  let stage ← createJournalStage stagePath parent bytes true
  let targetBefore ← observeAtomicAt target maxJournalBytes.toNat parent
  let stageBefore ← observeAtomicAt stagePath maxJournalBytes.toNat parent
  fromExcept (require (optionalObservedControlMatches E targetBefore (some prior) = true ∧
      optionalObservedControlMatches E stageBefore (some stage) = true)
    (.uncertain "journal target or stage was replaced before exchange"))
  renameat2 .exchange stagePath target
  finishExchange E target stagePath parent prior stage

def persistJournal (prior : Option ObservedFile) (bytes : Bytes) : Op ObservedFile := do
  let incoming ← fromExcept (checkIncoming E prior bytes)
  let (parentFd, parent, targetName) ← journalParent
  let stageName ← fromExcept (journalStageName incoming.stagingPath)
  let target : Path := ⟨parentFd, targetName⟩
  let stagePath : Path := ⟨parentFd, stageName⟩
  let liveTarget ← observeAtomicAt target maxJournalBytes.toNat parent
  fromExcept (require (optionalObservedControlMatches E prior liveTarget = true)
    (.uncertain "journal target differs from the exact prior observation"))
  match prior with
  | none => createJournalStage target parent bytes false
  | some prior => replaceJournal E target stagePath parent prior bytes

def removeJournal (transactionId : String) (expected : ObservedFile) : Op Unit := do
  let parsed ← fromExcept (parsedJournal E expected.bytes)
  fromExcept (require (parsed.transactionId = transactionId)
    (.uncertain "journal removal transaction identity mismatch"))
  let reconciled ← loadJournal E
  let reconciled ← orMissing (.uncertain "journal disappeared before removal") reconciled
  fromExcept (require (observedControlMatches E reconciled expected = true)
    (.uncertain "latest journal identity changed before removal"))
  let (parentFd, parent, targetName) ← journalParent
  unlinkJournalEntryExact E ⟨parentFd, targetName⟩ parent expected

end Howy.Security
