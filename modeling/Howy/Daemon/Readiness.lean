import Howy.Daemon.Fingerprints
import Howy.Daemon.Startup
import Howy.Storage.Mode1Scan

/-! The strong readiness check of the Mode 1 namespace, which builds no backend and changes nothing. -/

namespace Howy.Daemon

open Library Storage Budget Mode1 Provisioning Fingerprints

def mode1NamespacePath : String := "/etc/howy/models/mode1"

structure DirectoryNode where
  isDirectory : Bool
  uid : ℕ
  gid : ℕ
  mode : ℕ
  nlink : ℕ
deriving DecidableEq

/-- The namespace under its parent and the directories above that, which all exist. The group of a file is kept
beside it. -/
structure Namespace where
  ancestors : List DirectoryNode
  parent : DirectoryNode
  directory : DirectoryNode
  files : Directory
  gid : Name → ℕ

inductive ReadinessError where
  | message (text : String)
  | contract (e : ProvisioningContractError)
  | storage (e : StorageError)
  | backend (e : StorageBackendError)
deriving DecidableEq

def contract {α : Type} (x : Except ProvisioningContractError α) : Except ReadinessError α := x.mapError .contract

structure AuthoritativeRecord where
  name : Name
  username : CanonicalUsername
  file : FileNode
deriving DecidableEq

structure StrongInventory where
  logical : NamespaceInventoryV1
  records : List AuthoritativeRecord

def validateAncestor (node : DirectoryNode) : Except ReadinessError Unit :=
  failIf (¬ node.isDirectory ∨ node.uid ≠ productionOwner ∨ node.nlink = 0 ∨ node.mode &&& 0o022 ≠ 0)
    (.message "path ancestor violates the no-follow ownership policy")

def openAbsoluteDirectoryNoFollow (ns : Namespace) : Except ReadinessError DirectoryNode := do
  checkAll validateAncestor ns.ancestors
  validateAncestor ns.parent
  validateAncestor ns.directory
  pure ns.directory

def directoryMetadata (node : DirectoryNode) : NamespaceDirectoryMetadata :=
  ⟨mode1NamespacePath, .ofNat node.uid, .ofNat node.gid, .ofNat node.mode, .ofNat node.nlink⟩

def checkedNamespaceTotal (current recordBytes : ℕ) : Except ReadinessError ℕ := do
  failIf (recordBytes = 0 ∨ maxNamespaceCiphertextBytes < recordBytes)
    (.message "Mode 1 record exceeds the ciphertext byte bound")
  match checkedAdd current recordBytes with
  | none => .error (.message "Mode 1 namespace byte total overflow")
  | some total =>
    failIf (maxNamespaceTotalBytes < total) (.message "Mode 1 namespace exceeds the total byte bound")
    pure total

variable (sha256 : Sha256)

structure Inventoried where
  entry : NamespaceFingerprintEntry
  record : Option AuthoritativeRecord
  total : ℕ

def inventoryEntry (ns : Namespace) (total : ℕ) (name : Name) : Except ReadinessError Inventoried := do
  failIf (name = [] ∨ maxNamespaceNameBytes < name.length)
    (.message "Mode 1 namespace entry name exceeds the bound")
  match ns.files.lookup name with
  | none => .error (.message "open")
  | some node =>
    let classification := classifyMode1NamespaceEntry name node.kind node.nlink
    let entry (digest : Sha256Digest) : NamespaceFingerprintEntry :=
      ⟨name, node.kind, .ofNat node.uid, .ofNat (ns.gid name), .ofNat node.mode, .ofNat node.nlink,
        .ofNat node.contents.length, digest, classification⟩
    match classification with
    | .authoritative u => do
      failIf (node.kind ≠ .regular ∨ node.uid ≠ productionOwner ∨ ns.gid name ≠ productionOwner ∨
        node.mode ≠ storageRecordMode ∨ node.nlink ≠ 1 ∨ node.contents.length = 0)
        (.message "authoritative Mode 1 record metadata is not canonical")
      let total ← checkedNamespaceTotal total node.contents.length
      pure ⟨entry (Sha256Digest.fromBytes sha256 node.contents), some ⟨name, u, node⟩, total⟩
    | _ => pure ⟨entry (Sha256Digest.fromBytes sha256 []), none, total⟩

def inventoryNames (ns : Namespace) : ℕ → ℕ → List Name →
    Except ReadinessError (List NamespaceFingerprintEntry × List AuthoritativeRecord)
  | _, _, [] => .ok ([], [])
  | 0, _, _ :: _ => .error (.message "Mode 1 namespace exceeds the entry-count bound")
  | remaining + 1, total, name :: names => do
    let visited ← inventoryEntry sha256 ns total name
    let (entries, records) ← inventoryNames ns remaining visited.total names
    pure (visited.entry :: entries, visited.record.toList ++ records)

abbrev ListingOrder := { f : List Name → List Name // ∀ names, (f names).Perm names }

def inventoryMode1Namespace (ns : Namespace) (order : ListingOrder) : Except ReadinessError StrongInventory := do
  let directory ← openAbsoluteDirectoryNoFollow ns
  failIf (¬ directory.isDirectory ∨ directory.uid ≠ productionOwner ∨ directory.gid ≠ productionOwner ∨
    directory.mode ≠ 0o700 ∨ directory.nlink = 0) (.message "Mode 1 namespace directory metadata is not canonical")
  let (entries, records) ← inventoryNames sha256 ns maxNamespaceEntries 0 (order.val ns.files.keys)
  pure ⟨⟨directoryMetadata directory, sorted entries⟩, records.mergeSort fun a b => decide (a.name ≤ b.name)⟩

def isAuthoritative : NamespaceEntryClassification → Bool
  | .authoritative _ => true
  | _ => false

def validateReadinessInventory (inventory : NamespaceInventoryV1) : Check := do
  validateInventory inventory
  failIf (inventory.directory.path ≠ mode1NamespacePath ∨ inventory.directory.uid ≠ 0 ∨
    inventory.directory.gid ≠ 0 ∨ inventory.directory.mode ≠ 0o700 ∨ inventory.directory.nlink = 0)
    .invalidNamespaceInventory
  failIf (inventory.entries.any fun entry => !isAuthoritative entry.classification || entry.fileType != .regular ||
    entry.uid != 0 || entry.gid != 0 || entry.mode != 0o600 || entry.nlink != 1) .invalidNamespaceInventory

structure RecognizerIdentity where
  absolutePath : String
  sha256 : Sha256Digest
deriving DecidableEq

def RecognizerIdentity.validate (recognizer : RecognizerIdentity) : Check := do
  validateAbsolutePath recognizer.absolutePath "recognizer path"
  recognizer.sha256.validate

inductive KeyRecordCompatibility where
  | emptyNotApplicable
  | verified
deriving DecidableEq

structure ReadinessResult where
  «namespace» : NamespaceFingerprintV1
  recordCount : ℕ
  verifiedRecordCount : ℕ
  keyRecordCompatibility : KeyRecordCompatibility
  recognizer : Option RecognizerIdentity
  cachePopulationCount : ℕ
deriving DecidableEq

def ReadinessResult.validate (result : ReadinessResult) : Check := do
  result.namespace.validate
  failIf (result.recordCount ≠ result.namespace.entryCount ∨ result.verifiedRecordCount ≠
    result.namespace.entryCount ∨ result.cachePopulationCount ≠ 0 ∨
    ¬ (result.namespace.entryCount = 0 ↔ result.recognizer = none) ∨
    (result.namespace.entryCount = 0 ∧ result.keyRecordCompatibility ≠ .emptyNotApplicable) ∨
    (result.namespace.entryCount ≠ 0 ∧ result.keyRecordCompatibility ≠ .verified))
    (.invalidSchema "readiness result")
  checkSome RecognizerIdentity.validate result.recognizer

def ReadinessResult.newVerified (fingerprint : NamespaceFingerprintV1) (recognizer : Option RecognizerIdentity) :
    Except ProvisioningContractError ReadinessResult := do
  fingerprint.validate
  let result : ReadinessResult := ⟨fingerprint, fingerprint.entryCount, fingerprint.entryCount,
    if fingerprint.entryCount = 0 then .emptyNotApplicable else .verified, recognizer, 0⟩
  result.validate
  pure result

structure StrongRecognizerBinding where
  digest : ModelDigest
  identity : RecognizerIdentity
deriving DecidableEq

/-- `verify_authoritative_record`; it drops the record, which is returned here to be compared. Its permit is
released. -/
def verifyAuthoritativeRecord (gcm : Aes256Gcm) (config : HowyConfig) (key : Aes256Key) (recognizer : ModelDigest)
    (budget : PlaintextBudget) (record : AuthoritativeRecord) : Except ReadinessError EnrollmentRecord := do
  let header ← (inspectHowyenc1 record.file.contents).mapError .storage
  let _ ← (inspectHowyenc1Metadata (record.file.contents.take header.headerLength)
    record.file.contents.length .aeadCached
    config.security.keyEpoch record.username recognizer config.security.maxEmbeddingsPerUser.toNat
    config.security.maxRecordBytes.toNat).mapError .storage
  let estimate ← (PlaintextAllocationEstimate.forEncryptedHeader header).mapError .backend
  let _ ← (reserveOperation budget estimate.coldLoadPeakBytes).mapError .backend
  (decodeHowyenc1 gcm record.file.contents key .aeadCached config.security.keyEpoch record.username
    recognizer).mapError .storage

/-- `verify_mode1_namespace` on files that do not change, with nothing that fails and in time. The recognizer is
resolved only where there is a record. -/
def verifyMode1Namespace (gcm : Aes256Gcm) (config : HowyConfig) (key : Aes256Key) (ns : Namespace)
    (order : ListingOrder) (resolveRecognizer : Except ReadinessError StrongRecognizerBinding) :
    Except ReadinessError (ReadinessResult × List (CanonicalUsername × EnrollmentRecord)) := do
  failIf (config.security.embeddingMode ≠ .aeadCached ∨ config.security.keyEpoch ≠ 1)
    (.message "strong readiness requires configured Mode 1 epoch 1")
  let inventory ← inventoryMode1Namespace sha256 ns order
  let fingerprint ← contract (namespaceFingerprint sha256 inventory.logical)
  contract (validateReadinessInventory inventory.logical)
  if inventory.records = [] then
    let result ← contract (ReadinessResult.newVerified fingerprint none)
    pure (result, [])
  else
    let recognizer ← resolveRecognizer
    let budget ← (PlaintextBudget.new config.security.maxPlaintextBytes.toNat).mapError .backend
    let records ← inventory.records.mapM fun record =>
      (record.username, ·) <$> verifyAuthoritativeRecord gcm config key recognizer.digest budget record
    let result ← contract (ReadinessResult.newVerified fingerprint (some recognizer.identity))
    pure (result, records)

def validateDirectory (node : DirectoryNode) : BackendResult Unit :=
  failIf (¬ node.isDirectory ∨ node.uid ≠ productionOwner ∨ node.mode ≠ 0o700) (.io .inspect .permissionDenied)

/-- `open_directory_no_follow` of a path that exists: every step must be a directory, and the last one gets its
mode. -/
def openDirectoryNoFollow (above : List DirectoryNode) (node : DirectoryNode) : BackendResult DirectoryNode := do
  failIf (¬ (above ++ [node]).all (·.isDirectory)) (.io .open .other)
  let fixed := { node with mode := 0o700 }
  validateDirectory fixed
  pure fixed

def openStorageRoot (ns : Namespace) : BackendResult DirectoryNode := do
  let parent ← openDirectoryNoFollow ns.ancestors ns.parent
  validateDirectory parent
  let directory ← openDirectoryNoFollow (ns.ancestors ++ [parent]) ns.directory
  validateDirectory directory
  pure directory

end Howy.Daemon
