import Howy.Storage.Backend

/-! How the Mode 1 backend opens, inspects and decrypts the record of a user. -/

namespace Howy.Storage.Mode1

open Library

structure Mode1StorageLimits where
  maxEntries : ℕ
  maxPlaintextBytes : ℕ
  maxEntries_pos : 0 < maxEntries
  maxEntries_le : maxEntries ≤ Storage.maxEntries
  maxPlaintextBytes_pos : 0 < maxPlaintextBytes
  maxPlaintextBytes_le : maxPlaintextBytes ≤ Storage.maxPlaintextBytes

structure Mode1StorageBackend where
  gcm : Aes256Gcm
  key : Aes256Key
  keyEpoch : UInt64
  keyEpoch_ne_zero : keyEpoch ≠ 0
  recognizerModel : ModelDigest
  expectedOwner : ℕ
  limits : Mode1StorageLimits
  cacheLimits : ModelCacheLimits
  backendIdentity : FixedArray UInt8 32

def howyenc1MaxInspectionBytes : ℕ := howyenc1FixedHeader + 64
def howyenc1MaxRecordBytes : ℕ := howyenc1MaxInspectionBytes + maxPlaintextBytes + gcmTagBytes

def mapStorageError : StorageError → StorageBackendError
  | .bindingMismatch "storage mode" => .modeMismatch
  | .bindingMismatch "key epoch" => .keyMismatch
  | .bindingMismatch "recognizer model" => .modelMismatch
  | .authenticationFailed => .authenticationFailed
  | .generationOverflow => .generationOverflow
  | .allocationFailed _ => .unavailable
  | _ => .corrupt

def mapWriteStorageError : StorageError → StorageBackendError
  | .duplicateNonce | .nonceWriteLimitExceeded | .randomSource _ | .allocationFailed _ => .unavailable
  | .generationOverflow => .generationOverflow
  | _ => .invalidInput "record"

def mapMutationRecordError : StorageError → StorageBackendError
  | .generationOverflow => .generationOverflow
  | .allocationFailed _ => .unavailable
  | _ => .invalidInput "record"

def inspectHowyenc1Metadata (headerPrefix : Bytes) (exactSourceLength : ℕ) (expectedMode : StorageMode)
    (expectedKeyEpoch : UInt64) (expectedUsername : CanonicalUsername) (expectedModel : ModelDigest)
    (configuredMaxEntries configuredMaxPlaintextBytes : ℕ) : Except StorageError EncryptedHeader := do
  failIf (¬ (howyenc1FixedHeader ≤ headerPrefix.length ∧ headerPrefix.length ≤ howyenc1MaxInspectionBytes))
    (.invalidLength "HOWYENC1")
  failIf (configuredMaxEntries = 0 ∨ maxEntries < configuredMaxEntries) (.limitExceeded "entry count")
  failIf (configuredMaxPlaintextBytes = 0 ∨ maxPlaintextBytes < configuredMaxPlaintextBytes)
    (.limitExceeded "HOWYENC1 plaintext")
  let header ← inspectHowyenc1HeaderPrefix headerPrefix exactSourceLength
  failIf (headerPrefix.length ≠ header.headerLength) (.invalidLength "HOWYENC1")
  failIf (configuredMaxEntries < header.entryCount.toNat) (.limitExceeded "entry count")
  failIf (configuredMaxPlaintextBytes < header.plaintextLength) (.limitExceeded "HOWYENC1 plaintext")
  failIf (header.mode ≠ expectedMode) (.bindingMismatch "storage mode")
  failIf (header.keyEpoch ≠ expectedKeyEpoch) (.bindingMismatch "key epoch")
  failIf (header.username ≠ expectedUsername) (.bindingMismatch "username")
  failIf (header.recognizerModelSha256 ≠ expectedModel) (.bindingMismatch "recognizer model")
  pure header

structure InspectedRecord where
  file : FileNode
  header : EncryptedHeader
  exactLength : ℕ
  headerPrefix : Bytes
deriving DecidableEq

variable {D : Type} (backend : Mode1StorageBackend)

/-- `openat` without following links; the hook in front of it counts as an error of the call itself. -/
def openRecord (look : D → Option FileNode) : Op D (Except IoKind FileNode) :=
  query fun c s =>
    match c.hook .filesystem, c.fault, look s.disk with
    | some _, _, _ => .ok (.error .other)
    | none, some fault, _ => .ok (.error fault.kind)
    | none, none, none => .ok (.error .notFound)
    | none, none, some file => if file.kind = .symlink then .ok (.error .other) else .ok (.ok file)

def reading {α : Type} (operation : IoOperation) (x : BackendResult α) : Op D α :=
  query fun c _ =>
    match c.hook .filesystem, c.fault with
    | some e, _ => .error e
    | none, some fault => .error (.io operation fault.kind)
    | none, none => x

def isRecordFile (owner : ℕ) (file : FileNode) : Bool :=
  file.kind == .regular && file.uid == owner && file.mode == storageRecordMode && file.nlink == 1

def recordFileLength (file : FileNode) : BackendResult ℕ := do
  failIf (¬ isRecordFile backend.expectedOwner file) (.io .inspect .permissionDenied)
  let maximum ← invalid (do
    let bytes ← checkedAdd howyenc1FixedHeader 64
    let bytes ← checkedAdd bytes backend.limits.maxPlaintextBytes
    checkedAdd bytes 16) "record byte limit"
  failIf (file.contents.length < howyenc1FixedHeader + 1 + 16 ∨ maximum < file.contents.length) .corrupt
  pure file.contents.length

def validateRecordFile (file : FileNode) : Op D ℕ := reading .inspect (recordFileLength backend file)

def slice (file : FileNode) (offset amount : ℕ) : BackendResult Bytes :=
  if file.contents.length < offset + amount then .error .corrupt else .ok ((file.contents.drop offset).take amount)

/-- `read_exact_cancellable` at `offset`: its chunks together, since an open record never changes. -/
def readExact (cancellable : Bool) (file : FileNode) (offset amount : ℕ) : Op D Bytes := do
  checkCancelled cancellable
  reading .read (slice file offset amount)

def inspectMetadata (headerPrefix : Bytes) (exactLength : ℕ) (u : CanonicalUsername) :
    BackendResult EncryptedHeader :=
  (inspectHowyenc1Metadata headerPrefix exactLength .aeadCached backend.keyEpoch u backend.recognizerModel
    backend.limits.maxEntries backend.limits.maxPlaintextBytes).mapError mapStorageError

def inspectNamedRecord (look : D → Option FileNode) (u : CanonicalUsername) (cancellable : Bool) :
    Op D (Option InspectedRecord) := do
  match ← openRecord look with
  | .error .notFound => pure none
  | .error kind => throw (.io .open kind)
  | .ok file =>
    let exactLength ← validateRecordFile backend file
    let fixed ← readExact cancellable file 0 howyenc1FixedHeader
    let usernameLength := leValue ((fixed.drop 42).take 2)
    refuseIf (¬ (1 ≤ usernameLength ∧ usernameLength ≤ 64)) .corrupt
    tryReserve .unavailable
    let username ← readExact cancellable file howyenc1FixedHeader usernameLength
    let header ← fromExcept (inspectMetadata backend (fixed ++ username) exactLength u)
    pure (some ⟨file, header, exactLength, fixed ++ username⟩)

def readCompleteRecord (inspected : InspectedRecord) (cancellable : Bool) : Op D Bytes := do
  tryReserve .unavailable
  let rest ← readExact cancellable inspected.file inspected.headerPrefix.length
    (inspected.exactLength - inspected.header.headerLength)
  let bytes := inspected.headerPrefix ++ rest
  checkCancelled cancellable
  reading .read (if inspected.exactLength < inspected.file.contents.length then .error .corrupt else .ok ())
  checkCancelled cancellable
  let completeHeader ← fromExcept ((inspectHowyenc1 bytes).mapError mapStorageError)
  refuseIf (completeHeader ≠ inspected.header) .corrupt
  pure bytes

structure LoadedRecord where
  record : EnrollmentRecord
  permit : BudgetPermit
deriving DecidableEq

def decryptInspected (inspected : InspectedRecord) (u : CanonicalUsername) (permit : BudgetPermit)
    (cancellable : Bool) : Op D LoadedRecord := do
  let estimate ← fromExcept (PlaintextAllocationEstimate.forEncryptedHeader inspected.header)
  refuseIf (permit.owned = false ∨ permit.bytes < estimate.coldLoadPeakBytes)
    (.invalidInput "decrypt operation reservation")
  let bytes ← readCompleteRecord inspected cancellable
  checkCancelled cancellable
  hook .key
  hook .crypto
  let record ← fromExcept ((decodeHowyenc1 backend.gcm bytes backend.key .aeadCached backend.keyEpoch u
    backend.recognizerModel).mapError mapStorageError)
  checkCancelled cancellable
  pure ⟨record, permit⟩

def loadOptionalForMutation (u : CanonicalUsername) (inspected : Option InspectedRecord) (permit : BudgetPermit) :
    Op D (Option EnrollmentRecord) := do
  match inspected with
  | none => pure none
  | some inspected =>
    let loaded ← decryptInspected backend inspected u permit false
    pure (some loaded.record)

end Howy.Storage.Mode1
