import Howy.Daemon.Config
import Howy.Storage.Budget
import Howy.Storage.Mode1Records
import Howy.Storage.Plaintext

/-! How the daemon builds its storage backend from the configuration, and the calls of a backend that is otherwise
idle. -/

namespace Howy.Daemon

open Library Storage Howyenc1Exact Budget Mode1 Plaintext

def checkLimits {L : Type} (maxEntries maxBytes : ℕ)
    (limits : 0 < maxEntries → maxEntries ≤ Storage.maxEntries → 0 < maxBytes → maxBytes ≤ maxPlaintextBytes → L) :
    BackendResult L :=
  if he : maxEntries = 0 ∨ Storage.maxEntries < maxEntries then .error (.invalidInput "entry count limit")
  else if hb : maxBytes = 0 ∨ maxPlaintextBytes < maxBytes then .error (.invalidInput "record byte limit")
  else .ok (limits (by omega) (by omega) (by omega) (by omega))

def PlaintextStorageLimits.new (maxEntries : UInt32) (maxRecordBytes : UInt64) :
    BackendResult PlaintextStorageLimits :=
  checkLimits maxEntries.toNat maxRecordBytes.toNat fun h₁ h₂ h₃ h₄ => ⟨_, _, h₁, h₂, h₃, h₄⟩

def Mode1StorageLimits.new (maxEntries : UInt32) (maxPlaintextBytes : UInt64) :
    BackendResult Mode1StorageLimits :=
  checkLimits maxEntries.toNat maxPlaintextBytes.toNat fun h₁ h₂ h₃ h₄ => ⟨_, _, h₁, h₂, h₃, h₄⟩

def ModelCacheLimits.new (maxUsers : UInt32) (maxBytes : UInt64) : BackendResult ModelCacheLimits :=
  if hu : maxUsers.toNat = 0 then .error (.invalidInput "cache user limit")
  else if hb : maxBytes.toNat = 0 then .error (.invalidInput "cache byte limit")
  else .ok ⟨maxUsers.toNat, maxBytes.toNat, by omega, by omega, maxUsers.toNat_lt, maxBytes.toNat_lt⟩

inductive StartupKeyContext where
  | mode0
  | mode1 (key : Aes256Key) (backendIdentity : FixedArray UInt8 32)

structure StartupError where
  context : String
  cause : Option StorageBackendError
deriving DecidableEq

inductive StorageBackend where
  | plaintext (backend : PlaintextStorageBackend)
  | mode1 (backend : Mode1StorageBackend)

/-- The code outside the daemon: the cipher and the decoder of legacy sources. -/
structure Externals where
  gcm : Aes256Gcm
  legacy : LegacySourceEncoding → Bytes → CanonicalUsername → ModelDigest → ℕ →
    Except StorageError EnrollmentRecord

def withContext {α : Type} (x : BackendResult α) (context : String) : Except StartupError α :=
  x.mapError fun e => ⟨context, some e⟩

def required (model : Option ModelDigest) (context : String) : Except StartupError ModelDigest :=
  match model with
  | some digest => .ok digest
  | none => .error ⟨context, none⟩

def productionOwner : ℕ := 0

def PlaintextStorageBackend.production (externals : Externals) (recognizerModel : ModelDigest)
    (limits : PlaintextStorageLimits) (cacheLimits : ModelCacheLimits) :
    BackendResult PlaintextStorageBackend := do
  let estimate ← PlaintextAllocationEstimate.forPlaintextLimits limits.maxRecordBytes limits.maxEntries
  pure ⟨externals.legacy, productionOwner, recognizerModel, limits, estimate.peakBytes, cacheLimits⟩

def Mode1StorageBackend.production (externals : Externals) (key : Aes256Key)
    (backendIdentity : FixedArray UInt8 32)
    (recognizerModel : ModelDigest) (keyEpoch : UInt64) (limits : Mode1StorageLimits)
    (cacheLimits : ModelCacheLimits) :
    BackendResult Mode1StorageBackend :=
  if h : keyEpoch = 0 then .error (.invalidInput "key epoch")
  else .ok ⟨externals.gcm, key, keyEpoch, h, recognizerModel, productionOwner, limits, cacheLimits,
    backendIdentity⟩

def initializeStorageBackend (externals : Externals) (config : HowyConfig) (recognizerModel : Option ModelDigest)
    (keyContext : StartupKeyContext) : Except StartupError (StorageBackend × PlaintextBudget) :=
  match config.security.embeddingMode, keyContext with
  | .plaintext, .mode0 => do
    let digest ← required recognizerModel "plaintext storage requires a pinned recognizer model"
    let limits ← withContext
      (PlaintextStorageLimits.new config.security.maxEmbeddingsPerUser config.security.maxRecordBytes)
      "invalid plaintext storage limits"
    let budget ← withContext (PlaintextBudget.new config.security.maxPlaintextBytes.toNat)
      "invalid plaintext storage memory budget"
    -- the cache limits of mode 1, which only that mode validates
    let cacheLimits ← withContext
      (ModelCacheLimits.new config.security.cached.maxCachedUsers config.security.cached.maxCacheBytes)
      "invalid shared storage cache limits"
    let backend ← withContext (PlaintextStorageBackend.production externals digest limits cacheLimits)
      "failed to initialize plaintext storage backend"
    pure (.plaintext backend, budget)
  | .aeadCached, .mode1 key backendIdentity => do
    let digest ← required recognizerModel "mode 1 storage requires a pinned recognizer model"
    let limits ← withContext
      (Mode1StorageLimits.new config.security.maxEmbeddingsPerUser config.security.maxRecordBytes)
      "invalid mode 1 storage limits"
    let budget ← withContext (PlaintextBudget.new config.security.maxPlaintextBytes.toNat)
      "invalid mode 1 plaintext memory budget"
    let cacheLimits ← withContext
      (ModelCacheLimits.new config.security.cached.maxCachedUsers config.security.cached.maxCacheBytes)
      "invalid mode 1 cache limits"
    let backend ← withContext (Mode1StorageBackend.production externals key backendIdentity digest
      config.security.keyEpoch limits cacheLimits) "failed to initialize mode 1 cached AEAD storage backend"
    pure (.mode1 backend, budget)
  | .aeadEphemeral, _ => .error ⟨"embedding storage mode 2 is not implemented in this daemon build", none⟩
  | .reservedFuture, _ => .error ⟨"embedding storage mode 3 is reserved and unavailable", none⟩
  | _, _ => .error ⟨"storage startup key context does not match the configured mode", none⟩

def reserveOperation (budget : PlaintextBudget) (bytes : ℕ) : BackendResult BudgetPermit :=
  match (budget.reserve bytes).2 with
  | .refused e => .error e
  | _ => .ok ⟨bytes, true⟩

def Mode1StorageBackend.loadRecord (backend : Mode1StorageBackend) (budget : PlaintextBudget)
    (u : CanonicalUsername) (active : Option FileNode) : BackendResult LoadedRecord := do
  match ← inspectNode backend u active with
  | none => .error .absent
  | some inspected =>
    let estimate ← PlaintextAllocationEstimate.forEncryptedHeader inspected.header
    let permit ← reserveOperation budget estimate.coldLoadPeakBytes
    decryptFile backend u inspected.file inspected.header permit

def Mode1StorageBackend.authenticateCold (backend : Mode1StorageBackend) (budget : PlaintextBudget)
    (cache : CacheState) (u : CanonicalUsername) (active : Option FileNode) : BackendResult AuthModel := do
  let loaded ← Mode1StorageBackend.loadRecord backend budget u active
  failIf (loaded.record.entries = []) .absent
  let model ← AuthModel.fromRecord loaded.record
  let permit ← loaded.permit.shrinkTo model.plaintextBytes
  (cache.insert backend.cacheLimits u model permit.bytes).1

def PlaintextStorageBackend.authenticateCold (backend : PlaintextStorageBackend) (budget : PlaintextBudget)
    (cache : CacheState) (u : CanonicalUsername) (bin json : Option FileNode) : BackendResult AuthModel := do
  let operation ← reserveOperation budget backend.operationReservationBytes
  let loaded ← loadRecord backend u bin json
  failIf (loaded.record.entries = []) .absent
  let model ← AuthModel.fromRecord loaded.record
  let permit ← operation.shrinkTo model.plaintextBytes
  (cache.insert backend.cacheLimits u model permit.bytes).1

def authenticateWith (cold : CacheState → BackendResult AuthModel) (cache : CacheState)
    (u : CanonicalUsername) : BackendResult AuthModel :=
  match cache.get u with
  | (some lease, _) => .ok lease
  | (none, cache) =>
    match cache.get u with
    | (some lease, _) => .ok lease
    | (none, cache) => cold cache

structure UserFiles where
  record : Option FileNode
  json : Option FileNode
deriving DecidableEq

namespace StorageBackend

def authenticate (budget : PlaintextBudget) (cache : CacheState) (u : CanonicalUsername) (files : UserFiles) :
    StorageBackend → BackendResult AuthModel
  | plaintext backend =>
    authenticateWith (PlaintextStorageBackend.authenticateCold backend budget · u files.record files.json) cache u
  | mode1 backend =>
    authenticateWith (Mode1StorageBackend.authenticateCold backend budget · u files.record) cache u

/-- A record that an append of this backend builds, passing its limits, and the bytes it then writes. -/
inductive Appends : StorageBackend → EnrollmentRecord → Bytes → Prop
  | plaintext {backend : PlaintextStorageBackend} {request : AppendRequest}
      {loaded : Option DecodedPlaintextRecord} {record : EnrollmentRecord} {model : AuthModel} {bytes : Bytes}
      (prepared : Plaintext.prepareAppend backend request loaded = .ok (record, model))
      (encoded : encodeRecord backend record = .ok bytes) : Appends (.plaintext backend) record bytes
  | mode1 {backend : Mode1StorageBackend} {request : AppendRequest} {found : Option EnrollmentRecord}
      {nonce : GcmNonce} {inspected : Option InspectedRecord} {estimate : PlaintextAllocationEstimate}
      {generation : UInt64} {record : EnrollmentRecord} {bytes : Bytes}
      (agrees : inspected.map (·.header) = found.map (headerOf · .aeadCached backend.keyEpoch nonce))
      (estimated : appendEstimate backend inspected request.entries = .ok estimate)
      (next : found.elim (.ok 1) (fun r => checkedNextGeneration r.generation) = .ok generation)
      (built : EnrollmentRecord.new generation backend.recognizerModel request.username
        (found.elim [] (·.entries) ++ request.entries) = .ok record)
      (sealed : Seals backend record bytes) : Appends (.mode1 backend) record bytes

end StorageBackend

end Howy.Daemon
