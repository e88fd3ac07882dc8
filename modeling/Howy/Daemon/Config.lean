import Howy.Library.Checks
import Howy.Storage.Records

/-! The daemon configuration and what its validation accepts. -/

namespace Howy.Daemon

open Library Storage

inductive EmbeddingSecurityMode where
  | plaintext
  | aeadCached
  | aeadEphemeral
  | reservedFuture
deriving DecidableEq

structure CachedSecurityConfig where
  credentialName : String
  maxCachedUsers : UInt32
  maxCacheBytes : UInt64
deriving DecidableEq

structure EphemeralSecurityConfig where
  sealedKeyBlob : String
  keyDescription : String
  tpmParentHandle : String
deriving DecidableEq

structure SecurityConfig where
  embeddingMode : EmbeddingSecurityMode
  keyEpoch : UInt64
  maxEmbeddingsPerUser : UInt32
  maxRecordBytes : UInt64
  maxPlaintextBytes : UInt64
  cached : CachedSecurityConfig
  ephemeral : EphemeralSecurityConfig
deriving DecidableEq

inductive PresenceMode where
  | off
  | confirm
deriving DecidableEq

structure PresenceConfig where
  mode : PresenceMode
  allowedPamServices : List String
  promptTimeoutMs : UInt64
  commitToCameraMs : UInt64
  scanTimeoutMs : UInt64
  maxPendingPerUid : UInt32
  maxPendingGlobal : UInt32
deriving DecidableEq

/-- The thresholds are kept as the bits of their `f32`. -/
structure MlConfig where
  detThreshold : UInt32
  recognitionThreshold : UInt32
  detWidth : UInt32
  detHeight : UInt32
deriving DecidableEq

structure HowyConfig where
  ml : MlConfig
  enableCache : Bool
  cacheTtlSecs : UInt32
  videoTimeout : UInt32
  security : SecurityConfig
  presence : PresenceConfig
  logLevel : String
deriving DecidableEq

/-- `0.0 ≤ x ≤ 1.0` on the bits of an `f32`: the bits of 1.0 bound the positive ones, and -0.0 equals 0.0. -/
def inUnitInterval (bits : UInt32) : Bool := decide (bits ≤ 0x3f800000) || bits == 0x80000000

def isSafeAsciiName (value : String) (maxLen : ℕ) : Bool :=
  utf8Bytes value != [] && decide ((utf8Bytes value).length ≤ maxLen) &&
    (utf8Bytes value).all fun b => isAsciiAlphanumeric b || b == 46 || b == 95 || b == 45

def isAsciiHexdigit (b : UInt8) : Bool :=
  (decide (48 ≤ b) && decide (b ≤ 57)) || (decide (65 ≤ b) && decide (b ≤ 70)) ||
    (decide (97 ≤ b) && decide (b ≤ 102))

def validateTpmParentHandle (value : String) : Bool :=
  (utf8Bytes value).length == 10 && (utf8Bytes value).take 2 == utf8Bytes "0x" &&
    ((utf8Bytes value).drop 2).all isAsciiHexdigit && ((utf8Bytes value).drop 2).any (· != 48)

def validateServices (seen : List String) : List String → Except String Unit
  | [] => .ok ()
  | service :: services => do
    require (isSafeAsciiName service 64)
      ("presence.allowed_pam_services entries must be 1..=64 ASCII bytes using only " ++
      "A-Z, a-z, 0-9, '.', '_', or '-'")
    require (service ∉ seen) "presence.allowed_pam_services entries must be unique"
    validateServices (service :: seen) services

def SecurityConfig.validateLimits (security : SecurityConfig) : Except String Unit := do
  require (1 ≤ security.maxEmbeddingsPerUser ∧ security.maxEmbeddingsPerUser ≤ 1000)
    "security.max_embeddings_per_user must be in 1..=1000"
  require (4096 ≤ security.maxRecordBytes ∧ security.maxRecordBytes ≤ 2621440)
    "security.max_record_bytes must be in 4096..=2621440"
  require (security.maxRecordBytes ≤ security.maxPlaintextBytes ∧ security.maxPlaintextBytes ≤ 1073741824)
    "security.max_plaintext_bytes must be at least max_record_bytes and no greater than 1073741824"

def SecurityConfig.validateMode (security : SecurityConfig) : Except String Unit :=
  match security.embeddingMode with
  | .aeadCached => do
    require (1 ≤ security.cached.maxCachedUsers ∧ security.cached.maxCachedUsers ≤ 4096)
      "security.cached.max_cached_users must be in 1..=4096"
    require (security.maxRecordBytes ≤ security.cached.maxCacheBytes ∧
      security.cached.maxCacheBytes ≤ security.maxPlaintextBytes)
      ("security.cached.max_cache_bytes must be at least max_record_bytes and no greater than " ++
        "max_plaintext_bytes")
    require (isSafeAsciiName security.cached.credentialName 128)
      ("security.cached.credential_name must be 1..=128 ASCII bytes using only A-Z, a-z, 0-9, '.', '_', or '-'")
  | .aeadEphemeral => do
    require ((utf8Bytes security.ephemeral.sealedKeyBlob).head? = some 47)
      "security.ephemeral.sealed_key_blob must be an absolute path"
    require (utf8Bytes security.ephemeral.keyDescription ≠ [] ∧
      (utf8Bytes security.ephemeral.keyDescription).length ≤ 128 ∧
      (utf8Bytes security.ephemeral.keyDescription).all fun b => decide (32 ≤ b) && decide (b ≤ 126))
      ("security.ephemeral.key_description must be 1..=128 printable ASCII bytes without NUL or newline")
    require (validateTpmParentHandle security.ephemeral.tpmParentHandle)
      ("security.ephemeral.tpm_parent_handle must be nonzero and formatted as 0x followed by eight hex digits")
  | .plaintext | .reservedFuture => .ok ()

def PresenceConfig.validate (presence : PresenceConfig) : Except String Unit := do
  validateServices [] presence.allowedPamServices
  require (¬ (presence.mode = .confirm ∧ presence.allowedPamServices = []))
    "presence.allowed_pam_services must not be empty when presence.mode is confirm"
  require (1000 ≤ presence.promptTimeoutMs ∧ presence.promptTimeoutMs ≤ 300000)
    "presence.prompt_timeout_ms must be in 1000..=300000"
  require (100 ≤ presence.commitToCameraMs ∧ presence.commitToCameraMs ≤ 10000)
    "presence.commit_to_camera_ms must be in 100..=10000"
  require (100 ≤ presence.scanTimeoutMs ∧ presence.scanTimeoutMs ≤ 30000)
    "presence.scan_timeout_ms must be in 100..=30000"
  require (1 ≤ presence.maxPendingPerUid ∧ presence.maxPendingPerUid ≤ 16)
    "presence.max_pending_per_uid must be in 1..=16"
  require (presence.maxPendingPerUid ≤ presence.maxPendingGlobal ∧ presence.maxPendingGlobal ≤ 1024)
    "presence.max_pending_global must be at least max_pending_per_uid and no greater than 1024"

def HowyConfig.validate (config : HowyConfig) : Except String Unit := do
  require (inUnitInterval config.ml.detThreshold) "ml.det_threshold must be in 0.0..=1.0"
  require (inUnitInterval config.ml.recognitionThreshold) "ml.recognition_threshold must be in 0.0..=1.0"
  require (config.ml.detWidth ≠ 0) "ml.det_width must be > 0"
  require (config.ml.detHeight ≠ 0) "ml.det_height must be > 0"
  require (¬ (config.enableCache = true ∧ config.cacheTtlSecs = 0))
    "credentials.cache_ttl_secs must be > 0 when caching is enabled"
  require (config.videoTimeout ≠ 0) "video.timeout must be > 0"
  require (config.security.embeddingMode ≠ .reservedFuture)
    "security.embedding_mode 3 is reserved and unsupported in this release"
  require (¬ ((config.security.embeddingMode = .aeadCached ∨ config.security.embeddingMode = .aeadEphemeral) ∧
    config.security.keyEpoch = 0)) "security.key_epoch must be > 0 for encrypted modes"
  config.security.validateLimits
  config.security.validateMode
  config.presence.validate
  require (config.logLevel ∈ ["error", "warn", "info", "debug", "trace"])
    "debug.log_level must be one of: error, warn, info, debug, trace"

end Howy.Daemon
