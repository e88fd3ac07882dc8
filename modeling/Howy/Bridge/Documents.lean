import Howy.Provisioning.Texts
import Howy.Daemon.Config

/-! The documents of the package bridge (journal, manifest and marker), the records in them and their
validation. -/

namespace Howy.Bridge

open Library Storage Provisioning Daemon

structure BridgeError where
  message : String
deriving DecidableEq

def refused (message : String) : BridgeError := ⟨message⟩

abbrev Check := Except BridgeError Unit

def legacySha256 : String := "c6ce9bfdf7e79dfa9ec85f3529a4a4400de8855da0d9488809ecbdf9966b1e01"
def legacySize : ℕ := 3740
def bootstrapSha256 : String := "45d544fb9261da2dc1f6ce1ec546f0889c4934ca19eb39921074513081421ca4"
def bootstrapSize : ℕ := 1381

def configPath : String := "/etc/howy/config.toml"
def stateDirectory : String := "/var/lib/howy/config-bridge"

def schemaVersion : ℕ := 2
def markerSchemaVersion : ℕ := 1
def releaseId : String := "release-n"
def maxConfigBytes : ℕ := 1048576
def maxControlBytes : ℕ := 262144
def maxConsumedGenerations : ℕ := 64
def configStagePrefix : String := ".howy-config-bridge-v2-"
def controlStagePrefix : String := ".howy-control-v2-"
def privateStagePrefix : String := ".howy-private-v2-"
def stashPrefix : String := "config-release-n.stash.g"

structure FileMetadata where
  uid : ℕ
  gid : ℕ
  permissions : ℕ
  linkCount : ℕ
  byteLength : ℕ
  accessSeconds : ℤ
  accessNanoseconds : ℕ
  modificationSeconds : ℤ
  modificationNanoseconds : ℕ
deriving DecidableEq

structure FileRecord where
  device : ℕ
  inode : ℕ
  sha256 : String
  metadata : FileMetadata
deriving DecidableEq

structure Snapshot where
  bytes : Bytes
  record : FileRecord

structure AbsenceRecord where
  parentDevice : ℕ
  parentInode : ℕ
deriving DecidableEq

inductive ConfigState where
  | absent (absence : AbsenceRecord)
  | present (file : FileRecord)
deriving DecidableEq

inductive GenerationState where
  | absent (absence : AbsenceRecord)
  | presentStashed (source : FileRecord) (stashPath stashSha256 : String) (stashSize : ℕ)
  | restored (captured : GenerationState) (restoredTarget : ConfigState) (restoreTransactionId : String)
  | consumedRefreshable (captured : GenerationState) (restoredTarget : ConfigState)
      (restoreTransactionId consumedByTransactionId : String)
deriving DecidableEq

structure GenerationRecord where
  generation : ℕ
  stashTransactionId : String
  state : GenerationState
deriving DecidableEq

structure StashManifest where
  schemaVersion : ℕ
  releaseId : String
  configPath : String
  active : GenerationRecord
  consumedGenerations : List GenerationRecord
deriving DecidableEq

structure BootstrapMarker where
  schemaVersion : ℕ
  releaseId : String
  transactionId : String
  generation : Option ℕ
  config : ConfigState
deriving DecidableEq

inductive BridgeJournal where
  | bootstrapReleaseN (schemaVersion : ℕ) (transactionId : String) (legacy : FileRecord) (configStageName : String)
  | stashReleaseN (schemaVersion : ℕ) (transactionId : String) (source : ConfigState)
      (previousManifest : Option FileRecord) (newManifest : StashManifest) (manifestStageName : String)
      (marker : Option FileRecord)
  | restoreReleaseN (schemaVersion : ℕ) (transactionId : String) (manifest : FileRecord) (generation : ℕ)
      (configStageName configBackupName manifestStageName : String)
deriving DecidableEq

def BridgeJournal.transactionId : BridgeJournal → String
  | bootstrapReleaseN _ transactionId _ _ => transactionId
  | stashReleaseN _ transactionId _ _ _ _ _ => transactionId
  | restoreReleaseN _ transactionId _ _ _ _ _ => transactionId

def validateTransactionId (transactionId : String) : Check :=
  require (isLowerHex transactionId 32) (refused "bridge transaction identity is invalid")

def validateSchemaAndTransaction (schema : ℕ) (transactionId : String) : Check := do
  require (schema = schemaVersion) (refused "bridge journal schema is unsupported")
  validateTransactionId transactionId

def validateStageName (name transactionId suffix : String) : Check :=
  require (name = configStagePrefix ++ transactionId ++ "-" ++ suffix)
    (refused "config stage name is not transaction-bound")

def validateControlStageName (name transactionId suffix : String) : Check :=
  require (name = controlStagePrefix ++ transactionId ++ "-" ++ suffix)
    (refused "control stage name is not transaction-bound")

def validateRecord (record : FileRecord) : Check :=
  require (record.device ≠ 0 ∧ record.inode ≠ 0 ∧ isLowerHex record.sha256 64 ∧ record.metadata.linkCount = 1 ∧
      record.metadata.permissions ≤ 0o7777 ∧ record.metadata.byteLength ≤ maxConfigBytes ∧
      record.metadata.accessNanoseconds ≤ 999999999 ∧ record.metadata.modificationNanoseconds ≤ 999999999)
    (refused "bridge file record is invalid")

def validateAbsenceRecord (absence : AbsenceRecord) : Check :=
  require (absence.parentDevice ≠ 0 ∧ absence.parentInode ≠ 0) (refused "absent config identity is invalid")

def validateConfigState : ConfigState → Check
  | .absent absence => validateAbsenceRecord absence
  | .present file => validateRecord file

def isAsciiDigit (b : UInt8) : Bool := decide (48 ≤ b) && decide (b ≤ 57)

def stashPathFromSource (path : String) : Check := do
  let start := utf8Bytes (stateDirectory ++ "/" ++ stashPrefix)
  require (start <+: utf8Bytes path) (refused "stash path is outside the generation namespace")
  let suffix := (utf8Bytes path).drop start.length
  require (suffix ≠ [] ∧ suffix.all isAsciiDigit = true) (refused "stash generation path is invalid")

def validatePresentCapture (source : FileRecord) (stashPath stashSha256 : String) (stashSize : ℕ) : Check := do
  validateRecord source
  stashPathFromSource stashPath
  require (stashSha256 = source.sha256 ∧ stashSize = source.metadata.byteLength)
    (refused "present stash generation is inconsistent")

def validateCapturedState : GenerationState → Check
  | .absent absence => validateAbsenceRecord absence
  | .presentStashed source stashPath stashSha256 stashSize =>
    validatePresentCapture source stashPath stashSha256 stashSize
  | _ => .error (refused "captured generation state is invalid")

def validateActiveGeneration : GenerationState → Check
  | .absent absence => validateAbsenceRecord absence
  | .presentStashed source stashPath stashSha256 stashSize =>
    validatePresentCapture source stashPath stashSha256 stashSize
  | .restored captured restoredTarget restoreTransactionId => do
    validateCapturedState captured
    validateConfigState restoredTarget
    validateTransactionId restoreTransactionId
  | .consumedRefreshable .. => .error (refused "active generation cannot be consumed-refreshable")

def validateConsumedGeneration : GenerationState → Check
  | .consumedRefreshable captured restoredTarget restoreTransactionId consumedByTransactionId => do
    validateCapturedState captured
    validateConfigState restoredTarget
    validateTransactionId restoreTransactionId
    validateTransactionId consumedByTransactionId
  | _ => .error (refused "history generation is not consumed-refreshable")

def validateConsumed (active : ℕ) : ℕ → List GenerationRecord → Check
  | _, [] => .ok ()
  | prior, generation :: rest => do
    require (generation.generation ≠ 0 ∧ generation.generation < active ∧ prior < generation.generation)
      (refused "release-N consumed generation ordering is invalid")
    validateTransactionId generation.stashTransactionId
    validateConsumedGeneration generation.state
    validateConsumed active generation.generation rest

def StashManifest.validate (manifest : StashManifest) : Check := do
  require (manifest.schemaVersion = Bridge.schemaVersion ∧ manifest.releaseId = Bridge.releaseId ∧
      manifest.configPath = Bridge.configPath ∧ manifest.active.generation ≠ 0 ∧
      manifest.consumedGenerations.length ≤ maxConsumedGenerations)
    (refused "release-N stash manifest header is invalid")
  validateTransactionId manifest.active.stashTransactionId
  validateActiveGeneration manifest.active.state
  validateConsumed manifest.active.generation 0 manifest.consumedGenerations

def BridgeJournal.validate : BridgeJournal → Check
  | bootstrapReleaseN schemaVersion transactionId legacy configStageName => do
    validateSchemaAndTransaction schemaVersion transactionId
    validateRecord legacy
    validateStageName configStageName transactionId "bootstrap"
  | stashReleaseN schemaVersion transactionId source previousManifest newManifest manifestStageName marker => do
    validateSchemaAndTransaction schemaVersion transactionId
    validateConfigState source
    checkSome validateRecord previousManifest
    newManifest.validate
    validateControlStageName manifestStageName transactionId "manifest"
    checkSome validateRecord marker
  | restoreReleaseN schemaVersion transactionId manifest generation configStageName configBackupName
      manifestStageName => do
    validateSchemaAndTransaction schemaVersion transactionId
    validateRecord manifest
    require (generation ≠ 0) (refused "restore journal generation is invalid")
    validateStageName configStageName transactionId "restore"
    validateStageName configBackupName transactionId "absent-backup"
    validateControlStageName manifestStageName transactionId "manifest"

def validateMarker (marker : BootstrapMarker) : Check := do
  require (marker.schemaVersion = markerSchemaVersion ∧ marker.releaseId = releaseId)
    (refused "bootstrap marker schema is invalid")
  validateTransactionId marker.transactionId
  require (marker.generation ≠ some 0) (refused "bootstrap marker generation is invalid")
  validateConfigState marker.config

def validateSafeCompletionState (state : ConfigState) (uid gid : ℕ) : Check :=
  match state with
  | .absent _ => .ok ()
  | .present file =>
    require (file.metadata.uid = uid ∧ file.metadata.gid = gid ∧ file.metadata.linkCount = 1 ∧
        file.metadata.byteLength ≤ maxConfigBytes)
      (refused "preserved config is not a root-owned single-link bounded regular file")

def validateStashConfigState : ConfigState → Check
  | .absent _ => .ok ()
  | .present file =>
    require (file.metadata.linkCount = 1 ∧ file.metadata.byteLength ≤ maxConfigBytes)
      (refused "configuration metadata is unsafe for an exact release-N stash")

def consumeRestoredGeneration (active : GenerationRecord) (transactionId : String) :
    Except BridgeError GenerationRecord :=
  match active.state with
  | .restored captured restoredTarget restoreTransactionId =>
    .ok ⟨active.generation, active.stashTransactionId,
      .consumedRefreshable captured restoredTarget restoreTransactionId transactionId⟩
  | _ => .error (refused "only a restored generation can be refreshed")

def restoredCapture : GenerationState → Except BridgeError GenerationState
  | .restored captured _ _ => .ok captured
  | _ => .error (refused "generation is not restored")

def restoredTransaction : GenerationState → Except BridgeError String
  | .restored _ _ restoreTransactionId => .ok restoreTransactionId
  | _ => .error (refused "generation is not restored")

def activePresent : GenerationState → Except BridgeError (String × String × ℕ)
  | .presentStashed _ stashPath stashSha256 stashSize => .ok (stashPath, stashSha256, stashSize)
  | _ => .error (refused "generation is not present-stashed")

def stashPath (generation : ℕ) : String := stateDirectory ++ "/" ++ stashPrefix ++ toString generation

/-- `u64::saturating_add`. -/
def nextGeneration (generation : ℕ) : ℕ := min (generation + 1) (2 ^ 64 - 1)

def logicallyMatches (left right : FileRecord) : Bool :=
  left.sha256 == right.sha256 && left.metadata.uid == right.metadata.uid &&
  left.metadata.gid == right.metadata.gid && left.metadata.permissions == right.metadata.permissions &&
  left.metadata.linkCount == right.metadata.linkCount && left.metadata.byteLength == right.metadata.byteLength &&
  left.metadata.modificationSeconds == right.metadata.modificationSeconds &&
  left.metadata.modificationNanoseconds == right.metadata.modificationNanoseconds

def sameObject (left right : FileRecord) : Bool :=
  left.device == right.device && left.inode == right.inode && logicallyMatches left right

def configStatesLogicallyMatch : ConfigState → ConfigState → Bool
  | .absent left, .absent right => left == right
  | .present left, .present right => logicallyMatches left right
  | _, _ => false

def configStatesExactMatch : ConfigState → ConfigState → Bool
  | .absent left, .absent right => left == right
  | .present left, .present right => sameObject left right
  | _, _ => false

/-- What the bridge takes from outside: the hash, the serializers and parsers of its documents, and the two
payloads it is compiled with. -/
structure Platform where
  sha256 : Sha256
  legacyBytes : Bytes
  bootstrapBytes : Bytes
  secureBootstrapTemplateToml : Bytes
  configFromToml : String → Option (Bool × HowyConfig)
  journalToVec : BridgeJournal → Bytes
  journalFromSlice : Bytes → Option BridgeJournal
  manifestToVec : StashManifest → Bytes
  manifestFromSlice : Bytes → Option StashManifest
  markerToVec : BootstrapMarker → Bytes
  markerFromSlice : Bytes → Option BootstrapMarker

def Platform.digest (P : Platform) (bytes : Bytes) : String := hexEncode (P.sha256 bytes).val

/-- Parsers take back what was written, with the newline after it, and nothing else hashes like the legacy
payload. -/
structure Platform.Lawful (P : Platform) : Prop where
  journal : ∀ journal, P.journalFromSlice (P.journalToVec journal ++ [10]) = some journal
  manifest : ∀ manifest, P.manifestFromSlice (P.manifestToVec manifest ++ [10]) = some manifest
  legacy : ∀ bytes, P.digest bytes = P.digest P.legacyBytes → bytes = P.legacyBytes

def serializeControl (bytes : Bytes) (label : String) : Except BridgeError Bytes := do
  require ((bytes ++ [10]).length ≤ maxControlBytes) (refused (label ++ " exceeds the control cap"))
  return bytes ++ [10]

def requireExactFile (snapshot : Snapshot) (uid gid mode size : ℕ) (hash label : String) : Check :=
  require (snapshot.record.metadata.uid = uid ∧ snapshot.record.metadata.gid = gid ∧
      snapshot.record.metadata.permissions = mode ∧ snapshot.record.metadata.linkCount = 1 ∧
      snapshot.record.metadata.byteLength = size ∧ snapshot.record.sha256 = hash)
    (refused (label ++ " bytes or metadata differ from the exact release-N contract"))

def requireControlFile (snapshot : Snapshot) (uid gid : ℕ) (label : String) : Check :=
  require (snapshot.record.metadata.uid = uid ∧ snapshot.record.metadata.gid = gid ∧
      snapshot.record.metadata.permissions = 0o600 ∧ snapshot.record.metadata.linkCount = 1)
    (refused (label ++ " metadata is unsafe"))

def requireExactLegacy (P : Platform) (snapshot : Snapshot) (uid gid : ℕ) (label : String) : Check := do
  requireExactFile snapshot uid gid 0o644 legacySize legacySha256 label
  require (snapshot.bytes = P.legacyBytes) (refused (label ++ " differs from the compiled release-N fixture"))

def requirePinnedLegacyRecord (record : FileRecord) (uid gid : ℕ) : Check := do
  validateRecord record
  require (record.sha256 = legacySha256 ∧ record.metadata.byteLength = legacySize ∧ record.metadata.uid = uid ∧
      record.metadata.gid = gid ∧ record.metadata.permissions = 0o644)
    (refused "bootstrap journal does not bind the pinned legacy payload")

def validateBootstrapSemantics (P : Platform) (bytes : Bytes) : Check := do
  require (bytes = P.bootstrapBytes ∧ P.digest bytes = bootstrapSha256 ∧ bytes.length = bootstrapSize)
    (refused "secure bootstrap hash is not pinned")
  match fromUtf8 bytes with
  | none => .error (refused "secure bootstrap is not UTF-8")
  | some source =>
    match P.configFromToml source with
    | none => .error (refused "secure bootstrap is invalid")
    | some (disabled, config) => do
      require (config.validate = .ok ()) (refused "secure bootstrap does not validate")
      require (disabled = true ∧ config.security.embeddingMode = .aeadCached ∧ config.security.keyEpoch = 1 ∧
          config.presence.mode = .confirm)
        (refused "secure bootstrap semantics are not disabled Mode1 epoch1 with prompt confirmation")
      require (P.secureBootstrapTemplateToml = bytes)
        (refused "secure bootstrap differs from the common generated template")

def exactBootstrap (P : Platform) (snapshot : Snapshot) (uid gid : ℕ) : Check := do
  requireExactFile snapshot uid gid 0o600 bootstrapSize bootstrapSha256 "installed secure bootstrap"
  validateBootstrapSemantics P snapshot.bytes

lemma requireExactLegacy_bytes {P : Platform} {snapshot : Snapshot} {uid gid : ℕ} {label : String}
    (h : requireExactLegacy P snapshot uid gid label = .ok ()) : snapshot.bytes = P.legacyBytes := by
  rw [requireExactLegacy, then_eq_ok, require_eq_ok] at h
  exact h.2

lemma sameObject_sha256 {left right : FileRecord} (h : sameObject left right) : left.sha256 = right.sha256 := by
  simp only [sameObject, logicallyMatches, Bool.and_eq_true, beq_iff_eq] at h
  exact h.2.1.1.1.1.1.1.1

end Howy.Bridge
