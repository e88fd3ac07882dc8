import Howy.Bridge.Recovery

/-! The calls of the package bridge, and the runs they make with the package manager acting between them. -/

namespace Howy.Bridge

open Library
open Storage (NodeKind)

inductive BootstrapOutcome where
  | installed
  | restoredStash
  | verifiedUpgrade
deriving DecidableEq

inductive CreateOutcome where
  | created
  | occupied
deriving DecidableEq

inductive StashOutcome where
  | created
  | refreshed
  | alreadyExact
deriving DecidableEq

variable (B : ConfigBridge)

def requireIdentity : Op Unit :=
  fromExcept (require (B.requireEuidRoot = true → B.euid = 0)
    (refused "howy-config-bridge requires the real root identity"))

def openLock : Op Node :=
  action fun c s =>
    match c.fault, s.files.lookup lockFile with
    | some text, _ => (.error (lastError "permanent bridge lock open failed" text), s)
    | none, some node =>
      if node.kind = .symlink ∨ node.kind = .directory then
        (.error (lastError "permanent bridge lock open failed" isADirectory), s)
      else (.ok node, s)
    | none, none =>
      (.ok (newNode B c 0o600 1), { s with files := s.files.insert lockFile (newNode B c 0o600 1) })

/-- `held` when the bridge already has the lock. The wait for it either ends with it or fails. -/
def acquireLock (held : Bool) : Op Unit :=
  if held then pure ()
  else do
    let _ ← openDirectory B lockFile.directory
    let node ← openLock B
    fstat
    fromExcept (require (node.kind = .regular ∧ node.uid = B.expectedUid ∧ node.gid = B.expectedGid ∧
        node.permissions = 0o600 ∧ node.nlink = 1)
      (refused "permanent bridge lock metadata is unsafe"))
    system "permanent bridge lock acquisition failed"
    quietSystem "permanent bridge lock fsync failed"
    syncDirectory

def beginCall (held : Bool) : Op Unit := do
  requireIdentity B
  acquireLock B held

def restoreManifest (manifest : StashManifest) (manifestRecord : FileRecord) : Op BootstrapOutcome :=
  match manifest.active.state with
  | .restored .. => do
    let state ← verifyRestoredManifest B manifest
    let transaction ← fromExcept (restoredTransaction manifest.active.state)
    ensureMarker B transaction (some manifest.active.generation) state
    return .restoredStash
  | .consumedRefreshable .. => refuse "consumed generation cannot be the active restore generation"
  | _ => do
    if ← pathOccupied B markerFile then
      refuse "unrestored generation still has a bootstrap marker; refusing fail-open recovery"
    else do
      let transactionId ← newTransactionId
      writeJournal B (.restoreReleaseN schemaVersion transactionId manifestRecord manifest.active.generation
        (configStagePrefix ++ transactionId ++ "-restore") (configStagePrefix ++ transactionId ++ "-absent-backup")
        (controlStagePrefix ++ transactionId ++ "-manifest"))
      recoverLocked B true
      return .restoredStash

def installBootstrap (legacy : Snapshot) : Op BootstrapOutcome := do
  fromExcept (requireExactLegacy B.platform legacy B.expectedUid B.expectedGid "release-N legacy package payload")
  if ← pathOccupied B markerFile then
    refuse "fresh bootstrap marker unexpectedly exists; refusing an ambiguous install"
  else do
    let transactionId ← newTransactionId
    writeJournal B (.bootstrapReleaseN schemaVersion transactionId legacy.record
      (configStagePrefix ++ transactionId ++ "-bootstrap"))
    recoverLocked B true
    match ← readPath B configFile maxConfigBytes with
    | none => refuse "installed bootstrap disappeared"
    | some installed => do
      fromExcept (exactBootstrap B.platform installed B.expectedUid B.expectedGid)
      ensureMarker B transactionId none (.present installed.record)
      return .installed

def bootstrapReleaseN (held : Bool) : Op BootstrapOutcome := do
  beginCall B held
  recoverLocked B true
  match ← readManifest B with
  | some (manifest, snapshot) => restoreManifest B manifest snapshot.record
  | none => do
    let _ ← requireBootstrapSource B
    match ← readPath B configFile maxConfigBytes with
    | none => refuse "release-N legacy package payload is absent on fresh install"
    | some current =>
      if isExactBootstrap B current then do
        let transactionId ← newTransactionId
        ensureMarker B transactionId none (.present current.record)
        return .installed
      else installBootstrap B current

def completeReleaseN (held : Bool) : Op BootstrapOutcome := do
  beginCall B held
  recoverLocked B true
  match ← readManifest B with
  | some (manifest, snapshot) => restoreManifest B manifest snapshot.record
  | none => do
    let state ← snapshotConfigState B
    fromExcept (validateSafeCompletionState state B.expectedUid B.expectedGid)
    let transactionId ← newTransactionId
    ensureMarker B transactionId none state
    return .verifiedUpgrade

def createIfAbsent (held : Bool) : Op CreateOutcome := do
  beginCall B held
  recoverLocked B true
  let source ← requireBootstrapSource B
  let transactionId ← newTransactionId
  let _ ← openDirectory B configFile.directory
  match ← lookup configFile with
  | some _ => return .occupied
  | none => do
    match ← publishNoreplaceAt B configFile source.bytes B.expectedUid B.expectedGid 0o600 none transactionId
        "create" with
    | .occupied => return .occupied
    | .published snapshot => do
      syncDirectory
      fromExcept (exactBootstrap B.platform snapshot B.expectedUid B.expectedGid)
      return .created

def noteCapture : Op Unit :=
  action fun _ s =>
    match s.files.lookup configFile with
    | none => (.ok (), s)
    | some node => (.ok (), { s with captures := node :: s.captures })

def capturedState (source : ConfigState) (generation : ℕ) : GenerationState :=
  match source with
  | .absent absence => .absent absence
  | .present file => .presentStashed file (stashPath generation) file.sha256 file.metadata.byteLength

def consumedBy (transactionId : String) : Option (StashManifest × Snapshot) →
    Except BridgeError (List GenerationRecord)
  | none => .ok []
  | some (manifest, _) => do
    let consumed ← consumeRestoredGeneration manifest.active transactionId
    require (manifest.consumedGenerations.length < maxConsumedGenerations)
      (refused "release-N consumed generation limit reached; explicit review is required")
    return manifest.consumedGenerations ++ [consumed]

def newManifest (source : ConfigState) (existing : Option (StashManifest × Snapshot)) (transactionId : String) :
    Except BridgeError StashManifest := do
  let generation := match existing with
    | none => 1
    | some (manifest, _) => nextGeneration manifest.active.generation
  require (generation ≠ 0) (refused "stash generation overflow")
  let consumed ← consumedBy transactionId existing
  let manifest : StashManifest :=
    ⟨schemaVersion, releaseId, configPath, ⟨generation, transactionId, capturedState source generation⟩, consumed⟩
  manifest.validate
  return manifest

def stashNewGeneration (source : ConfigState) (existing : Option (StashManifest × Snapshot)) :
    Op StashOutcome := do
  let transactionId ← newTransactionId
  let manifest ← fromExcept (newManifest source existing transactionId)
  let marker ← readMarkerSnapshot B
  writeJournal B (.stashReleaseN schemaVersion transactionId source
    (existing.map fun pair => pair.2.record) manifest (controlStagePrefix ++ transactionId ++ "-manifest")
    (marker.map Snapshot.record))
  recoverLocked B true
  return if existing.isSome then .refreshed else .created

def stashReleaseN (held : Bool) : Op StashOutcome := do
  beginCall B held
  recoverLocked B false
  let source ← snapshotConfigState B
  noteCapture
  fromExcept (validateStashConfigState source)
  match ← readManifest B with
  | none => stashNewGeneration B source none
  | some (manifest, snapshot) =>
    match manifest.active.state with
    | .restored .. => stashNewGeneration B source (some (manifest, snapshot))
    | .consumedRefreshable .. => refuse "active stash generation cannot be consumed-only"
    | _ => do
      validateActiveCapture B manifest source
      if ← pathOccupied B markerFile then
        refuse "active stash generation unexpectedly retained a bootstrap marker"
      else return .alreadyExact

def recover (held : Bool) : Op Unit := do
  beginCall B held
  recoverLocked B true

def validateMarkerGeneration (marker : BootstrapMarker) : Option (StashManifest × Snapshot) → Check
  | none =>
    require (marker.generation = none) (refused "generated marker is missing its bridge manifest")
  | some (manifest, _) =>
    match marker.generation, manifest.active.state with
    | none, _ => .error (refused "generation-free marker conflicts with an active bridge manifest")
    | some generation, .restored _ restoredTarget restoreTransactionId =>
      require (manifest.active.generation = generation ∧ marker.transactionId = restoreTransactionId ∧
          configStatesExactMatch marker.config restoredTarget = true)
        (refused "package marker generation or restored-target binding is invalid")
    | some _, _ => .error (refused "generated marker manifest is not restored")

def validateCurrentMarkerStructureLocked : Op BootstrapMarker := do
  match ← readPath B journalFile maxControlBytes with
  | some journal => do
    let _ ← readJournal B journal
    refuse "active bridge journal blocks package marker validation"
  | none => do
    refuseOrphanStages B none
    match ← readMarkerSnapshot B with
    | none => refuse "package bootstrap marker is missing"
    | some snapshot =>
      match B.platform.markerFromSlice snapshot.bytes with
      | none => refuse "package bootstrap marker is malformed"
      | some marker => do
        fromExcept (validateMarker marker)
        fromExcept (validateMarkerGeneration marker (← readManifest B))
        return marker

def validateCurrentMarkerStructure (held : Bool) : Op Unit := do
  beginCall B held
  let _ ← validateCurrentMarkerStructureLocked B

def validateCurrentMarker (held : Bool) : Op Unit := do
  beginCall B held
  let marker ← validateCurrentMarkerStructureLocked B
  let live ← snapshotConfigState B
  fromExcept (validateSafeCompletionState live B.expectedUid B.expectedGid)
  fromExcept (require (configStatesExactMatch marker.config live = true)
    (refused "package bootstrap marker does not bind the current config identity"))

inductive Call where
  | bootstrapReleaseN
  | completeReleaseN
  | createIfAbsent
  | stashReleaseN
  | recover
deriving DecidableEq

def Call.program (call : Call) (held : Bool) : Op Unit :=
  match call with
  | .bootstrapReleaseN => do
    let _ ← Bridge.bootstrapReleaseN B held
  | .completeReleaseN => do
    let _ ← Bridge.completeReleaseN B held
  | .createIfAbsent => do
    let _ ← Bridge.createIfAbsent B held
  | .stashReleaseN => do
    let _ ← Bridge.stashReleaseN B held
  | .recover => Bridge.recover B held

def install (node : Node) (s : World) : World := { s with files := s.files.insert configFile node }

/-- The states that a run passes through: calls, each of which may have failing steps and stop after any step, and
the package manager between them. -/
inductive Reachable (s₀ : World) : World → Prop where
  | start : Reachable s₀ s₀
  | call {s s' : World} {q : Prog Choice World (Except BridgeError Unit)} (call : Call) (held : Bool)
      (hs : Reachable s₀ s) (h : Prog.Steps (fun _ => True) (call.program B held).run s q s') : Reachable s₀ s'
  | install {s : World} (node : Node) (hs : Reachable s₀ s) (hbytes : node.bytes = B.platform.legacyBytes)
      (hmade : node.made = false) : Reachable s₀ (install node s)

end Howy.Bridge
