import Howy.Bridge.FileSystem

/-! The journaled procedures of the package bridge and the recovery that re-enters them. -/

namespace Howy.Bridge

open Library Storage

variable (B : ConfigBridge)

def snapshotConfigState : Op ConfigState := do
  let parent ← openDirectory B configFile.directory
  match ← readRegular B configFile maxConfigBytes with
  | some snapshot => return .present snapshot.record
  | none =>
    match ← lookup configFile with
    | some _ => refuse "configuration path is occupied by an unsupported object"
    | none => do
      fstat
      return .absent ⟨parent.device, parent.inode⟩

def readNamed (path : String) (maximum : ℕ) : Op (Option Snapshot) :=
  match resolve path with
  | none => throw (lastError "no-follow bridge directory traversal failed" notFound)
  | some file => readPath B file maximum

def validateStashForGeneration (state : GenerationState) : Op Unit := do
  let (path, hash, size) ← fromExcept (activePresent state)
  match ← readNamed B path maxConfigBytes with
  | none => refuse "generation stash is absent"
  | some stash => do
    fromExcept (requireControlFile stash B.expectedUid B.expectedGid "release-N stash")
    fromExcept (require (stash.record.sha256 = hash ∧ stash.record.metadata.byteLength = size)
      (refused "generation stash does not match its manifest"))

def validateManifestStash : GenerationState → Op Unit
  | .presentStashed source path hash size => validateStashForGeneration B (.presentStashed source path hash size)
  | .restored (.presentStashed source path hash size) _ _ =>
    validateStashForGeneration B (.presentStashed source path hash size)
  | _ => pure ()

def readManifest : Op (Option (StashManifest × Snapshot)) := do
  match ← readPath B manifestFile maxControlBytes with
  | none => return none
  | some snapshot => do
    fromExcept (requireControlFile snapshot B.expectedUid B.expectedGid "release-N stash manifest")
    match B.platform.manifestFromSlice snapshot.bytes with
    | none => refuse "release-N stash manifest is invalid"
    | some manifest => do
      fromExcept manifest.validate
      validateManifestStash B manifest.active.state
      return some (manifest, snapshot)

def readMarkerSnapshot : Op (Option Snapshot) := do
  match ← readPath B markerFile maxControlBytes with
  | none => return none
  | some snapshot => do
    fromExcept (requireControlFile snapshot B.expectedUid B.expectedGid "package bootstrap marker")
    return some snapshot

def requireBootstrapSource : Op Snapshot := do
  match ← readPath B bootstrapFile maxConfigBytes with
  | none => refuse "secure bootstrap source is absent"
  | some source => do
    fromExcept (requireExactFile source B.expectedUid B.expectedGid 0o644 bootstrapSize bootstrapSha256
      "secure bootstrap source")
    fromExcept (validateBootstrapSemantics B.platform source.bytes)
    return source

def publishMarker (transactionId : String) (bytes : Bytes) : Op Unit := do
  let _ ← openDirectory B markerFile.directory
  match ← publishNoreplaceAt B markerFile bytes B.expectedUid B.expectedGid 0o600 none transactionId "marker" with
  | .occupied => refuse "bootstrap marker became occupied during publication"
  | .published _ => syncDirectory

def ensureMarker (transactionId : String) (generation : Option ℕ) (state : ConfigState) : Op Unit := do
  fromExcept (validateConfigState state)
  let bytes ← fromExcept (serializeControl
    (B.platform.markerToVec ⟨markerSchemaVersion, releaseId, transactionId, generation, state⟩) "bootstrap marker")
  match ← readMarkerSnapshot B with
  | none => publishMarker B transactionId bytes
  | some existing =>
    match B.platform.markerFromSlice existing.bytes with
    | none => refuse "unknown bootstrap marker was retained"
    | some parsed => do
      fromExcept (validateMarker parsed)
      if parsed.generation = generation ∧ configStatesExactMatch parsed.config state = true then
        pure ()
      else do
        let _ ← openDirectory B markerFile.directory
        removeExact B markerFile existing.record
        syncDirectory
        publishMarker B transactionId bytes

def writeJournal (journal : BridgeJournal) : Op Unit := do
  fromExcept journal.validate
  if ← pathOccupied B journalFile then
    refuse "bridge journal appeared after recovery"
  else do
    let bytes ← fromExcept (serializeControl (B.platform.journalToVec journal) "bridge journal")
    let _ ← openDirectory B journalFile.directory
    match ← publishNoreplaceAt B journalFile bytes B.expectedUid B.expectedGid 0o600 none journal.transactionId
        "journal" with
    | .occupied => refuse "bridge journal became occupied"
    | .published _ => syncDirectory

def removeJournal (expected : FileRecord) : Op Unit := do
  let _ ← openDirectory B journalFile.directory
  removeExact B journalFile expected
  syncDirectory

def ensureStashFile (stashPath : String) (source : Snapshot) (transactionId : String) : Op Unit := do
  match ← readNamed B stashPath maxConfigBytes with
  | some existing => do
    fromExcept (requireControlFile existing B.expectedUid B.expectedGid "release-N stash")
    fromExcept (require (existing.bytes = source.bytes)
      (refused "generation stash path contains conflicting bytes"))
  | none =>
    match resolve stashPath with
    | none => throw (lastError "no-follow bridge directory traversal failed" notFound)
    | some file => do
      let _ ← openDirectory B file.directory
      match ← publishNoreplaceAt B file source.bytes B.expectedUid B.expectedGid 0o600
        none transactionId "stash" with
      | .occupied => refuse "generation stash path became occupied"
      | .published _ => syncDirectory

def publishManifest (newBytes : Bytes) (transactionId : String) : Op Unit := do
  match ← publishNoreplaceAt B manifestFile newBytes B.expectedUid B.expectedGid 0o600 none transactionId
      "manifest" with
  | .occupied => refuse "manifest appeared during no-replace publication"
  | .published _ => syncDirectory

def manifestStage (stageFile : Path) (stage : Option Snapshot) (newBytes : Bytes) (transactionId : String) :
    Op Snapshot :=
  match stage with
  | some staged => pure staged
  | none => do
    match ← publishNoreplaceAt B stageFile newBytes B.expectedUid B.expectedGid 0o600 none transactionId
        "manifest-stage" with
    | .occupied => refuse "manifest stage became occupied"
    | .published staged => do
      syncDirectory
      return staged

def removeManifestBackup (stageFile : Path) (old : FileRecord) : Op Unit := do
  removeExact B stageFile old
  syncDirectory

def exchangeManifest (stageFile : Path) (old : FileRecord) (newBytes : Bytes) : Op Unit := do
  renameExchange stageFile manifestFile
  syncDirectory
  let current ← readRegular B manifestFile maxControlBytes
  let stage ← readRegular B stageFile maxControlBytes
  fromExcept (require (current.any (fun value => decide (value.bytes = newBytes)) = true ∧
      stage.any (fun value => sameObject value.record old) = true)
    (refused "manifest exchange did not produce exact recoverable identities"))
  removeManifestBackup B stageFile old

def replaceManifest (old : Option FileRecord) (newBytes : Bytes) (stageName transactionId : String) : Op Unit := do
  let _ ← openDirectory B manifestFile.directory
  let stageFile : Path := ⟨.state, utf8Bytes stageName⟩
  let current ← readRegular B manifestFile maxControlBytes
  let stage ← readRegular B stageFile maxControlBytes
  let currentIsNew := current.any fun value =>
    decide (requireControlFile value B.expectedUid B.expectedGid "stash manifest" = .ok ()) &&
    decide (value.bytes = newBytes)
  match old with
  | none =>
    match current with
    | none => publishManifest B newBytes transactionId
    | some _ => if currentIsNew then pure () else refuse "unexpected existing manifest was retained"
  | some old =>
    if currentIsNew then
      match stage with
      | none => pure ()
      | some stage => do
        fromExcept (require (sameObject stage.record old = true)
          (refused "manifest backup identity is unknown and was retained"))
        removeManifestBackup B stageFile old
    else do
      fromExcept (require (current.any (fun value => sameObject value.record old) = true)
        (refused "manifest replacement target identity changed"))
      let staged ← manifestStage B stageFile stage newBytes transactionId
      fromExcept (require (staged.bytes = newBytes) (refused "manifest stage has unknown bytes and was retained"))
      exchangeManifest B stageFile old newBytes

def verifyConfigStateIdentity (expected : ConfigState) : Op Unit := do
  let live ← snapshotConfigState B
  fromExcept (require (configStatesExactMatch expected live = true)
    (refused "configuration changed while completing the journaled operation"))

def validateActiveCapture (manifest : StashManifest) (live : ConfigState) : Op Unit :=
  match manifest.active.state, live with
  | .absent absence, .absent current =>
    fromExcept (require (absence = current)
      (refused "active stash generation conflicts with the current configuration"))
  | .presentStashed source path hash size, .present file => do
    fromExcept (require (logicallyMatches source file = true)
      (refused "active stash generation conflicts with the current configuration"))
    validateStashForGeneration B (.presentStashed source path hash size)
  | _, _ => refuse "active stash generation conflicts with the current configuration"

def verifyRestoredManifest (manifest : StashManifest) : Op ConfigState :=
  match manifest.active.state with
  | .restored captured restoredTarget _ => do
    let live ← snapshotConfigState B
    match captured, live with
    | .absent _, .absent _ => pure ()
    | .absent _, .present _ => refuse "restored absent generation is now occupied"
    | .presentStashed source _ _ _, .present file =>
      fromExcept (require (logicallyMatches file source = true)
        (refused "restored present generation no longer matches captured config"))
    | .presentStashed _ _ _ _, .absent _ => refuse "restored present generation no longer matches captured config"
    | _, _ => refuse "restored generation has an invalid captured state"
    fromExcept (require (configStatesLogicallyMatch live restoredTarget = true)
      (refused "restored target identity differs from the committed manifest"))
    return live
  | _ => refuse "active generation is not restored"

def bootstrapStage (stageFile : Path) (legacy : FileRecord) (source : Snapshot) (target stage : Option Snapshot) :
    Op (Option Snapshot) :=
  if target.any (fun value => sameObject value.record legacy) = true ∧ stage.isNone = true then do
    let staged ← createExclusive B stageFile source.bytes B.expectedUid B.expectedGid 0o600 none
    syncDirectory
    return some staged
  else pure stage

def isExactBootstrap (snapshot : Snapshot) : Bool :=
  decide (exactBootstrap B.platform snapshot B.expectedUid B.expectedGid = .ok ())

def exchangeBootstrap (stageFile : Path) (legacy : FileRecord) (target stage : Option Snapshot) :
    Op (Option Snapshot × Option Snapshot) :=
  if target.any (fun value => sameObject value.record legacy) = true ∧
    stage.any (isExactBootstrap B) = true then do
    renameExchange stageFile configFile
    syncDirectory
    let target ← readRegular B configFile maxConfigBytes
    let stage ← readRegular B stageFile maxConfigBytes
    return (target, stage)
  else pure (target, stage)

def recoverBootstrap (legacy : FileRecord) (stageName : String) : Op Unit := do
  fromExcept (requirePinnedLegacyRecord legacy B.expectedUid B.expectedGid)
  let source ← requireBootstrapSource B
  let _ ← openDirectory B configFile.directory
  let stageFile : Path := ⟨.etcHowy, utf8Bytes stageName⟩
  let target ← readRegular B configFile maxConfigBytes
  let stage ← readRegular B stageFile maxConfigBytes
  let stage ← bootstrapStage B stageFile legacy source target stage
  let (target, stage) ← exchangeBootstrap B stageFile legacy target stage
  fromExcept (require (target.any (isExactBootstrap B) = true)
    (refused "bootstrap recovery observed an unknown target or stage; all objects were retained"))
  match stage with
  | none => syncDirectory
  | some stage => do
    fromExcept (require (sameObject stage.record legacy = true)
      (refused "bootstrap recovery observed an unknown target or stage; all objects were retained"))
    removeExact B stageFile legacy
    syncDirectory

def stashCaptured (transactionId : String) (newManifest : StashManifest) (file : FileRecord) : Op Unit := do
  let (path, expectedHash, expectedSize) ← fromExcept (activePresent newManifest.active.state)
  fromExcept (require (expectedHash = file.sha256 ∧ expectedSize = file.metadata.byteLength)
    (refused "stash manifest does not bind the captured configuration"))
  match ← readPath B configFile maxConfigBytes with
  | none => refuse "captured config disappeared"
  | some live => ensureStashFile B path live transactionId

def removeStashedMarker (marker : Option FileRecord) : Op Unit := do
  match marker, ← readMarkerSnapshot B with
  | some expected, some current => do
    fromExcept (require (sameObject expected current.record = true)
      (refused "bootstrap marker identity changed during stash; it was retained"))
    let _ ← openDirectory B markerFile.directory
    removeExact B markerFile expected
    syncDirectory
  | _, none => pure ()
  | none, some _ => refuse "bootstrap marker identity changed during stash; it was retained"

def recoverStash (transactionId : String) (source : ConfigState) (previousManifest : Option FileRecord)
    (newManifest : StashManifest) (manifestStageName : String) (marker : Option FileRecord) : Op Unit := do
  verifyConfigStateIdentity B source
  fromExcept (require (newManifest.active.stashTransactionId = transactionId)
    (refused "stash journal and active generation transaction differ"))
  match source with
  | .present file => stashCaptured B transactionId newManifest file
  | .absent _ => pure ()
  let bytes ← fromExcept (serializeControl (B.platform.manifestToVec newManifest) "stash manifest")
  replaceManifest B previousManifest bytes manifestStageName transactionId
  removeStashedMarker B marker

def validateAbsenceParent (parent : DirectoryStat) (absence : AbsenceRecord) : Op Unit := do
  fstat
  fromExcept (require (parent.device = absence.parentDevice ∧ parent.inode = absence.parentInode)
    (refused "absent config parent identity changed"))

def isExactLegacy (label : String) (snapshot : Snapshot) : Bool :=
  decide (requireExactLegacy B.platform snapshot B.expectedUid B.expectedGid label = .ok ())

def backUpAbsentTarget (backupFile : Path) (target backup : Option Snapshot) : Op Unit :=
  match target, backup with
  | none, none => pure ()
  | some target, none =>
    if isExactLegacy B "variant-installed payload" target then do
      renameNoReplace configFile backupFile
      syncDirectory
    else refuse "absent stash accepts only an absent target or exact packaged legacy payload"
  | none, some backup =>
    if isExactLegacy B "journal-owned absent restore backup" backup then pure ()
    else refuse "absent stash accepts only an absent target or exact packaged legacy payload"
  | some _, some _ => refuse "absent stash accepts only an absent target or exact packaged legacy payload"

def removeLegacy (file : Path) (label : String) (snapshot : Snapshot) : Op Unit := do
  fromExcept (requireExactLegacy B.platform snapshot B.expectedUid B.expectedGid label)
  removeExact B file snapshot.record
  syncDirectory

def requireAbsent (absence : AbsenceRecord) : Op ConfigState := do
  match ← lookup configFile with
  | some _ => refuse "absent restore target reappeared after transactional removal"
  | none => return .absent absence

def removeBackup (backupFile : Path) : Option Snapshot → Op Unit
  | none => pure ()
  | some backup => removeLegacy B backupFile "journal-owned absent restore backup" backup

def restoreAbsent (absence : AbsenceRecord) (backupName : String) : Op ConfigState := do
  let parent ← openDirectory B configFile.directory
  validateAbsenceParent parent absence
  let backupFile : Path := ⟨.etcHowy, utf8Bytes backupName⟩
  let target ← readRegular B configFile maxConfigBytes
  let backup ← readRegular B backupFile maxConfigBytes
  backUpAbsentTarget B backupFile target backup
  let backup ← readRegular B backupFile maxConfigBytes
  removeBackup B backupFile backup
  requireAbsent absence

def restoreStage (stageFile : Path) (stage : Option Snapshot) (stash : Snapshot) (source : FileRecord) :
    Op Snapshot :=
  match stage with
  | some staged => pure staged
  | none => do
    let staged ← createExclusive B stageFile stash.bytes source.metadata.uid source.metadata.gid
      source.metadata.permissions (some source.metadata)
    syncDirectory
    return staged

def exchangeRestore (stageFile : Path) (target : Snapshot) (stage : Option Snapshot) (stash : Snapshot)
    (source : FileRecord) : Op (Option Snapshot × Option Snapshot) := do
  fromExcept (requireExactLegacy B.platform target B.expectedUid B.expectedGid "variant-installed payload")
  let staged ← restoreStage B stageFile stage stash source
  fromExcept (require (logicallyMatches staged.record source = true)
    (refused "restore stage does not match captured metadata"))
  renameExchange stageFile configFile
  syncDirectory
  let target ← readRegular B configFile maxConfigBytes
  let stage ← readRegular B stageFile maxConfigBytes
  return (target, stage)

def publishRestored (stash : Snapshot) (source : FileRecord) (transactionId : String) : Op (Option Snapshot) := do
  match ← publishNoreplaceAt B configFile stash.bytes source.metadata.uid source.metadata.gid
      source.metadata.permissions (some source.metadata) transactionId "restore-target" with
  | .occupied => refuse "restore target became occupied during no-replace publication"
  | .published _ => do
    syncDirectory
    readRegular B configFile maxConfigBytes

def exchangedLegacy : String := "journal-owned exchanged legacy payload"

def finalTarget : Option Snapshot → Op (Option Snapshot)
  | some target => pure (some target)
  | none => do
    match ← ExceptT.lift (readRegular B configFile maxConfigBytes).run with
    | .ok found => pure found
    | .error _ => pure none

def requireRestored (source : FileRecord) : Option Snapshot → Op ConfigState
  | none => refuse "restored target is absent"
  | some target => do
    fromExcept (require (logicallyMatches target.record source = true)
      (refused "present stash target is neither exact stashed bytes nor a safe restore result"))
    return .present target.record

def removeExchanged (stageFile : Path) : Option Snapshot → Op Unit
  | none => pure ()
  | some stage => removeLegacy B stageFile exchangedLegacy stage

def finishRestore (stageFile : Path) (target stage : Option Snapshot) (source : FileRecord) : Op ConfigState := do
  removeExchanged B stageFile stage
  let target ← finalTarget B target
  requireRestored source target

def readRestoreStash (source : FileRecord) (stashPath stashSha256 : String) (stashSize : ℕ) : Op Snapshot := do
  match ← readNamed B stashPath maxConfigBytes with
  | none => refuse "release-N stash file is absent"
  | some stash => do
    fromExcept (requireControlFile stash B.expectedUid B.expectedGid "release-N stash")
    fromExcept (require (stash.record.sha256 = stashSha256 ∧ stash.record.metadata.byteLength = stashSize ∧
        stash.bytes.length = source.metadata.byteLength ∧ B.platform.digest stash.bytes = source.sha256)
      (refused "release-N stash bytes differ from the exact captured source"))
    return stash

def restorePresent (source : FileRecord) (stashPath stashSha256 : String) (stashSize : ℕ)
    (stageName transactionId : String) : Op ConfigState := do
  let stash ← readRestoreStash B source stashPath stashSha256 stashSize
  let _ ← openDirectory B configFile.directory
  let stageFile : Path := ⟨.etcHowy, utf8Bytes stageName⟩
  let target ← readRegular B configFile maxConfigBytes
  let stage ← readRegular B stageFile maxConfigBytes
  match target, stage with
  | some current, stage =>
    if logicallyMatches current.record source = true then do
      removeExchanged B stageFile stage
      return .present current.record
    else do
      let (target, stage) ← exchangeRestore B stageFile current stage stash source
      finishRestore B stageFile target stage source
  | none, none => do
    let target ← publishRestored B stash source transactionId
    finishRestore B stageFile target none source
  | none, some stage => finishRestore B stageFile none (some stage) source

def restoreConfigState (captured : GenerationState) (stageName backupName transactionId : String) :
    Op ConfigState :=
  match captured with
  | .absent absence => restoreAbsent B absence backupName
  | .presentStashed source stashPath stashSha256 stashSize =>
    restorePresent B source stashPath stashSha256 stashSize stageName transactionId
  | _ => refuse "only absent or present-stashed generations can be restored"

def isRestoredBy (transactionId : String) : GenerationState → Bool
  | .restored _ _ restoreTransactionId => restoreTransactionId == transactionId
  | _ => false

def withRestored (manifest : StashManifest) (captured : GenerationState) (state : ConfigState)
    (transactionId : String) : StashManifest :=
  { manifest with active := { manifest.active with state := .restored captured state transactionId } }

def commitRestored (manifest : StashManifest) (restoredAlready : Bool) (captured : GenerationState)
    (state : ConfigState) (transactionId : String) (oldManifest : FileRecord) (manifestStageName : String) :
    Op Unit := do
  if restoredAlready then do
    let bytes ← fromExcept (serializeControl (B.platform.manifestToVec manifest) "restored manifest")
    replaceManifest B (some oldManifest) bytes manifestStageName transactionId
  else do
    let restored := withRestored manifest captured state transactionId
    fromExcept restored.validate
    let bytes ← fromExcept (serializeControl (B.platform.manifestToVec restored) "restored manifest")
    replaceManifest B (some oldManifest) bytes manifestStageName transactionId

def captureToRestore (restoredAlready : Bool) (state : GenerationState) : Except BridgeError GenerationState :=
  if restoredAlready then restoredCapture state else .ok state

def verifyCommitted : Op ConfigState := do
  match ← readManifest B with
  | none => refuse "restored manifest disappeared"
  | some (final, _) => verifyRestoredManifest B final

def recoverRestore (transactionId : String) (oldManifest : FileRecord) (generation : ℕ)
    (configStageName configBackupName manifestStageName : String) : Op ConfigState := do
  match ← readManifest B with
  | none => refuse "restore lost its durable manifest"
  | some (manifest, snapshot) => do
    fromExcept (require (manifest.active.generation = generation)
      (refused "restore generation changed unexpectedly"))
    let restoredAlready := isRestoredBy transactionId manifest.active.state
    fromExcept (require (restoredAlready = true ∨ sameObject snapshot.record oldManifest = true)
      (refused "restore manifest identity changed; controls were retained"))
    let captured ← fromExcept (captureToRestore restoredAlready manifest.active.state)
    let state ← restoreConfigState B captured configStageName configBackupName transactionId
    commitRestored B manifest restoredAlready captured state transactionId oldManifest manifestStageName
    verifyCommitted B

abbrev PostMarker := Option (String × Option ℕ × ConfigState)

def recoverJournal : BridgeJournal → Op PostMarker
  | .bootstrapReleaseN _ transactionId legacy configStageName => do
    recoverBootstrap B legacy configStageName
    match ← readPath B configFile maxConfigBytes with
    | none => refuse "recovered bootstrap disappeared"
    | some current => do
      fromExcept (exactBootstrap B.platform current B.expectedUid B.expectedGid)
      return some (transactionId, none, .present current.record)
  | .stashReleaseN _ transactionId source previousManifest newManifest manifestStageName marker => do
    recoverStash B transactionId source previousManifest newManifest manifestStageName marker
    return none
  | .restoreReleaseN _ transactionId manifest generation configStageName configBackupName manifestStageName => do
    let state ← recoverRestore B transactionId manifest generation configStageName configBackupName
      manifestStageName
    return some (transactionId, some generation, state)

def setPostMarker : PostMarker → Op Unit
  | none => pure ()
  | some (transactionId, generation, state) => ensureMarker B transactionId generation state

def revalidateRestored : Op Unit := do
  match ← readManifest B with
  | none => pure ()
  | some (manifest, _) =>
    match manifest.active.state with
    | .restored .. => do
      let state ← verifyRestoredManifest B manifest
      let transaction ← fromExcept (restoredTransaction manifest.active.state)
      ensureMarker B transaction (some manifest.active.generation) state
    | _ => pure ()

def finishJournal (snapshot : Snapshot) (journal : BridgeJournal) : Op Unit := do
  let postMarker ← recoverJournal B journal
  removeJournal B snapshot.record
  setPostMarker B postMarker
  refuseOrphanStages B none

def readJournal (snapshot : Snapshot) : Op BridgeJournal := do
  fromExcept (requireControlFile snapshot B.expectedUid B.expectedGid "bridge journal")
  match B.platform.journalFromSlice snapshot.bytes with
  | none => refuse "bridge journal is not the strict v2 schema"
  | some journal => do
    fromExcept journal.validate
    return journal

def recoverLocked (revalidate : Bool) : Op Unit := do
  match ← readPath B journalFile maxControlBytes with
  | none => do
    refuseOrphanStages B none
    if revalidate then revalidateRestored B
  | some snapshot => do
    let journal ← readJournal B snapshot
    refuseOrphanStages B (some journal.transactionId)
    finishJournal B snapshot journal

end Howy.Bridge
