import Howy.Library.Volumes
import Howy.Storage.Mode1Names
import Howy.Storage.Mutations
import Howy.Storage.Plaintext

/-! The calls of the Mode 0 backend, one file-system step at a time. -/

namespace Howy.Storage.PlaintextFiles

open Library Plaintext
open Mode1 (dot hexLower tmpMarker)

structure Inode where
  node : FileNode
  flushed : Bool
deriving DecidableEq

abbrev Disk := Volume Name Inode

def binName (u : CanonicalUsername) : Name := u.bytes ++ utf8Bytes ".bin"
def jsonName (u : CanonicalUsername) : Name := u.bytes ++ utf8Bytes ".json"

def temporaryName (u : CanonicalUsername) (random : FixedArray UInt8 16) : Name :=
  dot :: (binName u ++ (tmpMarker ++ hexLower random.val))

namespace Disk

def lookup (d : Disk) (name : Name) : Option FileNode := (d.now name).map (·.node)

def rename (old new : Name) (d : Disk) : Except IoKind Disk :=
  match d.now old, d.lookup new with
  | none, _ => .error .notFound
  | some inode, none => .ok (d.change fun now => Function.update (Function.update now old none) new (some inode))
  | some inode, some target =>
    if target.kind = .directory then .error .other
    else .ok (d.change fun now => Function.update (Function.update now old none) new (some inode))

def unlink (name : Name) (d : Disk) : Except IoKind Disk :=
  match d.lookup name with
  | none => .error .notFound
  | some node => if node.kind = .directory then .error .other else .ok (d.change (Function.update · name none))

def create (owner : ℕ) (name : Name) (d : Disk) : Except IoKind Disk :=
  match d.now name with
  | some _ => .error .alreadyExists
  | none => .ok (d.change (Function.update · name (some ⟨⟨.regular, owner, storageRecordMode, 1, []⟩, false⟩)))

def write (name : Name) (bytes : Bytes) (d : Disk) : Disk :=
  d.modify name fun inode => ⟨{ inode.node with contents := bytes }, false⟩

def flush (name : Name) (d : Disk) : Disk := d.modify name fun inode => { inode with flushed := true }

end Disk

def onDisk (operation : IoOperation) (f : Disk → Except IoKind Disk) : Op Disk Unit :=
  action fun c s =>
    match c.fault, f s.disk with
    | some fault, _ => (.error (.io operation fault.kind), s)
    | none, .error kind => (.error (.io operation kind), s)
    | none, .ok d => (.ok (), { s with disk := d })

def syncDirectory : Op Disk Unit := onDisk .sync fun d => .ok d.sync

variable (backend : PlaintextStorageBackend)

def openRecord (name : Name) : Op Disk (Except IoKind FileNode) :=
  query fun c s =>
    match c.fault, s.disk.lookup name with
    | some fault, _ => .ok (.error fault.kind)
    | none, none => .ok (.error .notFound)
    | none, some file => if file.kind = .symlink then .ok (.error .other) else .ok (.ok file)

def reading {α : Type} (operation : IoOperation) (x : BackendResult α) : Op Disk α :=
  query fun c _ => c.fault.elim x fun fault => .error (.io operation fault.kind)

def validateMetadata (owner : ℕ) (file : FileNode) : BackendResult Unit :=
  failIf (¬ isRecordFile owner file) (.io .inspect .permissionDenied)

def validateRecordFile (file : FileNode) : BackendResult Unit := do
  validateMetadata backend.expectedOwner file
  failIf (file.contents.length = 0 ∨ backend.limits.maxRecordBytes < file.contents.length) .corrupt

def readSource (file : FileNode) : Op Disk Bytes := do
  reading .inspect (validateRecordFile backend file)
  tryReserve (.invalidInput "record allocation")
  reading .read (.ok file.contents)

def openSource (u : CanonicalUsername) : Op Disk (FileNode × LegacySourceEncoding) := do
  match ← openRecord (binName u) with
  | .ok file => pure (file, .bincodeThenJson)
  | .error .notFound =>
    match ← openRecord (jsonName u) with
    | .ok file => pure (file, .jsonOnly)
    | .error .notFound => throw .absent
    | .error kind => throw (.io .open kind)
  | .error kind => throw (.io .open kind)

def loadRecord (u : CanonicalUsername) : Op Disk DecodedPlaintextRecord := do
  let (file, encoding) ← openSource u
  let bytes ← readSource backend file
  fromExcept ((decodePlaintextRecord backend bytes encoding u).mapError mapStorageError)

def randomTempSuffix : Op Disk (FixedArray UInt8 16) := query fun c _ => c.suffix.elim (.error .unavailable) .ok

def createTemp (name : Name) : Op Disk Unit := do
  onDisk .create (Disk.create backend.expectedOwner name)
  onDisk .create .ok

def publish (temporary destination : Name) (encoded : Bytes) : Op Disk Unit := do
  action fun c s => (.ok (), { s with disk := s.disk.write temporary (encoded.take c.kept) })
  onDisk .write fun d => .ok (d.write temporary encoded)
  onDisk .sync fun d => .ok (d.flush temporary)
  onDisk .rename (Disk.rename temporary destination)
  syncDirectory

def discarding (temporary : Name) (e : StorageBackendError) : Op Disk Unit := do
  let _ ← captured (onDisk .remove (Disk.unlink temporary))
  throw e

def install (u : CanonicalUsername) (encoded : Bytes) : ℕ → Op Disk Unit
  | 0 => throw (.io .create .alreadyExists)
  | attempts + 1 => do
    let suffix ← randomTempSuffix
    match ← captured (createTemp backend (temporaryName u suffix)) with
    | .ok () =>
      match ← captured (publish (temporaryName u suffix) (binName u) encoded) with
      | .ok () => pure ()
      | .error e => discarding (temporaryName u suffix) e
    | .error (.io _ .alreadyExists) => install u encoded attempts
    | .error e => discarding (temporaryName u suffix) e

def tempCreateAttempts : ℕ := 16

def writeRecord (record : EnrollmentRecord) : Op Disk Unit := do
  let encoded ← fromExcept (encodeRecord backend record)
  install backend record.username encoded tempCreateAttempts

def operationPermit : Op Disk BudgetPermit := reserveOperation backend.operationReservationBytes

def cacheCommittedModel (u : CanonicalUsername) (model : AuthModel) (operation : BudgetPermit) : Op Disk Unit := do
  match operation.shrinkTo model.plaintextBytes with
  | .error _ => pure ()
  | .ok permit =>
    let _ ← captured (cacheInsert backend.cacheLimits u model permit)

def loadOptional (u : CanonicalUsername) : Op Disk (Option DecodedPlaintextRecord) := do
  match ← captured (loadRecord backend u) with
  | .ok loaded => pure (some loaded)
  | .error .absent => pure none
  | .error e => throw e

def loadExpected (u : CanonicalUsername) (expectedGeneration : UInt64) : Op Disk DecodedPlaintextRecord := do
  match ← captured (loadRecord backend u) with
  | .error .absent => throw (.conflict absentGeneration)
  | .error e => throw e
  | .ok loaded =>
    refuseIf (loaded.record.generation ≠ expectedGeneration) (.conflict loaded.record.generation)
    pure loaded

def appendWithOperation (n : ℕ) (request : AppendRequest) (operation : BudgetPermit) : Op Disk AppendResult := do
  refuseIf (operation.owned = false ∨ operation.bytes < backend.operationReservationBytes)
    (.invalidInput "append operation reservation")
  holdingReload n false do
    holdingUser ⟨n, true⟩ request.username false do
      cacheInvalidate request.username
      let loaded ← loadOptional backend request.username
      let (record, model) ← fromExcept (prepareAppend backend request loaded)
      writeRecord backend record
      cacheCommittedModel backend request.username model operation
      pure ⟨record.generation, request.entries.length, record.entries.length⟩

def append (n : ℕ) (request : AppendRequest) : Op Disk AppendResult := do
  let operation ← operationPermit backend
  appendWithOperation backend n request operation

def modelOf (record : EnrollmentRecord) : BackendResult (Option AuthModel) :=
  if record.entries = [] then .ok none else some <$> AuthModel.fromRecord record

def prepareRemove (request : RemoveRequest) (loaded : DecodedPlaintextRecord) :
    BackendResult (EnrollmentRecord × Option AuthModel) := do
  let index ← (loaded.record.entries.findIdx? (·.enrollmentId = request.enrollmentId)).elim
    (.error (.conflict loaded.record.generation)) .ok
  let generation ← nextMutationGeneration loaded
  let record ← (EnrollmentRecord.new generation backend.recognizerModel request.username
    (loaded.record.entries.eraseIdx index)).mapError mapMutationRecordError
  let model ← modelOf record
  pure (record, model)

def remove (n : ℕ) (request : RemoveRequest) : Op Disk RemoveResult :=
  holdingReload n false do
    holdingUser ⟨n, true⟩ request.username false do
      cacheInvalidate request.username
      let operation ← operationPermit backend
      let loaded ← loadExpected backend request.username request.expectedGeneration
      let (record, model) ← fromExcept (prepareRemove backend request loaded)
      writeRecord backend record
      match model with
      | none => pure ()
      | some model => cacheCommittedModel backend request.username model operation
      pure ⟨record.generation, request.enrollmentId⟩

def optionalValidRecord (name : Name) : Op Disk Bool := do
  match ← openRecord name with
  | .ok file =>
    reading .inspect (validateMetadata backend.expectedOwner file)
    pure true
  | .error .notFound => pure false
  | .error kind => throw (.io .open kind)

def removeFile (name : Name) (present : Bool) : Op Disk Unit := do
  if present then
    onDisk .remove (Disk.unlink name)
    syncDirectory

def clear (n : ℕ) (request : ClearRequest) : Op Disk ClearResult :=
  holdingReload n false do
    holdingUser ⟨n, true⟩ request.username false do
      cacheInvalidate request.username
      let _ ← operationPermit backend
      let loaded ← loadExpected backend request.username request.expectedGeneration
      let authoritativeExists ← optionalValidRecord backend (binName request.username)
      let fallbackExists ← optionalValidRecord backend (jsonName request.username)
      -- the fallback goes first: once the authoritative file is gone, nothing must be left to fall back to
      removeFile (jsonName request.username) fallbackExists
      removeFile (binName request.username) authoritativeExists
      pure ⟨absentGeneration, loaded.record.entries.length⟩

inductive MutationResult where
  | appended (result : AppendResult)
  | removed (result : RemoveResult)
  | cleared (result : ClearResult)
deriving DecidableEq

def perform (n : ℕ) : Mutation → Op Disk MutationResult
  | .append request => .appended <$> append backend n request
  | .remove request => .removed <$> remove backend n request
  | .clear request => .cleared <$> clear backend n request

end Howy.Storage.PlaintextFiles
