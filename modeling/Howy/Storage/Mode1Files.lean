import Howy.Storage.Mode1Names
import Howy.Storage.Mode1Operations

/-! The record transactions of the Mode 1 backend, one file-system step at a time. -/

namespace Howy.Storage.Mode1

open Library

abbrev Directory := Table Name FileNode

namespace Directory

def rename (old new : Name) (d : Directory) : Except IoKind Directory :=
  match d.lookup old, d.lookup new with
  | none, _ => .error .notFound
  | some node, none => .ok ((d.erase old).insert new node)
  | some node, some target =>
    if target.kind = .directory then .error .other else .ok ((d.erase old).insert new node)

def exchange (left right : Name) (d : Directory) : Except IoKind Directory :=
  match d.lookup left, d.lookup right with
  | some a, some b => .ok ((d.insert left b).insert right a)
  | _, _ => .error .notFound

def renameNoReplace (old new : Name) (d : Directory) : Except IoKind Directory :=
  match d.lookup old, d.lookup new with
  | none, _ => .error .notFound
  | some _, some _ => .error .alreadyExists
  | some node, none => .ok ((d.erase old).insert new node)

def unlink (name : Name) (d : Directory) : Except IoKind Directory :=
  match d.lookup name with
  | none => .error .notFound
  | some node => if node.kind = .directory then .error .other else .ok (d.erase name)

def create (owner : ℕ) (name : Name) (d : Directory) : Except IoKind Directory :=
  match d.lookup name with
  | some _ => .error .alreadyExists
  | none => .ok (d.insert name ⟨.regular, owner, storageRecordMode, 1, []⟩)

def setContents (name : Name) (bytes : Bytes) (d : Directory) : Directory :=
  match d.lookup name with
  | none => d
  | some node => d.insert name { node with contents := bytes }

end Directory

def tempCreateAttempts : ℕ := 16
def maxMode1NamespaceEntries : ℕ := 4096

def onDirectory (operation : IoOperation) (f : Directory → Except IoKind Directory) (c : Choice)
    (s : Shared Directory) : BackendResult Unit × Shared Directory :=
  match c.fault, f s.disk with
  | some fault, _ => (.error (.io operation fault.kind), s)
  | none, .error kind => (.error (.io operation kind), s)
  | none, .ok d => (.ok (), { s with disk := d })

def renameAt (old new : Name) : Op Directory Unit := action (onDirectory .rename (Directory.rename old new))

def unlinkAt (point : BackendHookPoint) (name : Name) : Op Directory Unit :=
  hooked point (onDirectory .remove (Directory.unlink name))

def syncDirectory (point : BackendHookPoint) : Op Directory Unit := hooked point (onDirectory .sync .ok)

def cleanupNonAuthoritativeTemp (temporary : Name) : Op Directory Unit := do
  match ← captured (unlinkAt .staleTempCleanupUnlink temporary) with
  | .error _ => pure ()
  | .ok () =>
    let _ ← captured (syncDirectory .staleTempCleanupSync)

def cleaningUp (artifact : Name) (step : Op Directory Unit) : Op Directory Unit := do
  match ← captured step with
  | .ok () => pure ()
  | .error e =>
    cleanupNonAuthoritativeTemp artifact
    throw e

def artifactOr (name : Option Name) : Op Directory Name :=
  fromExcept (name.elim (.error (.invalidInput "transaction artifact name")) .ok)

def rollbackTemporary (temporary destination : Name) (destinationExisted : Bool) : Op Directory Unit := do
  if destinationExisted then
    let rollback ← artifactOr (replaceArtifactMarker temporary stagedMarker rollbackMarker)
    renameAt temporary rollback
    syncDirectory .rollbackMarkerSync
    hooked .rollbackRename (onDirectory .rename (Directory.exchange rollback destination))
    syncDirectory .rollbackDirectorySync
    unlinkAt .rollbackCleanupUnlink rollback
    syncDirectory .rollbackCleanupSync
  else
    let rollback ← artifactOr (replaceArtifactMarker temporary tmpMarker rollbackMarker)
    hooked .rollbackRename (onDirectory .rename (Directory.rename destination rollback))
    syncDirectory .rollbackDirectorySync
    unlinkAt .rollbackCleanupUnlink rollback
    syncDirectory .rollbackCleanupSync

def settleRename : Op Directory Unit := do
  hook .afterRename
  syncDirectory .primaryDirectorySync
  hook .afterDirectorySync

def stageTemporary (temporary : Name) : Op Directory Name := do
  let staged ← artifactOr (replaceArtifactMarker temporary tmpMarker stagedMarker)
  cleaningUp temporary (renameAt temporary staged)
  cleaningUp staged (syncDirectory .transactionStageSync)
  pure staged

def finishReplacement (transaction : Name) : Op Directory Unit := do
  unlinkAt .cleanupUnlink transaction
  syncDirectory .finalDirectorySync

def orPoison (step : Op Directory Unit) : Op Directory Unit := do
  match ← captured step with
  | .ok () => pure ()
  | .error _ => poison .unavailable

/-- The steps after the commit rename failed with `e`: roll back, or poison. -/
def rollingBack (rollback : Op Directory Unit) (step : Op Directory Unit) : Op Directory Unit := do
  match ← captured step with
  | .ok () => pure ()
  | .error e =>
    orPoison rollback
    throw e

def commitTemporary (temporary destination : Name) (destinationExists : Bool) : Op Directory Unit := do
  if destinationExists then
    let staged ← stageTemporary temporary
    cleaningUp staged (hooked .commitRename (onDirectory .rename (Directory.exchange staged destination)))
    rollingBack (rollbackTemporary staged destination true) settleRename
    orPoison (finishReplacement staged)
  else
    cleaningUp temporary
      (hooked .commitRename (onDirectory .rename (Directory.renameNoReplace temporary destination)))
    rollingBack (rollbackTemporary temporary destination false) settleRename

def randomTempSuffix : Op Directory (FixedArray UInt8 16) :=
  query fun c _ => c.suffix.elim (.error .unavailable) .ok

def createTemp (owner : ℕ) (name : Name) : Op Directory Unit := do
  action fun c s =>
    match c.hook .filesystem with
    | some _ => (.error (.io .create .other), s)
    | none => onDirectory .create (Directory.create owner name) c s
  action (onDirectory .create .ok)

def writeTemporary (name : Name) (encoded : Bytes) : Op Directory Unit := do
  action fun c s => (.ok (), { s with disk := s.disk.setContents name (encoded.take c.kept) })
  action (onDirectory .write fun d => .ok (d.setContents name encoded))
  action (onDirectory .sync .ok)
  hook .afterFileSync

def install (owner : ℕ) (u : CanonicalUsername) (encoded : Bytes) (destinationExists : Bool) :
    ℕ → Op Directory Unit
  | 0 => throw (.io .create .alreadyExists)
  | attempts + 1 => do
    let suffix ← randomTempSuffix
    match ← captured (createTemp owner (temporaryName u suffix)) with
    | .ok () =>
      cleaningUp (temporaryName u suffix) (writeTemporary (temporaryName u suffix) encoded)
      commitTemporary (temporaryName u suffix) (filename u) destinationExists
    | .error (.io _ .alreadyExists) => install owner u encoded destinationExists attempts
    | .error e => throw e

def rollbackClear (tombstone destination : Name) : Op Directory Unit := do
  hooked .rollbackRename (onDirectory .rename (Directory.rename tombstone destination))
  syncDirectory .rollbackDirectorySync

def commitClear (tombstone destination : Name) : Op Directory Unit := do
  rollingBack (rollbackClear tombstone destination) settleRename
  rollingBack (rollbackClear tombstone destination) (unlinkAt .cleanupUnlink tombstone)
  orPoison (syncDirectory .finalDirectorySync)

def clearRecord (u : CanonicalUsername) : ℕ → Op Directory Unit
  | 0 => throw (.io .remove .alreadyExists)
  | attempts + 1 => do
    let suffix ← randomTempSuffix
    match ← captured
      (action (onDirectory .remove (Directory.renameNoReplace (filename u) (tombstoneName u suffix)))) with
    | .ok () => commitClear (tombstoneName u suffix) (filename u)
    | .error (.io _ .alreadyExists) => clearRecord u attempts
    | .error e => throw e

end Howy.Storage.Mode1
