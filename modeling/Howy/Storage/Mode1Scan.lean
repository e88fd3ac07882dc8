import Howy.Storage.Mode1Calls
import Howy.Storage.Mode1Files
import Mathlib.Data.List.Sort

/-! The scan of the Mode 1 directory at construction and at every reload. -/

namespace Howy.Storage.Mode1

open Library

variable (backend : Mode1StorageBackend)

def activeFile (d : Directory) (u : CanonicalUsername) : Option FileNode := d.lookup (filename u)

def namespaceEntryMetadata (name : Name) : Op Directory FileNode := do
  let node ← query fun c s =>
    match c.fault, s.disk.lookup name with
    | some fault, _ => .error (.io .open fault.kind)
    | none, none => .error (.io .open .notFound)
    | none, some node => .ok node
  action (onDirectory .inspect .ok)
  pure node

def cleanupStaleTemp (name : Name) : Op Directory Bool := do
  match ← openRecord (·.lookup name) with
  | .error _ => pure false
  | .ok file =>
    match ← captured (action (onDirectory .inspect .ok)) with
    | .error _ => pure false
    | .ok () =>
      if isRecordFile backend.expectedOwner file then
        match ← captured (unlinkAt .staleTempCleanupUnlink name) with
        | .error _ => pure false
        | .ok () => pure true
      else pure false

def stagedWriteIsPreExchange (name : Name) (u : CanonicalUsername) : Op Directory Bool := do
  match ← captured (inspectNamedRecord backend (·.lookup name) u false) with
  | .ok (some staged) =>
    match ← captured (inspectRecord backend activeFile u false) with
    | .ok (some active) =>
      pure (match checkedNextGeneration active.header.recordGeneration with
        | .ok generation => generation == staged.header.recordGeneration
        | .error _ => false)
    | _ => pure false
  | _ => pure false

def recordStatus : BackendResult (Option InspectedRecord) →
    BackendResult (Option OuterRecordClassification)
  | .ok none => .ok none
  | .ok (some inspected) => .ok (some (.candidate inspected.header.recordGeneration))
  | .error .modeMismatch => .ok (some .modeMismatch)
  | .error .keyMismatch => .ok (some .keyMismatch)
  | .error .modelMismatch => .ok (some .modelMismatch)
  | .error (.io operation .permissionDenied) => .error (.io operation .permissionDenied)
  | .error _ => .ok (some .corrupt)

structure Scanned where
  records : List OuterRecordStatus
  cleaned : Bool

def scanRecord (u : CanonicalUsername) : Op Directory Scanned := do
  let inspected ← captured (inspectRecord backend activeFile u false)
  match ← fromExcept (recordStatus inspected) with
  | none => pure ⟨[], false⟩
  | some classification =>
    tryReserve .unavailable
    pure ⟨[⟨u, classification⟩], false⟩

def scanStale (name : Name) : Op Directory Scanned := do
  let cleaned ← cleanupStaleTemp backend name
  pure ⟨[], cleaned⟩

def scanEntry (name : Name) : Op Directory Scanned := do
  let metadata ← namespaceEntryMetadata name
  match classifyMode1NamespaceEntry name metadata.kind metadata.nlink with
  | .authoritative u => scanRecord backend u
  | .temporary => scanStale backend name
  | .staged =>
    match parseTransactionArtifact name stagedMarker with
    | none => throw .corrupt
    | some u =>
      if ← stagedWriteIsPreExchange backend name u then scanStale backend name
      else poison .corrupt
  | .clear | .rollback => poison .corrupt
  | .symlink | .directory | .hardlink | .nonUtf8 | .unknown => throw .corrupt

def scanNames : ℕ → List Name → Op Directory Scanned
  | _, [] => do
    action (onDirectory .read .ok)
    pure ⟨[], false⟩
  | 0, _ :: _ => do
    action (onDirectory .read .ok)
    throw (.invalidInput "mode 1 namespace entry limit")
  | remaining + 1, name :: names => do
    action (onDirectory .read .ok)
    let entry ← scanEntry backend name
    let rest ← scanNames remaining names
    pure ⟨entry.records ++ rest.records, entry.cleaned || rest.cleaned⟩

def listNames : Op Directory (List Name) :=
  query fun c s =>
    match c.fault with
    | some fault => .error (.io .open fault.kind)
    | none => .ok (c.order.val s.disk.keys)

def statusLe (a b : OuterRecordStatus) : Prop := a.username.name ≤ b.username.name

instance : DecidableRel statusLe := fun a b => inferInstanceAs (Decidable (a.username.name ≤ b.username.name))

def scanOuterHeaders : Op Directory (List OuterRecordStatus) := do
  hook .filesystem
  action (onDirectory .inspect .ok)
  let names ← listNames
  let scanned ← scanNames backend maxMode1NamespaceEntries names
  if scanned.cleaned then
    let _ ← captured (syncDirectory .staleTempCleanupSync)
  pure (scanned.records.insertionSort statusLe)

def files : RecordStore Directory where
  active := activeFile
  install u encoded exists_ := install backend.expectedOwner u encoded exists_ tempCreateAttempts
  clearRecord u := clearRecord u tempCreateAttempts
  scanOuterHeaders := scanOuterHeaders backend

def readiness (status : OuterRecordStatus) : BackendResult Unit :=
  match status.classification with
  | .candidate _ => .ok ()
  | .modeMismatch => .error .modeMismatch
  | .keyMismatch => .error .keyMismatch
  | .modelMismatch => .error .modelMismatch
  | .corrupt => .error .corrupt

def newWithSources : Op Directory Unit := do
  let records ← scanOuterHeaders backend
  fromExcept (records.forM readiness)

end Howy.Storage.Mode1
