import Howy.Library.Fallible
import Howy.Storage.Cache
import Mathlib.Logic.Function.Basic

/-! The state that the concurrent calls of a storage backend share, over any kind of disk, and the steps they
take. -/

namespace Howy.Storage

open Library

abbrev Name := Bytes

inductive NodeKind where
  | regular
  | directory
  | symlink
  | other
deriving DecidableEq

structure FileNode where
  kind : NodeKind
  uid : ℕ
  mode : ℕ
  nlink : ℕ
  contents : Bytes
deriving DecidableEq

def storageRecordMode : ℕ := 0o600

/-- How a file-system step may fail of itself. That a name is missing or taken is only reported when it is. -/
inductive Fault where
  | permissionDenied
  | other
deriving DecidableEq

def Fault.kind : Fault → IoKind
  | permissionDenied => .permissionDenied
  | other => .other

inductive BackendHookPoint where
  | filesystem
  | key
  | crypto
  | nonce
  | afterFileSync
  | commitRename
  | transactionStageSync
  | afterRename
  | primaryDirectorySync
  | afterDirectorySync
  | cleanupUnlink
  | finalDirectorySync
  | rollbackRename
  | rollbackMarkerSync
  | rollbackDirectorySync
  | rollbackCleanupUnlink
  | rollbackCleanupSync
  | staleTempCleanupUnlink
  | staleTempCleanupSync
deriving DecidableEq

/-- What the surroundings decide about one step: failures, randomness, cancellation, memory and scheduling. -/
structure Choice where
  fault : Option Fault := none
  hook : BackendHookPoint → Option StorageBackendError := fun _ => none
  cancelled : Bool := false
  exhausted : Bool := false
  refusals : ℕ := 0
  available : ℕ := 0
  suffix : Option (FixedArray UInt8 16) := some (.filled 16 0)
  nonce : Except StorageError GcmNonce := .ok (.filled 12 0)
  kept : ℕ := 0
  publish : Bool := true
  order : { f : List Name → List Name // ∀ names, (f names).Perm names } := ⟨id, List.Perm.refl⟩

structure Choice.FaultFree (c : Choice) : Prop where
  fault : c.fault = none
  hook : ∀ point, c.hook point = none
  exhausted : c.exhausted = false

structure Holder where
  call : ℕ
  mutates : Bool
deriving DecidableEq

structure Promotion where
  username : CanonicalUsername
  expectedRevision : ℕ
  expectedGeneration : UInt64
  model : AuthModel
deriving DecidableEq

inductive Mutation where
  | append (request : AppendRequest)
  | remove (request : RemoveRequest)
  | clear (request : ClearRequest)
deriving DecidableEq

structure Commit where
  call : ℕ
  mutation : Mutation
  after : Option EnrollmentRecord
deriving DecidableEq

/-- `log` and `moments` are read by no call: they keep the commits in order and the disk each snapshot was taken
of. -/
structure Shared (D : Type) where
  disk : D
  cache : CacheState := .empty
  poisoned : Bool := false
  readers : List ℕ := []
  writer : Option ℕ := none
  users : CanonicalUsername → Option Holder := fun _ => none
  promotions : ℕ → Option Promotion := fun _ => none
  log : List Commit := []
  moments : ℕ → Option D := fun _ => none

variable {D α : Type}

abbrev Op (D α : Type) := Attempt Choice (Shared D) StorageBackendError α

def refuseIf (p : Prop) [Decidable p] (e : StorageBackendError) : Op D Unit := if p then throw e else pure ()

def captured (body : Op D α) : Op D (BackendResult α) := ExceptT.lift body.run

def hooked (point : BackendHookPoint) (f : Choice → Shared D → BackendResult α × Shared D) : Op D α :=
  action fun c s =>
    match c.hook point with
    | none => f c s
    | some e => (.error e, s)

def hook (point : BackendHookPoint) : Op D Unit := hooked point fun _ s => (.ok (), s)

def tryReserve (e : StorageBackendError) : Op D Unit := query fun c _ => if c.exhausted then .error e else .ok ()

def ensureAvailable : Op D Unit := query fun _ s => if s.poisoned then .error .unavailable else .ok ()

/-- `cancellation.is_cancelled()`; `NeverCancelled` is the signal that is not `cancellable`. -/
def isCancelled (cancellable : Bool) : Op D Bool := query fun c _ => .ok (cancellable && c.cancelled)

def checkCancelled (cancellable : Bool) : Op D Unit := do
  if ← isCancelled cancellable then throw .unavailable

def lock (cancellable : Bool) (free : Shared D → Prop) [DecidablePred free] (take : Shared D →
    Shared D) : Op D Unit :=
  ExceptT.mk (Prog.atomic fun c s =>
    if cancellable && c.cancelled then some (.error .unavailable, s)
    else if free s then some (.ok (), take s)
    else none)

def lockReload (n : ℕ) (cancellable : Bool) : Op D Unit :=
  lock cancellable (fun s => s.writer = none) fun s => { s with readers := n :: s.readers }

def unlockReload (n : ℕ) (s : Shared D) : Shared D := { s with readers := s.readers.erase n }

def lockReloadWrite (n : ℕ) : Op D Unit :=
  lock false (fun s => s.writer = none ∧ s.readers = []) fun s => { s with writer := some n }

def unlockReloadWrite (s : Shared D) : Shared D := { s with writer := none }

def lockUser (holder : Holder) (u : CanonicalUsername) (cancellable : Bool) : Op D Unit :=
  lock cancellable (fun s => s.users u = none) fun s => { s with users := Function.update s.users u (some holder) }

def unlockUser (u : CanonicalUsername) (s : Shared D) : Shared D :=
  { s with users := Function.update s.users u none }

/-- Only who holds the locks may change. -/
structure OnlyLocks (s s' : Shared D) : Prop where
  disk : s'.disk = s.disk
  cache : s'.cache = s.cache
  poisoned : s'.poisoned = s.poisoned

abbrev Locks (A : Choice → Prop) (acquire : Op D Unit) : Prop :=
  Within A OnlyLocks (fun _ => True) (OnResult (fun _ => True) (· = .unavailable)) acquire.run

section

variable {A : Choice → Prop} {n : ℕ} {u : CanonicalUsername} {holder : Holder} {cancellable : Bool}

lemma locks_lock {free : Shared D → Prop} [DecidablePred free] {take : Shared D → Shared D}
    (h : ∀ s, OnlyLocks s (take s)) : Locks A (lock cancellable free take) := by
  intro c s r s' _ _ hf
  dsimp only at hf
  split at hf
  · cases hf
    exact ⟨⟨rfl, rfl, rfl⟩, trivial, rfl⟩
  split at hf
  · cases hf
    exact ⟨h s, trivial, trivial⟩
  · cases hf

lemma locks_lockReload : Locks A (lockReload n cancellable : Op D Unit) := locks_lock fun _ => ⟨rfl, rfl, rfl⟩

lemma locks_lockReloadWrite : Locks A (lockReloadWrite n : Op D Unit) := locks_lock fun _ => ⟨rfl, rfl, rfl⟩

lemma locks_lockUser : Locks A (lockUser holder u cancellable : Op D Unit) := locks_lock fun _ => ⟨rfl, rfl, rfl⟩

end

def holdingReload (n : ℕ) (cancellable : Bool) (body : Op D α) : Op D α :=
  guarded (lockReload n cancellable) (unlockReload n) body

def holdingUser (holder : Holder) (u : CanonicalUsername) (cancellable : Bool) (body : Op D α) : Op D α :=
  guarded (lockUser holder u cancellable) (unlockUser u) body

def onCache (f : Choice → CacheState → BackendResult α × CacheState) : Op D α :=
  action fun c s => ((f c s.cache).1, { s with cache := (f c s.cache).2 })

def cacheGet (u : CanonicalUsername) : Op D (Option AuthModel) :=
  onCache fun _ s => (.ok (s.get u).1, (s.get u).2)

def cacheGeneration (u : CanonicalUsername) : Op D (Option UInt64) :=
  onCache fun _ s => (.ok (s.generation u).1, (s.generation u).2)

def cacheRevision : Op D ℕ := query fun _ s => .ok s.cache.revision

/-- Bytes of a budget; `owned` when it is the budget of this backend. -/
structure BudgetPermit where
  bytes : ℕ
  owned : Bool
deriving DecidableEq

def reserveOperationExcept (bytes : ℕ) (protected_ : Option CanonicalUsername) : Op D BudgetPermit := do
  let bytes ← onCache fun c s => s.reserveOperationExcept bytes protected_ c.refusals c.available
  pure ⟨bytes, true⟩

def reserveOperation (bytes : ℕ) : Op D BudgetPermit := reserveOperationExcept bytes none

def reserveOperationForUser (bytes : ℕ) (u : CanonicalUsername) : Op D BudgetPermit :=
  reserveOperationExcept bytes (some u)

def cacheInsert (limits : ModelCacheLimits) (u : CanonicalUsername) (model : AuthModel) (permit : BudgetPermit) :
    Op D AuthModel :=
  onCache fun _ s => s.insert limits u model permit.bytes

def cacheInvalidate (u : CanonicalUsername) : Op D Unit := onCache fun _ s => (.ok (), s.invalidate u)

def cacheClear : Op D Unit := onCache fun _ s => (.ok (), s.clear)

def poison (e : StorageBackendError) : Op D α := do
  action fun _ s => (.ok (), { s with poisoned := true })
  onCache fun _ s => (.ok (), s.poison)
  throw e

def BudgetPermit.shrinkTo (permit : BudgetPermit) (bytes : ℕ) : BackendResult BudgetPermit :=
  if bytes = 0 ∨ permit.bytes < bytes then .error (.invalidInput "permit shrink size")
  else .ok { permit with bytes }

def providePromotion (n : ℕ) (promotion : Promotion) : Op D Unit :=
  action fun _ s => (.ok (), { s with promotions := Function.update s.promotions n (some promotion) })

def discardPromotion (n : ℕ) : Op D Unit :=
  action fun _ s => (.ok (), { s with promotions := Function.update s.promotions n none })

def promoteIf (limits : ModelCacheLimits) (k : ℕ) : Op D Bool :=
  action fun c s =>
    match s.promotions k with
    | none => (.ok false, s)
    | some p =>
      let r :=
        s.cache.insertProvisionalIfRevision limits p.username p.expectedRevision p.expectedGeneration p.model
        c.publish
      (r.1, { s with cache := r.2, promotions := Function.update s.promotions k none })

def note (commit : Commit) : Op D Unit := action fun _ s => (.ok (), { s with log := s.log ++ [commit] })

end Howy.Storage
