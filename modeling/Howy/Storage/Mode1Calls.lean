import Howy.Storage.Mode1Operations

/-! Authentication, reload and prompt snapshots of the Mode 1 backend, and all its calls together. -/

namespace Howy.Storage.Mode1

open Library

variable {D : Type} (backend : Mode1StorageBackend) (store : RecordStore D)

section

variable (n : ℕ)

section

variable (u : CanonicalUsername)

def authenticateCold (cancellable provisional : Bool) : Op D AuthModel := do
  let revision ← cacheRevision
  let loaded ← loadRecord backend store u cancellable
  refuseIf (loaded.record.entries = []) .absent
  let model ← fromExcept (AuthModel.fromRecord loaded.record)
  checkCancelled cancellable
  let permit ← fromExcept (loaded.permit.shrinkTo model.plaintextBytes)
  if provisional then
    refuseIf (permit.bytes < model.plaintextBytes) (.invalidInput "model reservation is too small")
    checkCancelled cancellable
    providePromotion n ⟨u, revision, model.generation, model⟩
    pure model
  else
    let lease ← cacheInsert backend.cacheLimits u model permit
    if ← isCancelled cancellable then
      cacheInvalidate u
      throw .unavailable
    pure lease

def authenticate : Op D AuthModel :=
  holdingReload n false do
    ensureAvailable
    match ← cacheGet u with
    | some lease =>
      ensureAvailable
      pure lease
    | none =>
      holdingUser ⟨n, false⟩ u false do
        ensureAvailable
        match ← cacheGet u with
        | some lease =>
          ensureAvailable
          pure lease
        | none =>
          let result ← captured (authenticateCold backend store n u false false)
          ensureAvailable
          fromExcept result

def unavailableIfDisturbed (cancellable : Bool) : Op D Unit := do
  if ← isCancelled cancellable then throw .unavailable
  ensureAvailable

/-- Where `authenticate_active_internal` found its model: without the user's lock, with it, or on disk. -/
inductive Lookup where
  | warm (lease : AuthModel)
  | warmLocked (lease : AuthModel)
  | cold (result : BackendResult AuthModel)

def authenticateLocked (cancellable provisional : Bool) : Op D Lookup :=
  holdingUser ⟨n, false⟩ u cancellable do
    ensureAvailable
    match ← cacheGet u with
    | some lease => pure (.warmLocked lease)
    | none =>
      let result ← captured (authenticateCold backend store n u cancellable provisional)
      pure (.cold result)

def lookupModel (cancellable provisional : Bool) : Op D Lookup :=
  holdingReload n cancellable do
    ensureAvailable
    match ← cacheGet u with
    | some lease =>
      unavailableIfDisturbed cancellable
      pure (.warm lease)
    | none => authenticateLocked backend store n u cancellable provisional

def authenticateActiveInternal (cancellable provisional : Bool) : Op D AuthModel := do
  match ← lookupModel backend store n u cancellable provisional with
  | .warm lease => pure lease
  | .warmLocked lease =>
    unavailableIfDisturbed cancellable
    pure lease
  | .cold result =>
    match ← captured ensureAvailable with
    | .ok () => fromExcept result
    | .error e =>
      discardPromotion n
      throw e

def reload : Op D (List OuterRecordStatus) :=
  guarded (lockReloadWrite n) unlockReloadWrite do
    ensureAvailable
    cacheClear
    store.scanOuterHeaders

def snapshotOf (candidate : CandidatePresence) : PromptStorageSnapshot :=
  ⟨.ready, candidate, backend.backendIdentity, backend.recognizerModel⟩

def snapshotGeneration : Op D (Option UInt64) :=
  action fun _ s =>
    match s.cache.generation u with
    | (none, cache) => (.ok none, { s with cache })
    | (some g, cache) => (.ok (some g), { s with cache, moments := Function.update s.moments n (some s.disk) })

def markMoment : Op D Unit :=
  action fun _ s => (.ok (), { s with moments := Function.update s.moments n (some s.disk) })

def snapshotLocked : Op D CandidatePresence :=
  holdingUser ⟨n, false⟩ u false do
    ensureAvailable
    let candidate ← match ← snapshotGeneration n u with
      | some g => pure (CandidatePresence.candidate g)
      | none =>
        markMoment n
        match ← inspectRecord backend store.active u false with
        | none => pure .absent
        | some inspected =>
          pure (if inspected.header.entryCount = 0 then CandidatePresence.absent
            else .candidate inspected.header.recordGeneration)
    ensureAvailable
    pure candidate

def promptSnapshot : Op D PromptStorageSnapshot :=
  holdingReload n false do
    ensureAvailable
    match ← snapshotGeneration n u with
    | some g =>
      ensureAvailable
      pure (snapshotOf backend (.candidate g))
    | none =>
      let candidate ← snapshotLocked backend store n u
      pure (snapshotOf backend candidate)

end

inductive Call where
  | append (request : AppendRequest)
  | appendAdmitted (request : AppendRequest) (operation : BudgetPermit)
  | remove (request : RemoveRequest)
  | clear (request : ClearRequest)
  | reload
  | authenticate (u : CanonicalUsername)
  | authenticateCancellable (u : CanonicalUsername)
  | authenticateActive (u : CanonicalUsername)
  | promoteIf (k : ℕ)
  | promptSnapshot (u : CanonicalUsername)

inductive Answer where
  | appended (result : AppendResult)
  | removed (result : RemoveResult)
  | cleared (result : ClearResult)
  | reloaded (records : List OuterRecordStatus)
  | authenticated (model : AuthModel)
  | promoted (published : Bool)
  | snapshot (snapshot : PromptStorageSnapshot)
deriving DecidableEq

def Call.op : Call → Op D Answer
  | .append request => .appended <$> Mode1.append backend store n request
  | .appendAdmitted request operation => .appended <$> Mode1.appendAdmitted backend store n request operation
  | .remove request => .removed <$> Mode1.remove backend store n request
  | .clear request => .cleared <$> Mode1.clear backend store n request
  | .reload => .reloaded <$> Mode1.reload store n
  | .authenticate u => .authenticated <$> Mode1.authenticate backend store n u
  | .authenticateCancellable u => .authenticated <$> authenticateActiveInternal backend store n u true false
  | .authenticateActive u => .authenticated <$> authenticateActiveInternal backend store n u true true
  | .promoteIf k => .promoted <$> Storage.promoteIf backend.cacheLimits k
  | .promptSnapshot u => .snapshot <$> Mode1.promptSnapshot backend store n u

end

def Call.mutation : Call → Option Mutation
  | .append request | .appendAdmitted request _ => some (.append request)
  | .remove request => some (.remove request)
  | .clear request => some (.clear request)
  | _ => none

end Howy.Storage.Mode1
