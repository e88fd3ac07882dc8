import Howy.Storage.Mode1Reading

/-! The calls of the Mode 1 backend, over any store that can install, clear and scan its record files. -/

namespace Howy.Storage.Mode1

open Library

structure RecordStore (D : Type) where
  active : D → CanonicalUsername → Option FileNode
  install : CanonicalUsername → Bytes → Bool → Op D Unit
  clearRecord : CanonicalUsername → Op D Unit
  scanOuterHeaders : Op D (List OuterRecordStatus)

variable {D ρ : Type} (backend : Mode1StorageBackend) (store : RecordStore D)

def inspectRecord (active : D → CanonicalUsername → Option FileNode) (u : CanonicalUsername) (cancellable : Bool) :
    Op D (Option InspectedRecord) := do
  checkCancelled cancellable
  inspectNamedRecord backend (active · u) u cancellable

def loadRecord (u : CanonicalUsername) (cancellable : Bool) : Op D LoadedRecord := do
  match ← inspectRecord backend store.active u cancellable with
  | none => throw .absent
  | some inspected =>
    let estimate ← fromExcept (PlaintextAllocationEstimate.forEncryptedHeader inspected.header)
    let permit ← reserveOperation estimate.coldLoadPeakBytes
    decryptInspected backend inspected u permit cancellable

def inspectedGeneration (inspected : Option InspectedRecord) : UInt64 :=
  inspected.elim absentGeneration (·.header.recordGeneration)

def appendEstimate (inspected : Option InspectedRecord) (entries : List EnrollmentEntry) :
    BackendResult PlaintextAllocationEstimate := do
  let labelBytes ← invalid (entries.foldlM (fun total entry => checkedAdd total (utf8Bytes entry.label).length) 0)
    "append label bytes"
  let estimate ← PlaintextAllocationEstimate.forAppendShape (inspected.map (·.header)) entries.length labelBytes
  failIf (backend.limits.maxEntries < inspected.elim 0 (·.header.entryCount.toNat) + entries.length ∨
    backend.limits.maxPlaintextBytes < estimate.encodedPayloadBytes) (.invalidInput "record shape")
  pure estimate

def encryptRecord (record : EnrollmentRecord) : Op D Bytes :=
  query fun c _ => (do
    let nonce ← c.nonce
    encodeHowyenc1WithNonce backend.gcm record .aeadCached backend.keyEpoch backend.key nonce).mapError
      mapWriteStorageError

def writeRecord (record : EnrollmentRecord) : Op D Unit := do
  hook .key
  hook .crypto
  hook .nonce
  let encoded ← encryptRecord backend record
  refuseIf (howyenc1MaxRecordBytes < encoded.length) (.invalidInput "record byte length")
  match ← openRecord (store.active · record.username) with
  | .ok file =>
    let _ ← validateRecordFile backend file
    store.install record.username encoded true
  | .error .notFound => store.install record.username encoded false
  | .error kind => throw (.io .open kind)

def cacheCommittedModel (u : CanonicalUsername) (model : Option AuthModel) (operation : BudgetPermit) :
    Op D Unit := do
  cacheInvalidate u
  match model with
  | none => pure ()
  | some model =>
    match operation.shrinkTo model.plaintextBytes with
    | .error _ => pure ()
    | .ok permit =>
      let _ ← captured (cacheInsert backend.cacheLimits u model permit)

structure Prepared (ρ : Type) where
  mutation : Mutation
  record : Option EnrollmentRecord
  model : Option AuthModel
  permit : BudgetPermit
  result : ρ

/-- The shape shared by `append`, `append_admitted`, `remove` and `clear`. -/
def mutate (n : ℕ) (u : CanonicalUsername) (prepare : Op D (Prepared ρ)) : Op D ρ :=
  holdingReload n false do
    ensureAvailable
    holdingUser ⟨n, true⟩ u false do
      ensureAvailable
      let prepared ← prepare
      match prepared.record with
      | some record => writeRecord backend store record
      | none => store.clearRecord u
      ensureAvailable
      note ⟨n, prepared.mutation, prepared.record⟩
      cacheCommittedModel backend u prepared.model prepared.permit
      pure prepared.result

def prepareAppend (request : AppendRequest) (inspected : Option InspectedRecord) (operation : BudgetPermit) :
    Op D (Prepared AppendResult) := do
  let estimate ← fromExcept (appendEstimate backend inspected request.entries)
  refuseIf (operation.owned = false ∨ operation.bytes < estimate.mutationPeakBytes)
    (.invalidInput "append operation reservation")
  let loaded ← loadOptionalForMutation backend request.username inspected operation
  let currentGeneration := loaded.elim absentGeneration (·.generation)
  refuseIf (currentGeneration ≠ request.expectedGeneration) (.conflict currentGeneration)
  let entries := loaded.elim [] (·.entries)
  let total ← fromExcept (invalid (checkedAdd entries.length request.entries.length) "entry count")
  refuseIf (backend.limits.maxEntries < total) (.invalidInput "entry count")
  let generation ← fromExcept (loaded.elim (.ok 1) fun record =>
    (checkedNextGeneration record.generation).mapError mapStorageError)
  let record ← fromExcept ((EnrollmentRecord.new generation backend.recognizerModel request.username
    (entries ++ request.entries)).mapError mapMutationRecordError)
  let model ← fromExcept (AuthModel.fromRecord record)
  pure ⟨.append request, some record, some model, operation, ⟨generation, request.entries.length, total⟩⟩

def checkGeneration (inspected : Option InspectedRecord) (expectedGeneration : UInt64) : Op D Unit :=
  refuseIf (inspectedGeneration inspected ≠ expectedGeneration) (.conflict (inspectedGeneration inspected))

def planAppend (request : AppendRequest) : Op D (Prepared AppendResult) := do
  let inspected ← inspectRecord backend store.active request.username false
  checkGeneration inspected request.expectedGeneration
  let estimate ← fromExcept (appendEstimate backend inspected request.entries)
  let operation ← reserveOperationForUser estimate.mutationPeakBytes request.username
  ensureAvailable
  prepareAppend backend request inspected operation

def planAppendAdmitted (request : AppendRequest) (operation : BudgetPermit) : Op D (Prepared AppendResult) := do
  let inspected ← inspectRecord backend store.active request.username false
  checkGeneration inspected request.expectedGeneration
  prepareAppend backend request inspected operation

def loadExpected (u : CanonicalUsername) (inspected : Option InspectedRecord) (operation : BudgetPermit)
    (expectedGeneration : UInt64) : Op D EnrollmentRecord := do
  match ← loadOptionalForMutation backend u inspected operation with
  | none => throw (.conflict absentGeneration)
  | some record =>
    refuseIf (record.generation ≠ expectedGeneration) (.conflict record.generation)
    pure record

def modelOf (record : EnrollmentRecord) : BackendResult (Option AuthModel) :=
  if record.entries = [] then .ok none else some <$> AuthModel.fromRecord record

def prepareRemove (request : RemoveRequest) (record : EnrollmentRecord) (operation : BudgetPermit) :
    BackendResult (Prepared RemoveResult) := do
  let index ← (record.entries.findIdx? (·.enrollmentId = request.enrollmentId)).elim
    (.error (.conflict record.generation)) .ok
  let generation ← (checkedNextGeneration record.generation).mapError mapStorageError
  let replacement ← (EnrollmentRecord.new generation backend.recognizerModel request.username
    (record.entries.eraseIdx index)).mapError mapMutationRecordError
  let model ← modelOf replacement
  pure ⟨.remove request, some replacement, model, operation, ⟨generation, request.enrollmentId⟩⟩

def planRemove (request : RemoveRequest) : Op D (Prepared RemoveResult) := do
  let inspected ← inspectRecord backend store.active request.username false
  checkGeneration inspected request.expectedGeneration
  let required ← fromExcept (inspected.elim (.ok 1) fun i =>
    (·.mutationPeakBytes) <$> PlaintextAllocationEstimate.forReplacementOfEncryptedHeader i.header)
  let operation ← reserveOperationForUser required request.username
  let record ← loadExpected backend request.username inspected operation request.expectedGeneration
  fromExcept (prepareRemove backend request record operation)

def planClear (request : ClearRequest) : Op D (Prepared ClearResult) := do
  let inspected ← inspectRecord backend store.active request.username false
  checkGeneration inspected request.expectedGeneration
  let required ← fromExcept (inspected.elim (.ok 1) fun i =>
    (·.coldLoadPeakBytes) <$> PlaintextAllocationEstimate.forEncryptedHeader i.header)
  let operation ← reserveOperationForUser required request.username
  let record ← loadExpected backend request.username inspected operation request.expectedGeneration
  pure ⟨.clear request, none, none, operation, ⟨absentGeneration, record.entries.length⟩⟩

def append (n : ℕ) (request : AppendRequest) : Op D AppendResult :=
  mutate backend store n request.username (planAppend backend store request)

def appendAdmitted (n : ℕ) (request : AppendRequest) (operation : BudgetPermit) : Op D AppendResult :=
  mutate backend store n request.username (planAppendAdmitted backend store request operation)

def remove (n : ℕ) (request : RemoveRequest) : Op D RemoveResult :=
  mutate backend store n request.username (planRemove backend store request)

def clear (n : ℕ) (request : ClearRequest) : Op D ClearResult :=
  mutate backend store n request.username (planClear backend store request)

end Howy.Storage.Mode1
