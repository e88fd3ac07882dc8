import Howy.Storage.Mode1Calls

/-! The other requests that a Mode 1 backend answers: candidates, metadata, enrollment admissions and its
health. -/

namespace Howy.Storage.Mode1

open Library

structure EnrollmentMetadata where
  enrollmentId : EnrollmentId
  label : String
  createdUnixSeconds : UInt64
  generation : UInt64
deriving DecidableEq

structure MetadataList where
  generation : UInt64
  entries : List EnrollmentMetadata
deriving DecidableEq

def MetadataList.fromRecord (record : EnrollmentRecord) : MetadataList where
  generation := record.generation
  entries := record.entries.map fun entry => ⟨entry.enrollmentId, entry.label, entry.createdUnixSeconds,
    record.generation⟩

structure AppendAdmissionShape where
  maxNewEntries : ℕ
  maxNewLabelBytes : ℕ
  maxNewEntries_pos : 0 < maxNewEntries
  maxNewEntries_le : maxNewEntries ≤ maxEntries
  maxNewLabelBytes_le : maxNewLabelBytes ≤ maxNewEntries * maxLabelBytes
deriving DecidableEq

structure EnrollmentAdmission where
  operation : BudgetPermit
  plaintext : BudgetPermit
deriving DecidableEq

variable {D : Type} (backend : Mode1StorageBackend) (store : RecordStore D)

def candidateOf : BackendResult LoadedRecord → BackendResult CandidatePresence
  | .ok loaded => .ok (if loaded.record.entries = [] then .absent else .candidate loaded.record.generation)
  | .error .absent => .ok .absent
  | .error e => .error e

def candidatePresence (n : ℕ) (u : CanonicalUsername) : Op D CandidatePresence :=
  holdingReload n false do
    ensureAvailable
    match ← cacheGeneration u with
    | some g =>
      ensureAvailable
      pure (.candidate g)
    | none =>
      holdingUser ⟨n, false⟩ u false do
        ensureAvailable
        match ← cacheGeneration u with
        | some g =>
          ensureAvailable
          pure (.candidate g)
        | none =>
          let result ← captured (loadRecord backend store u false)
          ensureAvailable
          fromExcept (candidateOf result)

def listMetadata (n : ℕ) (u : CanonicalUsername) : Op D MetadataList :=
  holdingReload n false do
    ensureAvailable
    holdingUser ⟨n, false⟩ u false do
      ensureAvailable
      let result ← captured (loadRecord backend store u false)
      ensureAvailable
      fromExcept (result.map fun loaded => MetadataList.fromRecord loaded.record)

def verifyRecord (n : ℕ) (u : CanonicalUsername) : Op D MetadataList := listMetadata backend store n u

def admittedAppendEstimate (inspected : Option InspectedRecord) (shape : AppendAdmissionShape) :
    BackendResult PlaintextAllocationEstimate := do
  let estimate ← PlaintextAllocationEstimate.forAppendShape (inspected.map (·.header)) shape.maxNewEntries
    shape.maxNewLabelBytes
  failIf (backend.limits.maxEntries < inspected.elim 0 (·.header.entryCount.toNat) + shape.maxNewEntries ∨
    backend.limits.maxPlaintextBytes < estimate.encodedPayloadBytes) (.invalidInput "record shape")
  pure estimate

def reserveEnrollmentForUser (operationBytes plaintextBytes : ℕ) (u : CanonicalUsername) :
    Op D EnrollmentAdmission := do
  let (operation, plaintext) ← onCache fun c s =>
    s.reserveEnrollmentExcept operationBytes plaintextBytes (some u) c.refusals c.available
  pure ⟨⟨operation, true⟩, ⟨plaintext, true⟩⟩

/-- `held` tells whether another admission of this user is still alive, so that `try_acquire` fails. -/
def admitEnrollment (n : ℕ) (u : CanonicalUsername) (plaintextBytes : ℕ)
    (shape : AppendAdmissionShape) (held : Bool) : Op D EnrollmentAdmission := do
  refuseIf (held = true) .unavailable
  holdingReload n false do
    ensureAvailable
    holdingUser ⟨n, false⟩ u false do
      ensureAvailable
      let inspected ← inspectRecord backend store.active u false
      let estimate ← fromExcept (admittedAppendEstimate backend inspected shape)
      let admission ← reserveEnrollmentForUser estimate.mutationPeakBytes plaintextBytes u
      ensureAvailable
      pure admission

def health : Op D BackendHealth :=
  query fun _ s => .ok (if s.poisoned then .unavailable .integrity else .ready)

inductive Request where
  | call (call : Call)
  | candidatePresence (u : CanonicalUsername)
  | listMetadata (u : CanonicalUsername)
  | verifyRecord (u : CanonicalUsername)
  | admitEnrollment (u : CanonicalUsername) (plaintextBytes : ℕ) (shape : AppendAdmissionShape) (held : Bool)
  | health

inductive Reply where
  | answer (answer : Answer)
  | candidate (candidate : CandidatePresence)
  | metadata (metadata : MetadataList)
  | admission (admission : EnrollmentAdmission)
  | health (health : BackendHealth)
deriving DecidableEq

def Request.op (n : ℕ) : Request → Op D Reply
  | .call c => .answer <$> c.op backend store n
  | .candidatePresence u => .candidate <$> Mode1.candidatePresence backend store n u
  | .listMetadata u => .metadata <$> Mode1.listMetadata backend store n u
  | .verifyRecord u => .metadata <$> Mode1.verifyRecord backend store n u
  | .admitEnrollment u plaintextBytes shape held =>
    .admission <$> Mode1.admitEnrollment backend store n u plaintextBytes shape held
  | .health => .health <$> Mode1.health

end Howy.Storage.Mode1
