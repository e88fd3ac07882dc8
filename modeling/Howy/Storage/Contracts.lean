import Howy.Storage.Records

/-! What the storage backends of both modes promise their callers: errors, requests, results and snapshots. -/

namespace Howy.Storage

inductive BackendUnavailable where
  | notInitialized
  | keyUnavailable
  | permissionDenied
  | io
  | integrity
deriving DecidableEq

inductive BackendHealth where
  | ready
  | unavailable (reason : BackendUnavailable)
deriving DecidableEq

inductive CandidatePresence where
  | absent
  | candidate (generation : UInt64)
deriving DecidableEq

structure PromptStorageSnapshot where
  health : BackendHealth
  candidate : CandidatePresence
  backendIdentity : FixedArray UInt8 32
  policyGeneration : FixedArray UInt8 32
deriving DecidableEq

inductive IoOperation where
  | inspect
  | open
  | read
  | create
  | write
  | sync
  | rename
  | remove
deriving DecidableEq

inductive IoKind where
  | notFound
  | permissionDenied
  | alreadyExists
  | other
deriving DecidableEq

inductive StorageBackendError where
  | absent
  | conflict (currentGeneration : UInt64)
  | modeMismatch
  | keyMismatch
  | modelMismatch
  | corrupt
  | authenticationFailed
  | generationOverflow
  | unavailable
  | memoryBudgetExceeded (requested available : ℕ)
  | invalidInput (what : String)
  | io (operation : IoOperation) (kind : IoKind)
deriving DecidableEq

abbrev BackendResult := Except StorageBackendError

def absentGeneration : UInt64 := 0

structure AppendRequest where
  username : CanonicalUsername
  expectedGeneration : UInt64
  entries : List EnrollmentEntry
  entries_ne_nil : entries ≠ []
deriving DecidableEq

structure RemoveRequest where
  username : CanonicalUsername
  expectedGeneration : UInt64
  enrollmentId : EnrollmentId
  expectedGeneration_ne_absent : expectedGeneration ≠ absentGeneration
deriving DecidableEq

structure ClearRequest where
  username : CanonicalUsername
  expectedGeneration : UInt64
  expectedGeneration_ne_absent : expectedGeneration ≠ absentGeneration
deriving DecidableEq

structure AppendResult where
  generation : UInt64
  appended : ℕ
  totalEntries : ℕ
deriving DecidableEq

structure RemoveResult where
  generation : UInt64
  enrollmentId : EnrollmentId
deriving DecidableEq

structure ClearResult where
  generation : UInt64
  removed : ℕ
deriving DecidableEq

inductive OuterRecordClassification where
  | candidate (generation : UInt64)
  | modeMismatch
  | keyMismatch
  | modelMismatch
  | corrupt
deriving DecidableEq

structure OuterRecordStatus where
  username : CanonicalUsername
  classification : OuterRecordClassification
deriving DecidableEq

def checkedNextGeneration (generation : UInt64) : Except StorageError UInt64 :=
  if generation.toNat + 1 < 2 ^ 64 then .ok (generation + 1) else .error .generationOverflow

lemma checkedNextGeneration_eq_ok {g g' : UInt64} (h : checkedNextGeneration g = .ok g') :
    g'.toNat = g.toNat + 1 ∧ g' = g + 1 := by
  rw [checkedNextGeneration] at h
  split at h
  next hlt =>
    cases h
    refine ⟨?_, rfl⟩
    exact Nat.mod_eq_of_lt hlt
  · cases h

end Howy.Storage
