import Howy.Storage.Backend

/-! What an append, a removal and a clearing mean, for records of either mode. -/

namespace Howy.Storage

/-- The record a mutation finds. The generation of a legacy source does not count. -/
structure Found where
  record : EnrollmentRecord
  legacy : Bool
deriving DecidableEq

def generationOf (found : Option Found) : UInt64 := found.elim absentGeneration (·.record.generation)

def foundEntries (found : Option Found) : List EnrollmentEntry := found.elim [] (·.record.entries)

def nextGeneration : Option Found → ℕ
  | none => 1
  | some found => if found.legacy then 1 else found.record.generation.toNat + 1

def username : Mutation → CanonicalUsername
  | .append request => request.username
  | .remove request => request.username
  | .clear request => request.username

inductive Applies (found : Option Found) : Mutation → Option EnrollmentRecord → Prop where
  | append {request : AppendRequest} {record : EnrollmentRecord}
      (expected : request.expectedGeneration = generationOf found)
      (named : record.username = request.username)
      (entries : record.entries = foundEntries found ++ request.entries)
      (generation : record.generation.toNat = nextGeneration found) : Applies found (.append request) (some record)
  | remove {request : RemoveRequest} {before : Found} {record : EnrollmentRecord} (present : found = some before)
      (expected : request.expectedGeneration = generationOf found) (named : record.username = request.username)
      (enrolled : request.enrollmentId ∈ before.record.entries.map (·.enrollmentId))
      (entries : record.entries = before.record.entries.filter (·.enrollmentId ≠ request.enrollmentId))
      (generation : record.generation.toNat = nextGeneration found) : Applies found (.remove request) (some record)
  | clear {request : ClearRequest} {before : Found} (present : found = some before)
      (expected : request.expectedGeneration = generationOf found) : Applies found (.clear request) none

variable {found : Option Found} {m : Mutation} {after : Option EnrollmentRecord}

lemma Applies.named (h : Applies found m after) {record : EnrollmentRecord} (ha : after = some record) :
    record.username = username m := by
  cases h <;> cases ha <;> assumption

lemma eraseIdx_eq_filter {entries : List EnrollmentEntry} (hn : (entries.map (·.enrollmentId)).Nodup)
    {id : EnrollmentId} {i : ℕ} (h : entries.findIdx? (·.enrollmentId = id) = some i) :
    id ∈ entries.map (·.enrollmentId) ∧ entries.eraseIdx i = entries.filter (·.enrollmentId ≠ id) := by
  induction entries generalizing i with
  | nil => cases h
  | cons e es ih =>
    rw [List.map_cons, List.nodup_cons] at hn
    rw [List.findIdx?_cons] at h
    by_cases he : e.enrollmentId = id
    · rw [if_pos (decide_eq_true he), Option.some.injEq] at h
      subst h he
      refine ⟨List.mem_map_of_mem List.mem_cons_self, ?_⟩
      rw [List.eraseIdx_zero, List.tail_cons, List.filter_cons_of_neg (by simp), eq_comm, List.filter_eq_self]
      intro x hx
      refine decide_eq_true fun hxe => hn.1 ?_
      rw [← hxe]
      exact List.mem_map_of_mem hx
    · rw [if_neg (by simpa using he), Option.map_eq_some_iff] at h
      obtain ⟨j, hj, rfl⟩ := h
      obtain ⟨hmem, hfilter⟩ := ih hn.2 hj
      refine ⟨List.mem_cons_of_mem _ hmem, ?_⟩
      rw [List.eraseIdx_cons_succ, hfilter, List.filter_cons_of_pos (by simpa using he)]

end Howy.Storage
