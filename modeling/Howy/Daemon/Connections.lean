import Howy.Library.Runs
import Howy.Library.Tables

/-! The connection slots of the daemon: who holds them, and what the recorded counts say about it. -/

namespace Howy.Daemon.Connections

open Library

def maxConnectionWorkers : ℕ := 64
def reservedConnections : ℕ := 8
def maxConnectionsPerUid : ℕ := 8

structure ConnectionAccounting where
  total : ℕ
  byUid : Table UInt32 ℕ

def tryAcquire (counts : ConnectionAccounting) (uid : UInt32) : Option ConnectionAccounting :=
  let perUid := (counts.byUid.lookup uid).getD 0
  let unprivilegedLimit := maxConnectionWorkers - reservedConnections
  if maxConnectionWorkers ≤ counts.total ∨ (uid ≠ 0 ∧ unprivilegedLimit ≤ counts.total) ∨
      (uid ≠ 0 ∧ maxConnectionsPerUid ≤ perUid) then none
  else some ⟨counts.total + 1, counts.byUid.insert uid (perUid + 1)⟩

def dropPermit (counts : ConnectionAccounting) (uid : UInt32) : ConnectionAccounting where
  total := counts.total - 1
  byUid :=
    match counts.byUid.lookup uid with
    | some count => if count - 1 = 0 then counts.byUid.erase uid else counts.byUid.insert uid (count - 1)
    | none => counts.byUid

structure World where
  counts : ConnectionAccounting
  live : List UInt32

inductive Event where
  | tryAcquire (uid : UInt32)
  | drop (uid : UInt32)
deriving DecidableEq

def step (w : World) : Event → World × Bool
  | .tryAcquire uid =>
    match tryAcquire w.counts uid with
    | some counts => (⟨counts, uid :: w.live⟩, true)
    | none => (w, false)
  | .drop uid => if uid ∈ w.live then (⟨dropPermit w.counts uid, w.live.erase uid⟩, true) else (w, false)

def initial : World := ⟨⟨0, ∅⟩, []⟩

def reached (events : List Event) : World := final step initial events

def recordedCount (count : ℕ) : Option ℕ := if count = 0 then none else some count

structure Accounted (w : World) : Prop where
  total : w.counts.total = w.live.length
  byUid : ∀ uid, w.counts.byUid.lookup uid = recordedCount (w.live.count uid)
  workers : w.live.length ≤ maxConnectionWorkers
  perUid : ∀ uid, uid ≠ 0 → w.live.count uid ≤ maxConnectionsPerUid
  unprivileged : w.live.countP (· ≠ 0) ≤ maxConnectionWorkers - reservedConnections

variable {w : World} {uid : UInt32}

lemma getD_recordedCount (count : ℕ) : (recordedCount count).getD 0 = count := by
  rw [recordedCount]
  split <;> simp_all

lemma accounted_tryAcquire (h : Accounted w) {counts : ConnectionAccounting}
    (hc : tryAcquire w.counts uid = some counts) : Accounted ⟨counts, uid :: w.live⟩ := by
  simp only [tryAcquire, h.byUid, getD_recordedCount, h.total, Option.ite_none_left_eq_some, not_or,
    not_and, not_le, Option.some.injEq] at hc
  obtain ⟨⟨hworkers, hunprivileged, hper⟩, rfl⟩ := hc
  have hcountP := List.countP_le_length (p := fun x : UInt32 => decide (x ≠ 0)) (l := w.live)
  refine ⟨rfl, fun other => ?_, hworkers, fun other hother => ?_, ?_⟩
  · rw [lookup_insert_eq, h.byUid]
    by_cases ho : other = uid
    · simp [ho, recordedCount]
    · simp [ho, Ne.symm ho]
  · by_cases ho : uid = other
    · subst ho
      simpa [Nat.succ_le_iff] using hper hother
    · simpa [ho] using h.perUid other hother
  · rw [List.countP_cons]
    by_cases hu : uid = 0
    · simpa [hu] using h.unprivileged
    · have hroom := hunprivileged hu
      rw [if_pos (by simpa using hu)]
      omega

lemma accounted_dropPermit (h : Accounted w) (hu : uid ∈ w.live) :
    Accounted ⟨dropPermit w.counts uid, w.live.erase uid⟩ := by
  have hlength := List.length_erase_of_mem hu
  have hpos := List.count_pos_iff.mpr hu
  have hsub := List.erase_sublist (a := uid) (l := w.live)
  refine ⟨?_, fun other => ?_, hsub.length_le.trans h.workers, fun other ho => ?_, ?_⟩
  · rw [hlength, dropPermit, h.total]
  · simp only [dropPermit, h.byUid uid, recordedCount, hpos.ne', if_false]
    by_cases ho : other = uid
    · subst ho
      rw [List.count_erase_self]
      split
      · rw [AList.lookup_erase]
      · rw [AList.lookup_insert]
    · rw [List.count_erase_of_ne ho]
      split
      · rw [AList.lookup_erase_ne ho, h.byUid, recordedCount]
      · rw [AList.lookup_insert_ne ho, h.byUid, recordedCount]
  · exact (hsub.count_le other).trans (h.perUid other ho)
  · exact (hsub.countP_le).trans h.unprivileged

lemma accounted_step (h : Accounted w) (e : Event) : Accounted (step w e).1 := by
  cases e with
  | tryAcquire uid =>
    rw [step]
    split
    next hc =>
      exact accounted_tryAcquire h hc
    · exact h
  | drop uid =>
    rw [step]
    split
    next hu =>
      exact accounted_dropPermit h hu
    · exact h

lemma accounted_reached {events : List Event} : Accounted (reached events) := by
  refine final_invariant (fun w e h => accounted_step (w := w) h e) ?_ events
  exact ⟨rfl, fun _ => rfl, Nat.zero_le _, fun _ _ => Nat.zero_le _, Nat.zero_le _⟩

lemma countP_add_count_zero (live : List UInt32) : live.countP (· ≠ 0) + live.count 0 = live.length := by
  have h := List.length_eq_countP_add_countP (fun x : UInt32 => decide (x ≠ 0)) (l := live)
  rw [h, List.count]
  congr 2
  funext x
  by_cases hx : x = 0 <;> simp [hx]

/-- What the accounting records of the live permits after any calls and drops, and when it refuses root. -/
theorem connection_slots_conserved (events : List Event) :
    let w := reached events
    Accounted w ∧
    (∀ uid ∈ w.live, 1 ≤ w.counts.total ∧ ∃ count, w.counts.byUid.lookup uid = some count ∧ 1 ≤ count) ∧
      (tryAcquire w.counts 0 = none → reservedConnections ≤ w.live.count 0) := by
  intro w
  have h : Accounted w := accounted_reached
  refine ⟨h, fun uid hu => ⟨?_, w.live.count uid, ?_, List.count_pos_iff.mpr hu⟩, fun hrefused => ?_⟩
  · rw [h.total]
    exact List.length_pos_of_mem hu
  · rw [h.byUid, recordedCount, if_neg (List.count_pos_iff.mpr hu).ne']
  · simp only [tryAcquire, ne_eq, not_true_eq_false, false_and, or_false, ite_eq_left_iff, reduceCtorEq, imp_false,
      not_not, h.total] at hrefused
    have hsplit := countP_add_count_zero w.live
    have hroom := h.unprivileged
    simp only [maxConnectionWorkers, reservedConnections] at hrefused hroom ⊢
    omega

end Howy.Daemon.Connections
