import Howy.Library.Ownership
import Howy.Prompt.Events

/-! The four tables of the manager: what they keep invariant and which slots each change frees and fills. -/

namespace Howy.Prompt

open Library

structure Tables where
  provisional : Table BindingDigest ProvisionalRecord
  pending : Table BindingDigest PendingRecord
  pendingByConnection : Table BindingDigest BindingDigest
  active : Table ℕ ActiveRecord
  nextActive : ℕ

def tablesOf (s : ManagerState) : Tables :=
  ⟨s.provisional, s.pending, s.pendingByConnection, s.active, s.nextActive⟩

inductive Slot where
  | provisional (connection : BindingDigest)
  | pending (connection lookup : BindingDigest)
  | claim (activeId : ℕ)
  | lease (activeId : ℕ)
deriving DecidableEq

def slotOf : Handle → Slot
  | .reservation connection => .provisional connection
  | .issue connection lookup _ => .pending connection lookup
  | .claim c => .claim c.activeId
  | .lease activeId => .lease activeId

def Occupied (t : Tables) : Slot → Prop
  | .provisional connection => ∃ p, t.provisional.lookup connection = some p
  | .pending connection lookup => ∃ r, t.pending.lookup lookup = some r ∧ r.connectionBinding = connection
  | .claim activeId => ∃ l, t.active.lookup activeId = some (.claim l)
  | .lease activeId => ∃ l, t.active.lookup activeId = some (.active l)

structure Sound (m : ManagerInner) (t : Tables) : Prop where
  total_le : size t.provisional + size t.pending ≤ m.maxPendingGlobal
  forUid_le : ∀ uid, countValues (fun r => r.peerUid == uid) t.provisional +
    countValues (fun r => r.peerUid == uid) t.pending ≤ m.maxPendingPerUid
  active_le : size t.active ≤ m.maxActive
  bijection : ∀ c l, t.pendingByConnection.lookup c = some l ↔
    ∃ r, t.pending.lookup l = some r ∧ r.connectionBinding = c
  provisional_free : ∀ c p, t.provisional.lookup c = some p → t.pendingByConnection.lookup c = none
  pending_ne_active : ∀ l r id a, t.pending.lookup l = some r → t.active.lookup id = some a → a.tokenLookup ≠ l
  active_inj : ∀ id id' a a', t.active.lookup id = some a → t.active.lookup id' = some a' →
    a.tokenLookup = a'.tokenLookup → id = id'
  active_lt : ∀ id a, t.active.lookup id = some a → id < t.nextActive

structure Moves (m : ManagerInner) (t t' : Tables) (freed filled : Option Slot) : Prop where
  sound : Sound m t'
  free : ∀ x, some x = filled → ¬ Occupied t x
  occupied : ∀ x, Occupied t' x ↔ (Occupied t x ∧ some x ≠ freed) ∨ some x = filled

lemma Moves.trans_fill {m : ManagerInner} {t t' t'' : Tables} {freed filled : Option Slot}
    (h : Moves m t t' freed none) (h' : Moves m t' t'' none filled)
    (hfree : ∀ x, some x = filled → ¬ Occupied t x) : Moves m t t'' freed filled := by
  refine ⟨h'.sound, hfree, fun x => ?_⟩
  rw [h'.occupied, h.occupied]
  simp

end Howy.Prompt
