import Howy.Library.Tables
import Howy.Storage.Estimates

/-! The model cache: least recently used eviction, and a revision that every change of its entries advances. -/

namespace Howy.Storage

open Library

structure ModelCacheLimits where
  maxUsers : ℕ
  maxBytes : ℕ
  maxUsers_pos : 0 < maxUsers
  maxBytes_pos : 0 < maxBytes
  maxUsers_lt : maxUsers < 2 ^ 32
  maxBytes_lt : maxBytes < 2 ^ 64

structure CacheEntry where
  model : AuthModel
  bytes : ℕ
  lastUsed : ℕ
deriving DecidableEq

/-- `panicked` tells that the byte accounting has failed one of its `expect`s. -/
structure CacheState where
  entries : Table CanonicalUsername CacheEntry
  bytes : ℕ
  clock : ℕ
  revision : ℕ
  disabled : Bool
  panicked : Bool

namespace CacheState

def empty : CacheState := ⟨∅, 0, 0, 0, false, false⟩

def lastClock : ℕ := 2 ^ 64 - 1

section

variable (s : CacheState)

def nextClock : CacheState :=
  if s.clock = lastClock then
    { s with
      entries := ⟨s.entries.entries.map fun e => ⟨e.1, { e.2 with lastUsed := 0 }⟩, by
        have h := s.entries.nodupKeys
        rw [List.NodupKeys, List.keys, List.map_map] at *
        exact h⟩
      clock := 1 }
  else { s with clock := s.clock + 1 }

def remove (u : CanonicalUsername) : Option CacheState :=
  match s.entries.lookup u with
  | none => none
  | some e =>
    some { s with
      entries := s.entries.erase u
      bytes := s.bytes - e.bytes
      revision := s.revision + 1
      panicked := s.panicked || decide (s.bytes < e.bytes) }

def older (a b : (_ : CanonicalUsername) × CacheEntry) : Bool :=
  decide (a.2.lastUsed < b.2.lastUsed) || (a.2.lastUsed == b.2.lastUsed && decide (a.1.name < b.1.name))

def oldest : List ((_ : CanonicalUsername) × CacheEntry) → Option CanonicalUsername
  | [] => none
  | e :: es => some (es.foldl (fun best x => if older x best then x else best) e).1

def evictLruExcept (protected_ : Option CanonicalUsername) : Option CacheState :=
  match oldest (s.entries.entries.filter fun e => protected_ ≠ some e.1) with
  | none => none
  | some u => s.remove u

def evictLru : Option CacheState := s.evictLruExcept none

def touch (u : CanonicalUsername) : Option AuthModel × CacheState :=
  if s.disabled then (none, s)
  else
    let s := s.nextClock
    match s.entries.lookup u with
    | none => (none, s)
    | some e => (some e.model, { s with entries := s.entries.insert u { e with lastUsed := s.clock } })

def get (u : CanonicalUsername) : Option AuthModel × CacheState := s.touch u

def generation (u : CanonicalUsername) : Option UInt64 × CacheState :=
  ((s.touch u).1.map (·.generation), (s.touch u).2)

end

def reserveLoop (protected_ : Option CanonicalUsername) : ℕ → CacheState → Bool × CacheState
  | 0, s => (true, s)
  | n + 1, s =>
    match s.evictLruExcept protected_ with
    | none => (false, s)
    | some s => reserveLoop protected_ n s

def reserveOperationExcept (s : CacheState) (bytes : ℕ) (protected_ : Option CanonicalUsername)
    (refusals available : ℕ) : BackendResult ℕ × CacheState :=
  if s.disabled then (.error .unavailable, s)
  else if bytes = 0 then (.error (.invalidInput "zero-byte reservation"), s)
  else
    match reserveLoop protected_ refusals s with
    | (true, s) => (.ok bytes, s)
    | (false, s) => (.error (.memoryBudgetExceeded bytes available), s)

/-- `reserve_enrollment_except`, where the budget reserves both parts at once; it refuses a sum that overflows
every time. -/
def reserveEnrollmentExcept (s : CacheState) (operationBytes plaintextBytes : ℕ)
    (protected_ : Option CanonicalUsername) (refusals available : ℕ) : BackendResult (ℕ × ℕ) × CacheState :=
  if s.disabled then (.error .unavailable, s)
  else if operationBytes = 0 ∨ plaintextBytes = 0 then (.error (.invalidInput "enrollment reservation"), s)
  else
    let refusals := if 2 ^ 64 ≤ operationBytes + plaintextBytes then size s.entries + 1 else refusals
    match reserveLoop protected_ refusals s with
    | (true, s) => (.ok (operationBytes, plaintextBytes), s)
    | (false, s) =>
      (.error (.memoryBudgetExceeded (min (operationBytes + plaintextBytes) (2 ^ 64 - 1)) available), s)

/-- The sum saturates at the largest `usize`. -/
def crowded (limits : ModelCacheLimits) (bytes : ℕ) (s : CacheState) : Bool :=
  decide (limits.maxUsers ≤ size s.entries) || decide (limits.maxBytes < min (s.bytes + bytes) (2 ^ 64 - 1))

def makeRoom (limits : ModelCacheLimits) (bytes : ℕ) : ℕ → CacheState → Bool × CacheState
  | 0, s => (!crowded limits bytes s, s)
  | n + 1, s =>
    if crowded limits bytes s then
      match s.evictLru with
      | none => (false, s)
      | some s => makeRoom limits bytes n s
    else (true, s)

def publishEntry (s : CacheState) (u : CanonicalUsername) (model : AuthModel) : CacheState :=
  let s := s.nextClock
  { s with
    bytes := s.bytes + model.plaintextBytes
    entries := s.entries.insert u ⟨model, model.plaintextBytes, s.clock⟩
    revision := s.revision + 1
    panicked := s.panicked || decide (2 ^ 64 ≤ s.bytes + model.plaintextBytes) }

def insert (limits : ModelCacheLimits) (s : CacheState) (u : CanonicalUsername) (model : AuthModel) (permit : ℕ) :
    BackendResult AuthModel × CacheState :=
  if limits.maxBytes < model.plaintextBytes then
    (.error (.memoryBudgetExceeded model.plaintextBytes limits.maxBytes), s)
  else if permit < model.plaintextBytes then (.error (.invalidInput "model reservation is too small"), s)
  else if s.disabled then (.error .unavailable, s)
  else
    let s := (s.remove u).getD s
    match makeRoom limits model.plaintextBytes (size s.entries) s with
    | (false, s) => (.error (.memoryBudgetExceeded model.plaintextBytes (limits.maxBytes - s.bytes)), s)
    | (true, s) => (.ok model, s.publishEntry u model)

def insertProvisionalIfRevision (limits : ModelCacheLimits) (s : CacheState) (u : CanonicalUsername)
    (expectedRevision : ℕ) (expectedGeneration : UInt64) (model : AuthModel) (publish : Bool) :
    BackendResult Bool × CacheState :=
  if model.generation ≠ expectedGeneration then (.error (.invalidInput "provisional cache generation"), s)
  else if limits.maxBytes < model.plaintextBytes then (.ok false, s)
  else if s.disabled then (.error .unavailable, s)
  else if s.revision ≠ expectedRevision ∨ (s.entries.lookup u).isSome then (.ok false, s)
  else if !publish then (.ok false, s)
  else
    match makeRoom limits model.plaintextBytes (size s.entries) s with
    | (false, s) => (.ok false, s)
    | (true, s) => (.ok true, s.publishEntry u model)

def invalidate (s : CacheState) (u : CanonicalUsername) : CacheState :=
  (s.remove u).getD { s with revision := s.revision + 1 }

def clear (s : CacheState) : CacheState := { s with revision := s.revision + 1, entries := ∅, bytes := 0 }

def poison (s : CacheState) : CacheState :=
  { s with disabled := true, revision := s.revision + 1, entries := ∅, bytes := 0 }

end CacheState

end Howy.Storage
