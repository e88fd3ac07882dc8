import Howy.Library.Runs
import Howy.Library.Tables
import Howy.Storage.Contracts

/-! The plaintext budget: every byte in use is owned by exactly one live permit, wherever that permit has been
moved. -/

namespace Howy.Storage.Budget

open Library

inductive Owner where
  | permit (bytes : ℕ)
  -- `reserve_enrollment` between its reservation and the split
  | combined (bytes inputBytes : ℕ)
  | admission (operation input : ℕ)
  -- the shared model with its permit, and how many cached models and leases share it
  | cached (bytes handles : ℕ)
  | ephemeral (bytes : ℕ)
deriving DecidableEq

def Owner.permits : Owner → List ℕ
  | permit bytes => [bytes]
  | combined bytes _ => [bytes]
  | admission operation input => [operation, input]
  | cached bytes _ => [bytes]
  | ephemeral bytes => [bytes]

/-- `panicked` tells that a checked subtraction has failed its `expect`. -/
structure PlaintextBudget where
  limit : ℕ
  used : ℕ
  owners : Table ℕ Owner
  next : ℕ
  panicked : Bool

def opened (limit : ℕ) : PlaintextBudget := ⟨limit, 0, ∅, 0, false⟩

def PlaintextBudget.new (limit : ℕ) : BackendResult PlaintextBudget :=
  if limit = 0 then .error (.invalidInput "plaintext budget") else .ok (opened limit)

inductive Call where
  | reserve (bytes : ℕ)
  | reserveEnrollment (operationBytes inputBytes : ℕ)
  | splitEnrollment (h : ℕ)
  | splitOff (h bytes : ℕ)
  | shrinkTo (h bytes : ℕ)
  | intoParts (h : ℕ)
  | cacheModel (h plaintextBytes : ℕ)
  | ephemeralLease (h plaintextBytes : ℕ)
  | share (h : ℕ)
  | drop (h : ℕ)
deriving DecidableEq

inductive Answer where
  | granted (h : ℕ)
  | refused (e : StorageBackendError)
  | done
  -- nothing of that kind is live under this handle
  | absent
deriving DecidableEq

namespace PlaintextBudget

def release (bytes : ℕ) (s : PlaintextBudget) : PlaintextBudget :=
  if s.used < bytes then { s with panicked := true } else { s with used := s.used - bytes }

def own (owner : Owner) (s : PlaintextBudget) : PlaintextBudget :=
  { s with owners := s.owners.insert s.next owner, next := s.next + 1 }

def become (h : ℕ) (owner : Owner) (s : PlaintextBudget) : PlaintextBudget :=
  { s with owners := s.owners.insert h owner }

def forget (h : ℕ) (s : PlaintextBudget) : PlaintextBudget := { s with owners := s.owners.erase h }

def reserveFor (bytes : ℕ) (owner : Owner) (s : PlaintextBudget) : PlaintextBudget × Answer :=
  if bytes = 0 then (s, .refused (.invalidInput "zero-byte reservation"))
  else match checkedAdd s.used bytes with
    | none => (s, .refused (.memoryBudgetExceeded bytes (s.limit - s.used)))
    | some newUsed =>
      if s.limit < newUsed then (s, .refused (.memoryBudgetExceeded bytes (s.limit - s.used)))
      else ({ s with used := newUsed }.own owner, .granted s.next)

def reserve (bytes : ℕ) (s : PlaintextBudget) : PlaintextBudget × Answer := s.reserveFor bytes (.permit bytes)

def reserveEnrollment (operationBytes inputBytes : ℕ) (s : PlaintextBudget) : PlaintextBudget × Answer :=
  if operationBytes = 0 ∨ inputBytes = 0 then (s, .refused (.invalidInput "enrollment reservation"))
  else match checkedAdd operationBytes inputBytes with
    | none => (s, .refused (.memoryBudgetExceeded (2 ^ 64 - 1) (s.limit - s.used)))
    | some total => s.reserveFor total (.combined total inputBytes)

/-- The split inside `reserve_enrollment`; were it refused, the combined permit would be dropped. -/
def splitEnrollment (h : ℕ) (s : PlaintextBudget) : PlaintextBudget × Answer :=
  match s.owners.lookup h with
  | some (.combined bytes inputBytes) =>
    if inputBytes = 0 ∨ bytes ≤ inputBytes then
      ((s.release bytes).forget h, .refused (.invalidInput "permit split size"))
    else (s.become h (.admission (bytes - inputBytes) inputBytes), .done)
  | _ => (s, .absent)

def splitOff (h bytes : ℕ) (s : PlaintextBudget) : PlaintextBudget × Answer :=
  match s.owners.lookup h with
  | some (.permit held) =>
    if bytes = 0 ∨ held ≤ bytes then (s, .refused (.invalidInput "permit split size"))
    else ((s.become h (.permit (held - bytes))).own (.permit bytes), .granted s.next)
  | _ => (s, .absent)

def shrinkTo (h bytes : ℕ) (s : PlaintextBudget) : PlaintextBudget × Answer :=
  match s.owners.lookup h with
  | some (.permit held) =>
    if bytes = 0 ∨ held < bytes then ((s.release held).forget h, .refused (.invalidInput "permit shrink size"))
    else ((s.release (held - bytes)).become h (.permit bytes), .done)
  | _ => (s, .absent)

def intoParts (h : ℕ) (s : PlaintextBudget) : PlaintextBudget × Answer :=
  match s.owners.lookup h with
  | some (.admission operation input) =>
    ((s.become h (.permit operation)).own (.permit input), .granted s.next)
  | _ => (s, .absent)

/-- `BudgetedAuthModel::new` for either kind of lease: a permit that is too small is dropped with the call. -/
def budgeted (owner : ℕ → Owner) (h plaintextBytes : ℕ) (s : PlaintextBudget) : PlaintextBudget × Answer :=
  match s.owners.lookup h with
  | some (.permit held) =>
    if held < plaintextBytes then
      ((s.release held).forget h, .refused (.invalidInput "model reservation is too small"))
    else (s.become h (owner held), .done)
  | _ => (s, .absent)

def cacheModel (h plaintextBytes : ℕ) (s : PlaintextBudget) : PlaintextBudget × Answer :=
  s.budgeted (.cached · 1) h plaintextBytes

def ephemeralLease (h plaintextBytes : ℕ) (s : PlaintextBudget) : PlaintextBudget × Answer :=
  s.budgeted .ephemeral h plaintextBytes

def share (h : ℕ) (s : PlaintextBudget) : PlaintextBudget × Answer :=
  match s.owners.lookup h with
  | some (.cached bytes handles) => (s.become h (.cached bytes (handles + 1)), .done)
  | _ => (s, .absent)

/-- A drop. The two permits of an admission are dropped one after the other, and other threads may run between; the
last handle of a cached model drops its permit. -/
def drop (h : ℕ) (s : PlaintextBudget) : PlaintextBudget × Answer :=
  match s.owners.lookup h with
  | some (.permit bytes) => ((s.release bytes).forget h, .done)
  | some (.admission operation input) => ((s.release operation).become h (.permit input), .done)
  | some (.cached bytes handles) =>
    if handles ≤ 1 then ((s.release bytes).forget h, .done) else (s.become h (.cached bytes (handles - 1)), .done)
  | some (.ephemeral bytes) => ((s.release bytes).forget h, .done)
  | some (.combined ..) | none => (s, .absent)

end PlaintextBudget

def step (s : PlaintextBudget) : Call → PlaintextBudget × Answer
  | .reserve bytes => s.reserve bytes
  | .reserveEnrollment operationBytes inputBytes => s.reserveEnrollment operationBytes inputBytes
  | .splitEnrollment h => s.splitEnrollment h
  | .splitOff h bytes => s.splitOff h bytes
  | .shrinkTo h bytes => s.shrinkTo h bytes
  | .intoParts h => s.intoParts h
  | .cacheModel h plaintextBytes => s.cacheModel h plaintextBytes
  | .ephemeralLease h plaintextBytes => s.ephemeralLease h plaintextBytes
  | .share h => s.share h
  | .drop h => s.drop h

def livePermits (s : PlaintextBudget) : List ℕ := (values s.owners).flatMap Owner.permits

def Owner.bytes (owner : Owner) : ℕ := owner.permits.sum

/-- How many drops the owner takes. -/
def Owner.handles : Owner → ℕ
  | permit _ | ephemeral _ => 1
  | combined .. | admission .. => 2
  | cached _ handles => handles

def Owner.WellFormed : Owner → Prop
  | combined bytes inputBytes => 0 < inputBytes ∧ inputBytes < bytes
  | cached _ handles => 0 < handles
  | _ => True

structure Conserved (limit : ℕ) (s : PlaintextBudget) : Prop where
  used : s.used = total Owner.bytes s.owners
  limit_eq : s.limit = limit
  used_le : s.used ≤ s.limit
  sound : s.panicked = false
  fresh : ∀ h, s.next ≤ h → s.owners.lookup h = none
  wellFormed : ∀ h owner, s.owners.lookup h = some owner → owner.WellFormed

lemma sum_livePermits {s : PlaintextBudget} : (livePermits s).sum = total Owner.bytes s.owners := by
  rw [livePermits, values, total]
  induction s.owners.entries with
  | nil => rfl
  | cons e es ih =>
    rw [List.map_cons, List.flatMap_cons, List.sum_append, ih]
    rfl

lemma wellFormed_insert {owners : Table ℕ Owner} {h : ℕ} {owner : Owner} (hw : owner.WellFormed)
    (ho : ∀ k o, owners.lookup k = some o → o.WellFormed) (k : ℕ) (o : Owner)
    (hk : (owners.insert h owner).lookup k = some o) : o.WellFormed := by
  rcases lookup_of_insert hk with ⟨-, rfl⟩ | ⟨-, hk⟩
  · exact hw
  · exact ho k o hk

open PlaintextBudget

section

variable {limit : ℕ} {s : PlaintextBudget} {h : ℕ} {owner : Owner}

section

variable (hc : Conserved limit s)

include hc

section

variable (ho : s.owners.lookup h = some owner)

include ho

lemma bytes_le_used : owner.bytes ≤ s.used := by
  have hsum := total_erase_add Owner.bytes ho
  rw [hc.used]
  omega

lemma lt_next : h < s.next := by
  by_contra hle
  rw [hc.fresh h (Nat.le_of_not_lt hle)] at ho
  cases ho

lemma conserved_forget :
    Conserved limit ((s.release owner.bytes).forget h) ∧
    ((s.release owner.bytes).forget h).used + owner.bytes = s.used := by
  have hle := bytes_le_used hc ho
  have hsum := total_erase_add Owner.bytes ho
  have hused := hc.used
  have hlimit := hc.used_le
  rw [release, if_neg (Nat.not_lt.mpr hle)]
  refine ⟨⟨?_, hc.limit_eq, ?_, hc.sound, fun k hk => ?_, fun k o hk => ?_⟩, ?_⟩
  · change s.used - owner.bytes = total Owner.bytes (s.owners.erase h)
    omega
  · change s.used - owner.bytes ≤ s.limit
    omega
  · change (s.owners.erase h).lookup k = none
    rw [lookup_erase_eq]
    split
    · rfl
    · exact hc.fresh k hk
  · exact hc.wellFormed k o (lookup_of_erase hk).1
  · change s.used - owner.bytes + owner.bytes = s.used
    omega

lemma conserved_become {owner' : Owner} {bytes : ℕ}
    (hb : owner.bytes = owner'.bytes + bytes) (hw : owner'.WellFormed) :
    Conserved limit ((s.release bytes).become h owner') := by
  have hsum := total_insert_of_lookup Owner.bytes ho owner'
  have hused := hc.used
  have hlimit := hc.used_le
  have hlt := lt_next hc ho
  rw [release, if_neg (by omega)]
  refine ⟨?_, hc.limit_eq, ?_, hc.sound, fun k hk => ?_, wellFormed_insert hw hc.wellFormed⟩
  · change s.used - bytes = total Owner.bytes (s.owners.insert h owner')
    omega
  · change s.used - bytes ≤ s.limit
    omega
  change (s.owners.insert h owner').lookup k = none
  have hk' : s.next ≤ k := hk
  rw [lookup_insert_eq, if_neg (by omega)]
  exact hc.fresh k hk

lemma conserved_split {left right : ℕ}
    (hb : owner.bytes = (Owner.permit left).bytes + (Owner.permit right).bytes) :
    Conserved limit ((s.become h (.permit left)).own (.permit right)) := by
  have hsum := total_insert_of_lookup Owner.bytes ho (.permit left)
  have hused := hc.used
  have hlt := lt_next hc ho
  have hnone : (s.owners.insert h (.permit left)).lookup s.next = none := by
    rw [lookup_insert_eq, if_neg (by omega)]
    exact hc.fresh _ le_rfl
  refine ⟨?_, hc.limit_eq, hc.used_le, hc.sound, fun k hk => ?_,
    wellFormed_insert trivial (wellFormed_insert trivial hc.wellFormed)⟩
  · change s.used = total Owner.bytes ((s.owners.insert h (.permit left)).insert s.next (.permit right))
    rw [total_insert_of_none _ hnone]
    omega
  · change ((s.owners.insert h (.permit left)).insert s.next (.permit right)).lookup k = none
    have hk' : s.next + 1 ≤ k := hk
    rw [lookup_insert_eq, if_neg (by omega), lookup_insert_eq, if_neg (by omega)]
    exact hc.fresh k (by omega)

end

lemma conserved_reserved (hroom : s.used + owner.bytes ≤ s.limit) (hw : owner.WellFormed) :
    Conserved limit ({ s with used := s.used + owner.bytes }.own owner) := by
  have hnone := hc.fresh s.next le_rfl
  have hused := hc.used
  refine ⟨?_, hc.limit_eq, hroom, hc.sound, fun k hk => ?_, wellFormed_insert hw hc.wellFormed⟩
  · change s.used + owner.bytes = total Owner.bytes (s.owners.insert s.next owner)
    rw [total_insert_of_none _ hnone]
    omega
  · change (s.owners.insert s.next owner).lookup k = none
    have hk' : s.next + 1 ≤ k := hk
    rw [lookup_insert_eq, if_neg (by omega)]
    exact hc.fresh k (by omega)

end

end

def Call.argument : Call → Option ℕ
  | .splitEnrollment h | .shrinkTo h _ | .cacheModel h _ | .ephemeralLease h _ => some h
  | _ => none

def argumentBytes (s : PlaintextBudget) (call : Call) : ℕ :=
  (call.argument.bind fun h => s.owners.lookup h).elim 0 Owner.bytes

def OnlyDrops (s : PlaintextBudget) (call : Call) (s' : PlaintextBudget) : Prop :=
  s'.used + argumentBytes s call = s.used ∧
    s'.owners = call.argument.elim s.owners fun h => s.owners.erase h

def handlesOf (s : PlaintextBudget) (h : ℕ) : ℕ := (s.owners.lookup h).elim 0 Owner.handles

/-- What the holders still have to drop under each name, read from a call and the answer to it. -/
def account (held : ℕ → ℕ) : Call × Answer → ℕ → ℕ
  | (.reserve _, .granted h) | (.splitOff _ _, .granted h) => Function.update held h 1
  | (.reserveEnrollment _ _, .granted h) => Function.update held h 2
  | (.intoParts h, .granted h') => Function.update (Function.update held h 1) h' 1
  | (.share h, .done) => Function.update held h (held h + 1)
  | (.drop h, .done) => Function.update held h (held h - 1)
  -- a refused call drops the permit it was given
  | (call, .refused _) => call.argument.elim held fun h => Function.update held h 0
  | _ => held

def heldAfter (past : List (Call × Answer)) : ℕ → ℕ := past.foldl account fun _ => 0

lemma owners_release (bytes : ℕ) (s : PlaintextBudget) : (s.release bytes).owners = s.owners := by
  rw [release]
  split <;> rfl

variable {limit : ℕ} {s : PlaintextBudget} {h : ℕ} {owner : Owner} {call : Call}

lemma handlesOf_release (bytes : ℕ) : handlesOf (s.release bytes) = handlesOf s := by
  unfold handlesOf
  rw [owners_release]

lemma handlesOf_forget : handlesOf (s.forget h) = Function.update (handlesOf s) h 0 := by
  ext k
  simp only [handlesOf, forget, lookup_erase_eq, Function.update_apply]
  split <;> rfl

lemma handlesOf_insert : (fun k => ((s.owners.insert h owner).lookup k).elim 0 Owner.handles) =
    Function.update (handlesOf s) h owner.handles := by
  ext k
  simp only [handlesOf, lookup_insert_eq, Function.update_apply]
  split <;> rfl

lemma handlesOf_eq (ho : s.owners.lookup h = some owner) : handlesOf s h = owner.handles := by
  rw [handlesOf, ho]
  rfl

lemma update_handles {n : ℕ} (ho : s.owners.lookup h = some owner) (hn : owner.handles = n) :
    Function.update (handlesOf s) h n = handlesOf s := by
  rw [← hn, ← handlesOf_eq ho, Function.update_eq_self]

/-- What a call can do: to the budget, to its owners and to what their holders have to drop. -/
inductive Effect (s : PlaintextBudget) (call : Call) : PlaintextBudget × Answer → Prop
  | refused (e : StorageBackendError) (hcall : call.argument = none) : Effect s call (s, .refused e)
  | absent (hheld : account (handlesOf s) (call, .absent) = handlesOf s) : Effect s call (s, .absent)
  | reserved (owner : Owner) (hroom : s.used + owner.bytes ≤ s.limit) (hw : owner.WellFormed)
      (hheld : account (handlesOf s) (call, .granted s.next) = Function.update (handlesOf s) s.next
        owner.handles) :
      Effect s call ({ s with used := s.used + owner.bytes }.own owner, .granted s.next)
  | discarded {h : ℕ} {owner : Owner} (e : StorageBackendError) (ho : s.owners.lookup h = some owner)
      (hcall : call.argument = some h) : Effect s call ((s.release owner.bytes).forget h, .refused e)
  | changed {h : ℕ} {owner : Owner} (owner' : Owner) (bytes : ℕ) (ho : s.owners.lookup h = some owner)
      (hb : owner.bytes = owner'.bytes + bytes) (hw : owner'.WellFormed)
      (hheld : account (handlesOf s) (call, .done) = Function.update (handlesOf s) h owner'.handles) :
      Effect s call ((s.release bytes).become h owner', .done)
  | parted {h : ℕ} {owner : Owner} (left right : ℕ) (ho : s.owners.lookup h = some owner)
      (hb : owner.bytes = (Owner.permit left).bytes + (Owner.permit right).bytes)
      (hheld : account (handlesOf s) (call, .granted s.next) =
        Function.update (Function.update (handlesOf s) h 1) s.next 1) :
      Effect s call ((s.become h (.permit left)).own (.permit right), .granted s.next)
  | dropped {h : ℕ} {owner : Owner} (ho : s.owners.lookup h = some owner)
      (hheld : account (handlesOf s) (call, .done) = Function.update (handlesOf s) h 0) :
      Effect s call ((s.release owner.bytes).forget h, .done)

lemma effect_reserveFor {bytes : ℕ} (hb : owner.bytes = bytes) (hw : owner.WellFormed)
    (hcall : call.argument = none)
    (hheld : account (handlesOf s) (call, .granted s.next) = Function.update (handlesOf s) s.next owner.handles) :
    Effect s call (s.reserveFor bytes owner) := by
  subst hb
  rw [reserveFor]
  split
  · exact .refused _ hcall
  split
  · exact .refused _ hcall
  rename_i hadd
  obtain ⟨-, rfl⟩ := checkedAdd_eq_some.mp hadd
  split
  · exact .refused _ hcall
  · exact .reserved owner (Nat.le_of_not_lt ‹_›) hw hheld

lemma effect_become {owner' : Owner} (ho : s.owners.lookup h = some owner) (hb : owner.bytes = owner'.bytes)
    (hw : owner'.WellFormed)
    (hheld : account (handlesOf s) (call, .done) = Function.update (handlesOf s) h owner'.handles) :
    Effect s call (s.become h owner', .done) := .changed owner' 0 ho hb hw hheld

lemma effect_budgeted {owner : ℕ → Owner} {plaintextBytes : ℕ} (hcall : call.argument = some h)
    (hdone : account (handlesOf s) (call, .done) = handlesOf s)
    (habsent : account (handlesOf s) (call, .absent) = handlesOf s) (hb : ∀ bytes, (owner bytes).bytes = bytes)
    (hw : ∀ bytes, (owner bytes).WellFormed) (hone : ∀ bytes, (owner bytes).handles = 1) :
    Effect s call (s.budgeted owner h plaintextBytes) := by
  rw [budgeted]
  split
  next held ho =>
    split
    · exact .discarded _ ho hcall
    · exact effect_become ho (hb held).symm (hw held) (hdone.trans (update_handles ho (hone held).symm).symm)
  · exact .absent habsent

lemma effect_drop : Effect s (.drop h) (s.drop h) := by
  have hheld {n : ℕ} {owner : Owner} (ho : s.owners.lookup h = some owner) (hn : owner.handles - 1 = n) :
      account (handlesOf s) (.drop h, .done) = Function.update (handlesOf s) h n := by
    rw [account, handlesOf_eq ho, hn]
  rw [drop]
  split
  next ho => exact .dropped ho (hheld ho rfl)
  next ho =>
    refine .changed _ _ ho ?_ trivial (hheld ho rfl)
    simp only [Owner.bytes, Owner.permits, List.sum_cons]
    omega
  next ho =>
    split
    next hlast => exact .dropped ho (hheld ho (Nat.sub_eq_zero_of_le hlast))
    next hshared =>
      exact effect_become ho rfl (Nat.sub_pos_of_lt (Nat.lt_of_not_le hshared)) (hheld ho rfl)
  next ho => exact .dropped ho (hheld ho rfl)
  · exact .absent rfl
  · exact .absent rfl

lemma effect_step (s : PlaintextBudget) (call : Call) : Effect s call (step s call) := by
  cases call with
  | reserve bytes => exact effect_reserveFor rfl trivial rfl rfl
  | reserveEnrollment operationBytes inputBytes =>
    rw [step, reserveEnrollment]
    split
    · exact .refused _ rfl
    next hparts =>
      split
      · exact .refused _ rfl
      next hadd =>
        obtain ⟨-, rfl⟩ := checkedAdd_eq_some.mp hadd
        exact effect_reserveFor rfl ⟨by omega, by omega⟩ rfl rfl
  | splitEnrollment h =>
    rw [step, splitEnrollment]
    split
    next ho =>
      split
      · exact .discarded _ ho rfl
      · refine effect_become ho ?_ trivial (update_handles ho rfl).symm
        simp only [Owner.bytes, Owner.permits, List.sum_cons]
        omega
    · exact .absent rfl
  | splitOff h bytes =>
    rw [step, splitOff]
    split
    next ho =>
      split
      · exact .refused _ rfl
      · refine .parted _ _ ho ?_ (congrArg (Function.update · s.next 1) (update_handles ho rfl).symm)
        simp only [Owner.bytes, Owner.permits, List.sum_cons, List.sum_nil]
        omega
    · exact .absent rfl
  | shrinkTo h bytes =>
    rw [step, shrinkTo]
    split
    next ho =>
      split
      · exact .discarded _ ho rfl
      · refine .changed _ _ ho ?_ trivial (update_handles ho rfl).symm
        simp only [Owner.bytes, Owner.permits, List.sum_cons]
        omega
    · exact .absent rfl
  | intoParts h =>
    rw [step, intoParts]
    split
    next ho => exact .parted _ _ ho rfl rfl
    · exact .absent rfl
  | cacheModel h plaintextBytes =>
    exact effect_budgeted rfl rfl rfl (fun _ => rfl) (fun _ => Nat.one_pos) fun _ => rfl
  | ephemeralLease h plaintextBytes =>
    exact effect_budgeted rfl rfl rfl (fun _ => rfl) (fun _ => trivial) fun _ => rfl
  | share h =>
    rw [step, share]
    split
    next handles ho =>
      refine effect_become ho rfl (Nat.succ_pos handles) ?_
      rw [account, handlesOf_eq ho]
      rfl
    · exact .absent rfl
  | drop h => exact effect_drop

lemma account_step (s : PlaintextBudget) (call : Call) :
    handlesOf (step s call).1 = account (handlesOf s) (call, (step s call).2) := by
  generalize hstep : step s call = next
  cases hstep ▸ effect_step s call with
  | refused e hcall =>
    rw [account, hcall]
    rfl
  | absent hheld => exact hheld.symm
  | reserved owner _ _ hheld => exact handlesOf_insert.trans hheld.symm
  | discarded e ho hcall =>
    rw [handlesOf_forget, handlesOf_release, account, hcall]
    rfl
  | changed owner' bytes ho _ _ hheld =>
    refine handlesOf_insert.trans ?_
    rw [handlesOf_release, hheld]
  | parted left right ho _ hheld =>
    rw [hheld]
    refine handlesOf_insert.trans ?_
    exact congrArg (Function.update · s.next 1) handlesOf_insert
  | dropped ho hheld => rw [hheld, handlesOf_forget, handlesOf_release]

lemma conserved_step (hc : Conserved limit s) (call : Call) : Conserved limit (step s call).1 := by
  generalize hstep : step s call = next
  cases hstep ▸ effect_step s call with
  | refused | absent => exact hc
  | reserved owner hroom hw => exact conserved_reserved hc hroom hw
  | discarded e ho | dropped ho => exact (conserved_forget hc ho).1
  | changed owner' bytes ho hb hw => exact conserved_become hc ho hb hw
  | parted left right ho hb => exact conserved_split hc ho hb

lemma onlyDrops_step {e : StorageBackendError} (hc : Conserved limit s) (he : (step s call).2 = .refused e) :
    OnlyDrops s call (step s call).1 := by
  generalize hstep : step s call = next at he
  cases hstep ▸ effect_step s call with
  | refused e hcall =>
    rw [OnlyDrops, argumentBytes, hcall]
    exact ⟨rfl, rfl⟩
  | discarded e ho hcall =>
    rw [OnlyDrops, argumentBytes, hcall, Option.bind_some, ho]
    exact ⟨(conserved_forget hc ho).2, congrArg (AList.erase _) (owners_release _ s)⟩
  | _ => cases he

lemma conserved_opened : Conserved limit (opened limit) := ⟨rfl, rfl, Nat.zero_le _, rfl, fun _ _ => rfl, nofun⟩

def Owner.splitting : Owner → Bool
  | combined .. => true
  | _ => false

/-- The bytes the next drop gives back. -/
def Owner.released : Owner → ℕ
  | permit bytes | ephemeral bytes => bytes
  | combined .. => 0
  | admission operation _ => operation
  | cached bytes handles => if handles ≤ 1 then bytes else 0

lemma used_release {bytes : ℕ} (hle : bytes ≤ s.used) : (s.release bytes).used + bytes = s.used := by
  rw [release, if_neg (Nat.not_lt.mpr hle)]
  exact Nat.sub_add_cancel hle

section

variable (hc : Conserved limit s)

include hc

/-- A drop gives back exactly the bytes of what it drops and leaves every other owner alone. -/
lemma drop_releases (ho : s.owners.lookup h = some owner) (hwhole : owner.splitting = false) :
    (step s (.drop h)).2 = .done ∧ (step s (.drop h)).1.used + owner.released = s.used ∧
      (owner.handles = 1 → owner.released = owner.bytes ∧ (step s (.drop h)).1.owners = s.owners.erase h) ∧
      ∀ k o, (step s (.drop h)).1.owners.lookup k = some o → o.splitting = false ∨ s.owners.lookup k = some o := by
  have hle := bytes_le_used hc ho
  have hforgotten {bytes : ℕ} : ((s.release bytes).forget h).owners = s.owners.erase h :=
    congrArg (AList.erase h) (owners_release bytes s)
  have hkept {o : Owner} {k : ℕ} (hk : (s.owners.erase h).lookup k = some o) : s.owners.lookup k = some o :=
    (lookup_of_erase hk).1
  have hbecome {bytes : ℕ} {o o' : Owner} {k : ℕ} (ho' : o'.splitting = false)
      (hk : ((s.release bytes).become h o').owners.lookup k = some o) :
      o.splitting = false ∨ s.owners.lookup k = some o := by
    rw [become, owners_release] at hk
    rcases lookup_of_insert hk with ⟨-, rfl⟩ | ⟨-, hk⟩
    · exact .inl ho'
    · exact .inr hk
  cases owner with
  | combined => cases hwhole
  | permit bytes | ephemeral bytes =>
    simp only [step, drop, ho]
    exact ⟨trivial, used_release hle, fun _ => ⟨rfl, hforgotten⟩, fun k o hk => .inr (hkept (hforgotten ▸ hk))⟩
  | admission operation input =>
    simp only [step, drop, ho]
    exact ⟨trivial, used_release ((Nat.le_add_right ..).trans hle), nofun, fun k o => hbecome rfl⟩
  | cached bytes handles =>
    simp only [step, drop, ho, Owner.released]
    split
    · exact ⟨rfl, used_release hle, fun _ => ⟨rfl, hforgotten⟩, fun k o hk => .inr (hkept (hforgotten ▸ hk))⟩
    next hshared =>
      refine ⟨rfl, rfl, fun hone => absurd hone.le hshared, fun k o hk => ?_⟩
      rcases lookup_of_insert hk with ⟨-, rfl⟩ | ⟨-, hk⟩
      · exact .inl rfl
      · exact .inr hk

lemma used_eq_zero (hnone : ∀ h, handlesOf s h = 0) : s.used = 0 := by
  have hlookup (h : ℕ) : s.owners.lookup h = none := by
    cases ho : s.owners.lookup h with
    | none => rfl
    | some owner =>
      have hzero := (handlesOf_eq ho).symm.trans (hnone h)
      have hw := hc.wellFormed h owner ho
      cases owner with
      | cached bytes handles => exact absurd hzero hw.ne'
      | _ => cases hzero
  rw [hc.used, eq_empty_of_lookup hlookup]
  rfl

lemma used_after_drops (drops : List ℕ) (hwhole : ∀ h owner, s.owners.lookup h = some owner →
    owner.splitting = false) (hall : ∀ h, handlesOf s h ≤ drops.count h) :
    (final step s (drops.map .drop)).used = 0 := by
  induction drops generalizing s with
  | nil => exact used_eq_zero hc fun h => Nat.le_zero.mp (hall h)
  | cons h drops ih =>
    have hrest {k : ℕ} (hk : k ≠ h) : handlesOf s k ≤ drops.count k := by
      rw [← List.count_cons_of_ne hk.symm]
      exact hall k
    cases ho : s.owners.lookup h with
    | none =>
      have hsame : (step s (.drop h)).1 = s := by simp only [step, drop, ho]
      rw [List.map_cons, final, hsame]
      refine ih hc hwhole fun k => ?_
      by_cases hk : k = h
      · rw [hk, handlesOf, ho]
        exact Nat.zero_le _
      · exact hrest hk
    | some owner =>
      obtain ⟨hdone, -, -, howners⟩ := drop_releases hc ho (hwhole h owner ho)
      refine ih (conserved_step hc _) (fun k o hk => (howners k o hk).elim id (hwhole k o)) fun k => ?_
      rw [account_step, hdone, account, Function.update_apply]
      split
      next hk =>
        have hh := hall h
        rw [List.count_cons_self] at hh
        rw [hk]
        omega
      · exact hrest ‹_›

end

lemma heldAfter_trace (s : PlaintextBudget) (calls : List Call) :
    (trace step s calls).foldl account (handlesOf s) = handlesOf (final step s calls) := by
  induction calls generalizing s with
  | nil => rfl
  | cons call calls ih =>
    rw [trace, List.foldl_cons, ← account_step]
    exact ih _

/-- An admission taken apart, a cached model with two holders and a permit, all dropped in turn. -/
def sampleCalls : List Call :=
  [.reserveEnrollment 30 20, .splitEnrollment 0, .intoParts 0, .cacheModel 1 20, .share 1, .reserve 7]

end Howy.Storage.Budget
