import Howy.Library.Closing
import Howy.Storage.CacheSpec
import Howy.Storage.Mode1Requests
import Howy.Storage.Mode1Scan

namespace Howy.Storage.Mode1

open Library

variable {c c' : CacheState} {u : CanonicalUsername} {name destination temporary : Name} {e : StorageBackendError}
  {request : AppendRequest} {permit : BudgetPermit} {model : AuthModel} {expectedGeneration : UInt64}
  {n attempts owner : ℕ} {encoded : Bytes} {exists_ : Bool}

def Spent (c : CacheState) : Prop := c.disabled = true ∧ c.entries = ∅

structure Endures (c c' : CacheState) : Prop where
  disabled : c'.disabled = c.disabled
  empty : c.disabled = true → c.entries = ∅ → c'.entries = ∅

lemma Endures.refl (c : CacheState) : Endures c c := ⟨rfl, fun _ h => h⟩

lemma Endures.trans {c'' : CacheState} (h : Endures c c') (h' : Endures c' c'') : Endures c c'' :=
  ⟨h'.disabled.trans h.disabled, fun hd he => h'.empty (h.disabled.trans hd) (h.empty hd he)⟩

lemma endures_remove (h : c.remove u = some c') : Endures c c' := by
  rw [CacheState.remove] at h
  split at h
  · cases h
  rename_i he
  cases h
  refine ⟨rfl, fun _ hempty => ?_⟩
  rw [hempty] at he
  cases he

lemma Endures.of_evicts (h : Evicts c c') : Endures c c' :=
  h.keeps (fun hr hs => hs.trans (endures_remove hr)) (.refl c)

lemma endures_touch : Endures c (c.touch u).2 := by
  rw [CacheState.touch]
  split
  · exact .refl c
  rename_i hd
  refine ⟨?_, fun h => absurd h hd⟩
  dsimp only
  split <;> exact disabled_nextClock c

lemma Endures.of_inserts (h : Inserts u model c c') : Endures c c' := by
  obtain rfl | ⟨hd, d, hd', h⟩ := h
  · exact .refl _
  refine ⟨?_, fun h => absurd (hd.symm.trans h) Bool.false_ne_true⟩
  obtain rfl | rfl := h
  · exact hd'.disabled
  · exact (disabled_nextClock d).trans hd'.disabled

lemma insertProvisional_refused {limits : ModelCacheLimits} (hd : c.disabled)
    {expectedRevision : ℕ} {publish : Bool} :
    (c.insertProvisionalIfRevision limits u expectedRevision expectedGeneration model publish).1 ≠ .ok true := by
  rw [CacheState.insertProvisionalIfRevision]
  split
  · simp
  · split <;> simp

lemma endures_invalidate (c : CacheState) (u : CanonicalUsername) : Endures c (c.invalidate u) := by
  rw [CacheState.invalidate]
  cases h : c.remove u with
  | none => exact ⟨rfl, fun _ he => he⟩
  | some c' => exact endures_remove h

variable {D α β : Type} {cancellable : Bool} {operation : BudgetPermit} {inspected : Option InspectedRecord}
  {point : BackendHookPoint}

structure Permanent (s s' : Shared D) : Prop where
  poisoned : s.poisoned = true → s'.poisoned = true
  spent : Spent s.cache → Spent s'.cache
  disabled : s'.cache.disabled = true → s.cache.disabled = true ∨ Spent s'.cache

lemma Permanent.refl (s : Shared D) : Permanent s s := ⟨fun h => h, fun h => h, .inl⟩

lemma permanent_of_endures {s s' : Shared D} (hp : s'.poisoned = s.poisoned) (h : Endures s.cache s'.cache) :
    Permanent s s' :=
  ⟨hp.trans, fun hs => ⟨h.disabled.trans hs.1, h.empty hs.1 hs.2⟩, fun hd => .inl (h.disabled.symm.trans hd)⟩

def Closed (s : Shared D) : Prop := s.poisoned = true ∧ Spent s.cache

lemma closed_of_permanent (s s' : Shared D) (h : Permanent s s') (hs : Closed s) : Closed s' :=
  ⟨h.poisoned hs.1, h.spent hs.2⟩

def setPoisoned (b : Bool) (s : Shared D) : Shared D := { s with poisoned := b }

abbrev Lasts (p : Op D α) : Prop := Follows Permanent p.run

abbrev Heedless (good : BackendResult α → Prop) (p : Op D α) : Prop := Blind setPoisoned good p.run

structure Plain (p : Op D α) : Prop where
  lasts : Lasts p
  heedless : Heedless (fun _ => True) p

structure Free (p : Op D α) : Prop extends Plain p where
  unblocked : p.run.Unblocked

variable {f : Choice → Shared D → BackendResult α × Shared D} {x : Op D α} {step : Op Directory Unit}

lemma plain_pure {a : α} : Free (pure a : Op D α) := ⟨⟨trivial, trivial⟩, trivial⟩

lemma plain_throw : Free (throw e : Op D α) := ⟨⟨trivial, trivial⟩, trivial⟩

lemma plain_fromExcept {x : BackendResult α} : Free (fromExcept x : Op D α) := ⟨⟨trivial, trivial⟩, trivial⟩

lemma lasts_bind {k : α → Op D β} (hx : Lasts x) (hk : ∀ a, Lasts (k a)) : Lasts (x >>= k) := follows_bindE hx hk

lemma Free.bind {k : α → Op D β} (hx : Free x) (hk : ∀ a, Free (k a)) : Free (x >>= k) := by
  refine ⟨⟨lasts_bind hx.lasts fun a => (hk a).lasts, blind_bind hx.heedless fun r _ => ?_⟩,
    unblocked_bindE hx.unblocked fun a => (hk a).unblocked⟩
  cases r with
  | ok a => exact (hk a).heedless
  | error e => exact trivial

lemma plain_captured (hx : Free x) : Free (captured x) :=
  ⟨⟨follows_bind hx.lasts fun _ => trivial, blind_bind hx.heedless fun _ _ => trivial⟩,
    Prog.unblocked_bind hx.unblocked fun _ => trivial⟩

lemma lasts_action (h : ∀ c s, Permanent s (f c s).2) : Lasts (action f) :=
  within_action fun c s _ _ => ⟨h c s, trivial, trivial⟩

def Unaware (f : Choice → Shared D → BackendResult α × Shared D) : Prop :=
  ∀ c s b, (f c (setPoisoned b s)).1 = (f c s).1 ∧ ∃ b', (f c (setPoisoned b s)).2 = setPoisoned b' (f c s).2

lemma plain_action (h : ∀ c s, Permanent s (f c s).2) (hu : Unaware f) : Free (action f) :=
  ⟨⟨lasts_action h, fun c s b => ⟨(hu c s b).1.symm, (hu c s b).2⟩, fun _ _ _ _ _ => trivial⟩, unblocked_action⟩

lemma lasts_query {f : Choice → Shared D → BackendResult α} : Lasts (query f) :=
  lasts_action fun _ s => .refl s

lemma plain_query {f : Choice → Shared D → BackendResult α} (h : ∀ c s b, f c (setPoisoned b s) = f c s) :
    Free (query f) := plain_action (fun _ s => .refl s) fun c s b => ⟨h c s b, b, rfl⟩

lemma plain_hooked
    (h : ∀ c s, Permanent s (f c s).2) (hu : Unaware f) : Free (hooked point f) := by
  apply plain_action
  · intro c s
    cases c.hook point with
    | none => exact h c s
    | some e => exact .refl s
  · intro c s b
    dsimp only
    cases c.hook point with
    | none => exact hu c s b
    | some e => exact ⟨rfl, b, rfl⟩

lemma plain_hook : Free (hook point : Op D Unit) := plain_hooked (fun _ s => .refl s) fun _ _ b => ⟨rfl, b, rfl⟩

lemma plain_refuseIf {p : Prop} [Decidable p] : Free (refuseIf p e : Op D Unit) := by
  unfold refuseIf
  split
  · exact plain_throw
  · exact plain_pure

lemma plain_checkCancelled : Free (checkCancelled cancellable : Op D Unit) := by
  apply (plain_query fun _ _ _ => rfl).bind
  intro b
  cases b with
  | true => exact plain_throw
  | false => exact plain_pure

lemma plain_onCache {f : Choice → CacheState → BackendResult α × CacheState}
    (h : ∀ c s, Endures s (f c s).2) : Free (onCache f : Op D α) :=
  plain_action (fun c s => permanent_of_endures rfl (h c s.cache)) fun _ _ b => ⟨rfl, b, rfl⟩

lemma plain_aside
    (hp : ∀ c s, (f c s).2.poisoned = s.poisoned) (hc : ∀ c s, (f c s).2.cache = s.cache) (hu : Unaware f) :
    Free (action f) := by
  refine plain_action (fun c s => permanent_of_endures (hp c s) ?_) hu
  rw [hc c s]
  exact .refl _

lemma plain_poison : Free (poison e : Op D α) := by
  refine (plain_action ?_ fun _ _ b => ⟨rfl, true, rfl⟩).bind fun _ => ?_
  · exact fun _ s => ⟨fun _ => rfl, fun h => h, .inl⟩
  · refine (plain_action ?_ fun _ _ b => ⟨rfl, b, rfl⟩).bind fun _ => plain_throw
    exact fun _ s => ⟨fun h => h, fun _ => ⟨rfl, rfl⟩, fun _ => .inr ⟨rfl, rfl⟩⟩

lemma permanent_of_onlyLocks {s s' : Shared D} (h : OnlyLocks s s') : Permanent s s' :=
  permanent_of_endures h.poisoned (h.cache ▸ .refl _)

lemma lasts_of_locks {acquire : Op D Unit} (h : Locks (fun _ => True) acquire) : Lasts acquire :=
  (h.relax fun _ _ => permanent_of_onlyLocks).weaken fun _ _ => trivial

lemma permanent_unlockReload (s : Shared D) : Permanent s (unlockReload n s) := permanent_of_endures rfl (.refl _)

lemma permanent_unlockUser (s : Shared D) : Permanent s (unlockUser u s) := permanent_of_endures rfl (.refl _)

variable {backend : Mode1StorageBackend}

lemma plain_readExact {file : FileNode} {offset amount : ℕ} :
    Free (readExact cancellable file offset amount : Op D Bytes) :=
  plain_checkCancelled.bind fun _ => plain_query fun _ _ _ => rfl

lemma plain_inspectNamedRecord {look : D → Option FileNode} :
    Free (inspectNamedRecord backend look u cancellable) := by
  refine (plain_query fun _ _ _ => rfl).bind fun opened => ?_
  split
  · exact plain_pure
  · exact plain_throw
  refine (plain_query fun _ _ _ => rfl).bind fun exactLength => ?_
  refine plain_readExact.bind fun fixed => ?_
  refine plain_refuseIf.bind fun _ => ?_
  refine (plain_query fun _ _ _ => rfl).bind fun _ => ?_
  refine plain_readExact.bind fun username => ?_
  exact plain_fromExcept.bind fun header => plain_pure

lemma plain_inspectRecord {active : D → CanonicalUsername → Option FileNode} :
    Free (inspectRecord backend active u cancellable) :=
  plain_checkCancelled.bind fun _ => plain_inspectNamedRecord

lemma plain_readCompleteRecord {inspected : InspectedRecord} :
    Free (readCompleteRecord inspected cancellable : Op D Bytes) := by
  refine (plain_query fun _ _ _ => rfl).bind fun _ => ?_
  refine plain_readExact.bind fun rest => ?_
  refine plain_checkCancelled.bind fun _ => ?_
  refine (plain_query fun _ _ _ => rfl).bind fun _ => ?_
  refine plain_checkCancelled.bind fun _ => ?_
  refine plain_fromExcept.bind fun header => ?_
  exact plain_refuseIf.bind fun _ => plain_pure

lemma plain_decryptInspected {inspected : InspectedRecord} :
    Free (decryptInspected backend inspected u permit cancellable : Op D LoadedRecord) := by
  refine plain_fromExcept.bind fun estimate => ?_
  refine plain_refuseIf.bind fun _ => ?_
  refine plain_readCompleteRecord.bind fun bytes => ?_
  refine plain_checkCancelled.bind fun _ => ?_
  refine plain_hook.bind fun _ => ?_
  refine plain_hook.bind fun _ => ?_
  refine plain_fromExcept.bind fun record => ?_
  exact plain_checkCancelled.bind fun _ => plain_pure

lemma plain_loadOptionalForMutation : Free (loadOptionalForMutation backend u inspected permit : Op D _) := by
  cases inspected with
  | none => exact plain_pure
  | some inspected => exact plain_decryptInspected.bind fun loaded => plain_pure

lemma plain_reserveOperationExcept {bytes : ℕ} {protected_ : Option CanonicalUsername} :
    Free (reserveOperationExcept bytes protected_ : Op D BudgetPermit) :=
  (plain_onCache fun c s => .of_evicts (evicts_reserveOperationExcept s bytes protected_ c.refusals)).bind fun _ =>
    plain_pure

variable {store : RecordStore D}

lemma plain_loadRecord : Free (loadRecord backend store u cancellable) := by
  refine plain_inspectRecord.bind fun found => ?_
  cases found with
  | none => exact plain_throw
  | some inspected =>
    refine plain_fromExcept.bind fun estimate => ?_
    refine plain_reserveOperationExcept.bind fun permit => ?_
    exact plain_decryptInspected

lemma plain_prepareAppend : Free (prepareAppend backend request inspected operation : Op D _) := by
  refine plain_fromExcept.bind fun estimate => ?_
  refine plain_refuseIf.bind fun _ => ?_
  refine plain_loadOptionalForMutation.bind fun loaded => ?_
  refine plain_refuseIf.bind fun _ => ?_
  refine plain_fromExcept.bind fun total => ?_
  refine plain_refuseIf.bind fun _ => ?_
  refine plain_fromExcept.bind fun generation => ?_
  refine plain_fromExcept.bind fun record => ?_
  exact plain_fromExcept.bind fun model => plain_pure

lemma lasts_planAppend : Lasts (planAppend backend store request) := by
  refine lasts_bind plain_inspectRecord.lasts fun inspected => ?_
  refine lasts_bind plain_refuseIf.lasts fun _ => ?_
  refine lasts_bind plain_fromExcept.lasts fun estimate => ?_
  refine lasts_bind plain_reserveOperationExcept.lasts fun operation => ?_
  refine lasts_bind lasts_query fun _ => ?_
  exact plain_prepareAppend.lasts

lemma plain_planAppendAdmitted : Free (planAppendAdmitted backend store request operation) := by
  refine plain_inspectRecord.bind fun inspected => ?_
  refine plain_refuseIf.bind fun _ => ?_
  exact plain_prepareAppend

lemma plain_loadExpected : Free (loadExpected backend u inspected operation expectedGeneration : Op D _) := by
  refine plain_loadOptionalForMutation.bind fun loaded => ?_
  cases loaded with
  | none => exact plain_throw
  | some record => exact plain_refuseIf.bind fun _ => plain_pure

lemma plain_planRemove {request : RemoveRequest} : Free (planRemove backend store request) := by
  refine plain_inspectRecord.bind fun inspected => ?_
  refine plain_refuseIf.bind fun _ => ?_
  refine plain_fromExcept.bind fun required => ?_
  refine plain_reserveOperationExcept.bind fun operation => ?_
  exact plain_loadExpected.bind fun record => plain_fromExcept

lemma plain_planClear {request : ClearRequest} : Free (planClear backend store request) := by
  refine plain_inspectRecord.bind fun inspected => ?_
  refine plain_refuseIf.bind fun _ => ?_
  refine plain_fromExcept.bind fun required => ?_
  refine plain_reserveOperationExcept.bind fun operation => ?_
  exact plain_loadExpected.bind fun record => plain_pure

lemma plain_cacheInsert : Free (cacheInsert backend.cacheLimits u model permit : Op D AuthModel) :=
  plain_onCache fun _ s => .of_inserts (inserts_insert s u model permit.bytes)

lemma plain_cacheInvalidate : Free (cacheInvalidate u : Op D Unit) :=
  plain_onCache fun _ s => endures_invalidate s u

lemma plain_cacheCommittedModel {model : Option AuthModel} :
    Free (cacheCommittedModel backend u model operation : Op D Unit) := by
  refine plain_cacheInvalidate.bind fun _ => ?_
  cases model with
  | none => exact plain_pure
  | some model =>
    dsimp only
    split
    · exact plain_pure
    · exact (plain_captured plain_cacheInsert).bind fun _ => plain_pure

lemma plain_authenticateCold {provisional : Bool} :
    Free (authenticateCold backend store n u cancellable provisional) := by
  refine (plain_query fun _ _ _ => rfl).bind fun revision => ?_
  refine plain_loadRecord.bind fun loaded => ?_
  refine plain_refuseIf.bind fun _ => ?_
  refine plain_fromExcept.bind fun model => ?_
  refine plain_checkCancelled.bind fun _ => ?_
  refine plain_fromExcept.bind fun permit => ?_
  cases provisional with
  | true =>
    refine plain_refuseIf.bind fun _ => ?_
    refine plain_checkCancelled.bind fun _ => ?_
    exact (plain_aside (fun _ _ => rfl) (fun _ _ => rfl) fun _ _ b => ⟨rfl, b, rfl⟩).bind fun _ => plain_pure
  | false =>
    refine plain_cacheInsert.bind fun lease => ?_
    refine (plain_query fun _ _ _ => rfl).bind fun cancelled => ?_
    cases cancelled with
    | true => exact plain_cacheInvalidate.bind fun _ => plain_throw
    | false => exact plain_pure

variable {f : Directory → Except IoKind Directory} {operation : IoOperation}

lemma permanent_onDirectory (c : Choice) (s : Shared Directory) : Permanent s (onDirectory operation f c s).2 := by
  rw [onDirectory]
  split
  · exact .refl s
  · exact .refl s
  · exact permanent_of_endures rfl (.refl _)

lemma unaware_onDirectory : Unaware (onDirectory operation f) := by
  intro c s b
  simp only [onDirectory, setPoisoned]
  cases c.fault with
  | some fault => exact ⟨rfl, b, rfl⟩
  | none =>
    cases f s.disk with
    | error kind | ok d => exact ⟨rfl, b, rfl⟩

lemma plain_onDirectory :
    Free (action (onDirectory operation f)) := plain_action permanent_onDirectory unaware_onDirectory

lemma plain_hookedOnDirectory : Free (hooked point (onDirectory operation f)) :=
  plain_hooked permanent_onDirectory unaware_onDirectory

lemma plain_unlinkAt : Free (unlinkAt point name) := plain_hookedOnDirectory

lemma plain_syncDirectory : Free (syncDirectory point) := plain_hookedOnDirectory

lemma plain_cleaningUp {artifact : Name} (h : Free step) : Free (cleaningUp artifact step) := by
  refine (plain_captured h).bind fun r => ?_
  cases r with
  | ok _ => exact plain_pure
  | error e =>
    refine ((plain_captured plain_unlinkAt).bind fun r => ?_).bind fun _ => plain_throw
    cases r with
    | error _ => exact plain_pure
    | ok _ => exact (plain_captured plain_syncDirectory).bind fun _ => plain_pure

lemma plain_orPoison (h : Free step) : Free (orPoison step) := by
  refine (plain_captured h).bind fun r => ?_
  cases r with
  | ok _ => exact plain_pure
  | error e => exact plain_poison

lemma plain_rollingBack {rollback : Op Directory Unit} (hr : Free rollback) (h : Free step) :
    Free (rollingBack rollback step) := by
  refine (plain_captured h).bind fun r => ?_
  cases r with
  | ok _ => exact plain_pure
  | error e => exact (plain_orPoison hr).bind fun _ => plain_throw

lemma plain_settleRename : Free settleRename :=
  plain_hook.bind fun _ => plain_syncDirectory.bind fun _ => plain_hook

lemma plain_rollbackTemporary {existed : Bool} : Free (rollbackTemporary temporary destination existed) := by
  cases existed with
  | true =>
    refine plain_fromExcept.bind fun rollback => ?_
    refine plain_onDirectory.bind fun _ => ?_
    refine plain_syncDirectory.bind fun _ => ?_
    refine plain_hookedOnDirectory.bind fun _ => ?_
    refine plain_syncDirectory.bind fun _ => ?_
    exact plain_unlinkAt.bind fun _ => plain_syncDirectory
  | false =>
    refine plain_fromExcept.bind fun rollback => ?_
    refine plain_hookedOnDirectory.bind fun _ => ?_
    refine plain_syncDirectory.bind fun _ => ?_
    exact plain_unlinkAt.bind fun _ => plain_syncDirectory

lemma plain_commitTemporary : Free (commitTemporary temporary destination exists_) := by
  cases exists_ with
  | true =>
    refine .bind ?_ fun staged => ?_
    · refine plain_fromExcept.bind fun staged => ?_
      refine (plain_cleaningUp plain_onDirectory).bind fun _ => ?_
      exact (plain_cleaningUp plain_syncDirectory).bind fun _ => plain_pure
    · refine (plain_cleaningUp plain_hookedOnDirectory).bind fun _ => ?_
      refine (plain_rollingBack plain_rollbackTemporary plain_settleRename).bind fun _ => ?_
      exact plain_orPoison (plain_unlinkAt.bind fun _ => plain_syncDirectory)
  | false =>
    refine (plain_cleaningUp plain_hookedOnDirectory).bind fun _ => ?_
    exact plain_rollingBack plain_rollbackTemporary plain_settleRename

lemma plain_createTemp : Free (createTemp owner name) := by
  refine (plain_action (fun c s => ?_) fun c s b => ?_).bind fun _ => plain_onDirectory
  · split
    · exact .refl s
    · exact permanent_onDirectory c s
  · cases c.hook .filesystem with
    | some e => exact ⟨rfl, b, rfl⟩
    | none => exact unaware_onDirectory c s b

lemma plain_writeTemporary : Free (writeTemporary name encoded) := by
  refine (plain_aside (fun _ _ => rfl) (fun _ _ => rfl) fun _ _ b => ⟨rfl, b, rfl⟩).bind fun _ => ?_
  refine plain_onDirectory.bind fun _ => ?_
  exact plain_onDirectory.bind fun _ => plain_hook

lemma plain_install : Free (install owner u encoded exists_ attempts) := by
  induction attempts with
  | zero => exact plain_throw
  | succ attempts ih =>
    refine (plain_query fun _ _ _ => rfl).bind fun suffix => ?_
    refine (plain_captured plain_createTemp).bind fun created => ?_
    split
    · exact (plain_cleaningUp plain_writeTemporary).bind fun _ => plain_commitTemporary
    · exact ih
    · exact plain_throw

lemma plain_commitClear {tombstone : Name} : Free (commitClear tombstone destination) := by
  have hrollback : Free (rollbackClear tombstone destination) :=
    plain_hookedOnDirectory.bind fun _ => plain_syncDirectory
  refine (plain_rollingBack hrollback plain_settleRename).bind fun _ => ?_
  refine (plain_rollingBack hrollback plain_unlinkAt).bind fun _ => ?_
  exact plain_orPoison plain_syncDirectory

lemma plain_clearRecord : Free (clearRecord u attempts) := by
  induction attempts with
  | zero => exact plain_throw
  | succ attempts ih =>
    refine (plain_query fun _ _ _ => rfl).bind fun suffix => ?_
    refine (plain_captured plain_onDirectory).bind fun renamed => ?_
    split
    · exact plain_commitClear
    · exact ih
    · exact plain_throw

lemma plain_scanStale : Free (scanStale backend name) := by
  refine ((plain_query fun _ _ _ => rfl).bind fun opened => ?_).bind fun _ => plain_pure
  cases opened with
  | error _ => exact plain_pure
  | ok file =>
    refine (plain_captured plain_onDirectory).bind fun r => ?_
    cases r with
    | error _ => exact plain_pure
    | ok _ =>
      dsimp only
      split
      · refine (plain_captured plain_unlinkAt).bind fun r => ?_
        cases r <;> exact plain_pure
      · exact plain_pure

lemma plain_stagedWriteIsPreExchange : Free (stagedWriteIsPreExchange backend name u) := by
  refine (plain_captured plain_inspectNamedRecord).bind fun staged => ?_
  split
  · refine (plain_captured plain_inspectRecord).bind fun active => ?_
    split <;> exact plain_pure
  · exact plain_pure

lemma plain_scanRecord : Free (scanRecord backend u) := by
  refine (plain_captured plain_inspectRecord).bind fun inspected => ?_
  refine plain_fromExcept.bind fun status => ?_
  cases status with
  | none => exact plain_pure
  | some classification => exact (plain_query fun _ _ _ => rfl).bind fun _ => plain_pure

lemma plain_scanEntry (name : Name) : Free (scanEntry backend name) := by
  refine ((plain_query fun _ _ _ => rfl).bind fun node => ?_).bind fun metadata => ?_
  · exact plain_onDirectory.bind fun _ => plain_pure
  split
  · exact plain_scanRecord
  · exact plain_scanStale
  · split
    · exact plain_throw
    refine plain_stagedWriteIsPreExchange.bind fun fresh => ?_
    cases fresh with
    | true => exact plain_scanStale
    | false => exact plain_poison
  all_goals first | exact plain_poison | exact plain_throw

lemma plain_scanNames (names : List Name) (remaining : ℕ) : Free (scanNames backend remaining names) := by
  induction names generalizing remaining with
  | nil =>
    rw [scanNames]
    exact plain_onDirectory.bind fun _ => plain_pure
  | cons name names ih =>
    cases remaining with
    | zero => exact plain_onDirectory.bind fun _ => plain_throw
    | succ remaining =>
      refine plain_onDirectory.bind fun _ => ?_
      refine (plain_scanEntry name).bind fun entry => ?_
      exact (ih remaining).bind fun rest => plain_pure

lemma plain_scanOuterHeaders : Free (scanOuterHeaders backend) := by
  refine plain_hook.bind fun _ => ?_
  refine plain_onDirectory.bind fun _ => ?_
  refine (plain_query fun _ _ _ => rfl).bind fun names => ?_
  refine (plain_scanNames names _).bind fun scanned => ?_
  split
  · exact (plain_captured plain_syncDirectory).bind fun _ => plain_pure
  · exact plain_pure

lemma plain_writeRecord {record : EnrollmentRecord} : Free (writeRecord backend (files backend) record) := by
  refine plain_hook.bind fun _ => ?_
  refine plain_hook.bind fun _ => ?_
  refine plain_hook.bind fun _ => ?_
  refine (plain_query fun _ _ _ => rfl).bind fun encoded => ?_
  refine plain_refuseIf.bind fun _ => ?_
  refine (plain_query fun _ _ _ => rfl).bind fun opened => ?_
  split
  · exact (plain_query fun _ _ _ => rfl).bind fun _ => plain_install
  · exact plain_install
  · exact plain_throw

end Howy.Storage.Mode1
