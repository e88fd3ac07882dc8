import Howy.Library.Histories
import Howy.Provisioning.Journal
import Mathlib.Logic.Relation

namespace Howy.Provisioning.JournalHistory

open Library Storage JournalProgress

inductive StateMove : AtomicWriteStateV1 → AtomicWriteStateV1 → Prop
  | stage (identity : AtomicFileIdentityV1) : StateMove .planned (.staged identity)
  | abortPlanned : StateMove .planned .aborted
  | commit (identity : AtomicFileIdentityV1) (observation : AtomicWriteObservationV1) :
      StateMove (.staged identity) (.committed observation)
  | abortStaged (identity : AtomicFileIdentityV1) : StateMove (.staged identity) .aborted
  | clean (observation : AtomicWriteObservationV1) : StateMove (.committed observation)
      (.backupCleaned observation)

def LaterRecord (record record' : AtomicWriteRecordV1) : Prop :=
  record'.plan = record.plan ∧ Relation.ReflTransGen StateMove record.state record'.state

/-- What one accepted transition does to the records: nothing, a new plan at the end, or one move of one write. -/
inductive RecordsAdvance : List AtomicWriteRecordV1 → List AtomicWriteRecordV1 → Prop
  | same (records : List AtomicWriteRecordV1) : RecordsAdvance records records
  | plan (records : List AtomicWriteRecordV1) (plan : AtomicWritePlanV1) :
      RecordsAdvance records (records ++ [⟨plan, .planned⟩])
  | move (before after : List AtomicWriteRecordV1) (plan : AtomicWritePlanV1) {state state' : AtomicWriteStateV1}
      (h : StateMove state state') : RecordsAdvance (before ++ ⟨plan, state⟩ :: after)
      (before ++ ⟨plan, state'⟩ :: after)

structure Facts (σ : Type) where
  generation : ℕ
  ordinal : ℕ
  supervisorFailed : Bool
  stable : σ
  records : List AtomicWriteRecordV1
  paths : List String

variable {σ Phase Hashes Action : Type} [DecidableEq Phase] [DecidableEq Hashes] [DecidableEq Action]
  {records : List AtomicWriteRecordV1} {journal : ProvisioningJournalV1} {path : String} {units : Prop}

structure Advances (a b : Facts σ) : Prop where
  generation : b.generation = a.generation + 1
  ordinal : b.ordinal = a.ordinal ∨ b.ordinal = a.ordinal + 1
  supervisorFailed : a.supervisorFailed = true → b.supervisorFailed = true
  stable : b.stable = a.stable
  records : RecordsAdvance a.records b.records
  paths : a.paths ⊆ b.paths

structure Follows (n : ℕ) (a b : Facts σ) : Prop where
  generation : b.generation = a.generation + n
  ordinal_le : a.ordinal ≤ b.ordinal
  le_ordinal : b.ordinal ≤ a.ordinal + n
  supervisorFailed : a.supervisorFailed = true → b.supervisorFailed = true
  stable : b.stable = a.stable
  records : Grows LaterRecord a.records b.records
  paths : a.paths ⊆ b.paths

lemma laterRecord_refl (record : AtomicWriteRecordV1) : LaterRecord record record := ⟨rfl, .refl⟩

lemma LaterRecord.trans {a b c : AtomicWriteRecordV1} (h : LaterRecord a b) (h' : LaterRecord b c) :
    LaterRecord a c :=
  ⟨h'.1.trans h.1, h.2.trans h'.2⟩

lemma follows_zero (a : Facts σ) : Follows 0 a a where
  generation := rfl
  ordinal_le := le_rfl
  le_ordinal := le_rfl
  supervisorFailed := id
  stable := rfl
  records := grows_refl laterRecord_refl _
  paths := List.Subset.refl _

lemma Grows.recordsAdvance {records' records'' : List AtomicWriteRecordV1}
    (h : Grows LaterRecord records records') (h' : RecordsAdvance records' records'') :
    Grows LaterRecord records records'' := by
  cases h' with
  | same => exact h
  | plan _ plan => exact h.append_right _
  | move before after plan hmove =>
    rename_i state state'
    have hone : List.Forall₂ LaterRecord (before ++ ⟨plan, state⟩ :: after) (before ++ ⟨plan, state'⟩ :: after) :=
      List.rel_append (List.forall₂_same.mpr fun a _ => laterRecord_refl a)
        (.cons ⟨rfl, .single hmove⟩ (List.forall₂_same.mpr fun a _ => laterRecord_refl a))
    exact h.trans_forall₂ (R := LaterRecord) (fun _ _ _ => LaterRecord.trans) hone

lemma Follows.advance {n : ℕ} {a b c : Facts σ} (h : Follows n a b) (h' : Advances b c) : Follows (n + 1) a c where
  generation := by rw [h'.generation, h.generation, Nat.add_assoc]
  ordinal_le := by
    have := h.ordinal_le
    rcases h'.ordinal with hc | hc <;> omega
  le_ordinal := by
    have := h.le_ordinal
    rcases h'.ordinal with hc | hc <;> omega
  supervisorFailed := fun ha => h'.supervisorFailed (h.supervisorFailed ha)
  stable := h'.stable.trans h.stable
  records := Grows.recordsAdvance h.records h'.records
  paths := fun _ hpath => h'.paths (h.paths hpath)

def Monotone (history : List (Facts σ)) : Prop :=
  history.IsChain Advances ∧ ∀ i n (h : i + n < history.length), Follows n history[i] history[i + n]

lemma monotone_of_isChain {history : List (Facts σ)} (h : history.IsChain Advances) : Monotone history :=
  ⟨h, chain_steps follows_zero (fun _ _ _ _ => Follows.advance) h⟩

lemma stateMove_of_validate {plan : AtomicWritePlanV1} {state state' : AtomicWriteStateV1}
    (h : validateAtomicWriteStateTransition plan state state') : StateMove state state' := by
  unfold validateAtomicWriteStateTransition at h
  split at h
  · exact .stage _
  · exact .abortPlanned
  · exact .commit _ _
  · exact .abortStaged _
  · rw [Bool.and_eq_true, beq_iff_eq] at h
    rw [← h.1]
    exact .clean _
  · cases h

lemma eq_append_getLast {α : Type} {l l' : List α} (hlen : l'.length = l.length + 1)
    (htake : l'.take l.length = l) : ∃ a, l'.getLast? = some a ∧ l' = l ++ [a] := by
  obtain ⟨a, ha⟩ := List.length_eq_one_iff.mp
    (show (l'.drop l.length).length = 1 by rw [List.length_drop, hlen, Nat.add_sub_cancel_left])
  have hl : l' = l ++ [a] := by
    conv_lhs => rw [← List.take_append_drop l.length l', htake, ha]
  exact ⟨a, by rw [hl, List.getLast?_concat], hl⟩

lemma recordsAdvance_of_validate {current next : List AtomicWriteRecordV1}
    (h : validateAtomicWriteRecordsTransition current next) : RecordsAdvance current next := by
  unfold validateAtomicWriteRecordsTransition at h
  split at h
  next hplan =>
    obtain ⟨record, hlast, rfl⟩ := eq_append_getLast hplan.1 hplan.2.1
    obtain ⟨plan, state⟩ := record
    have hstate := hplan.2.2
    rw [hlast, Option.map_some, Option.some.injEq] at hstate
    subst hstate
    exact .plan current plan
  split at h
  · cases h
  rename_i hlen
  split at h
  next left right hchanged =>
    obtain ⟨before, after, rfl, rfl⟩ := of_filter_zip_eq_singleton (not_not.mp hlen) hchanged
    obtain ⟨plan, state⟩ := left
    obtain ⟨plan', state'⟩ := right
    rw [Bool.and_eq_true, beq_iff_eq] at h
    obtain ⟨rfl, hmove⟩ := h
    exact .move before after plan (stateMove_of_validate hmove)
  · cases h

variable {paths : List String} {current next : ProvisioningJournalV1}

lemma mem_dedup : path ∈ dedup paths ↔ path ∈ paths := by
  fun_induction dedup paths with
  | case1 b l ih => rw [ih, List.mem_cons (a := path) (b := b) (l := b :: l), List.mem_cons]; tauto
  | case2 a b l _ ih => rw [List.mem_cons, ih, List.mem_cons (a := path) (b := a)]
  | case3 l => rfl

lemma mem_sortedPaths : path ∈ sortedPaths paths ↔ path ∈ paths := by
  rw [sortedPaths, mem_dedup, List.mem_insertionSort]

lemma subset_of_validateOwnedPaths {currentPaths nextPaths : List String} {current next : List AtomicWriteRecordV1}
    (h : validateAtomicOwnedPathsTransition currentPaths nextPaths current next) : currentPaths ⊆ nextPaths := by
  unfold validateAtomicOwnedPathsTransition at h
  split at h
  · split at h
    · rw [beq_iff_eq] at h
      intro path hpath
      rw [← h, mem_sortedPaths]
      exact List.mem_append_left _ (List.mem_append_left _ hpath)
    · cases h
  · rw [beq_iff_eq] at h
    exact h ▸ List.Subset.refl _

lemma toNat_of_checkedSuccessor {generation next : UInt64} (h : checkedSuccessor generation = some next) :
    next.toNat = generation.toNat + 1 := by
  unfold checkedSuccessor at h
  split at h
  next hlt =>
    rw [← Option.some.inj h]
    exact Nat.mod_eq_of_lt hlt
  · cases h

lemma JournalPhase.ordinal_next {phase next : JournalPhase} (h : phase.next = some next) :
    next.ordinal = phase.ordinal + 1 := by
  cases phase <;> cases h <;> rfl

lemma PlaintextJournalPhase.ordinal_next {phase next : PlaintextJournalPhase} (h : phase.next = some next) :
    next.ordinal = phase.ordinal + 1 := by
  cases phase <;> cases h <;> rfl

inductive Step (units : Prop) (a b : Facts σ) : Prop
  | ordinary (ordinal : b.ordinal = a.ordinal + 1) (failed : a.supervisorFailed = b.supervisorFailed)
      (records : a.records = b.records) (paths : a.paths = b.paths)
  | supervisor (ordinal : b.ordinal = a.ordinal) (before : a.supervisorFailed = false)
      (after : b.supervisorFailed = true) (units : units) (records : a.records = b.records)
      (paths : a.paths = b.paths)
  | atomic (ordinal : b.ordinal = a.ordinal) (failed : a.supervisorFailed = b.supervisorFailed) (units : units)
      (records : validateAtomicWriteRecordsTransition a.records b.records = true)
      (paths : validateAtomicOwnedPathsTransition a.paths b.paths a.records b.records = true)
  | guardIdentity (ordinal : b.ordinal = a.ordinal) (failed : a.supervisorFailed = b.supervisorFailed)
      (units : units) (records : a.records = b.records) (paths : a.paths = b.paths)

def JournalProgress.facts (ordinal : Phase → ℕ) (stable : σ) (journal : JournalProgress Phase Hashes Action) :
    Facts σ where
  generation := journal.generation.toNat
  ordinal := ordinal journal.phase
  supervisorFailed := journal.supervisorFailed
  stable := stable
  records := journal.atomicWrites
  paths := journal.transactionOwnedPaths

lemma step_of_transition {ordinal : Phase → ℕ} {nextPhase : Phase → Option Phase} {effectivePhase : Phase}
    {a b : JournalProgress Phase Hashes Action} (stable stable' : σ)
    (hordinal : ∀ phase phase', nextPhase phase = some phase' → ordinal phase' = ordinal phase + 1)
    (h : a.transition nextPhase effectivePhase b) :
    Step (a.effectiveUnits = b.effectiveUnits) (JournalProgress.facts ordinal stable a)
      (JournalProgress.facts ordinal stable' b) := by
  simp only [transition, recordsStable, pathsStable, Bool.or_eq_true, beq_iff_eq] at h
  obtain ⟨-, -, hshape, -, hrecords, hpaths⟩ := h
  by_cases hatomic : a.atomicPhase b
  · simp only [atomicPhase, Bool.and_eq_true, beq_iff_eq] at hatomic
    obtain ⟨⟨⟨⟨⟨⟨hphase, hfailed⟩, -⟩, hunits⟩, -⟩, hrecords⟩, hpaths⟩ := hatomic
    exact .atomic (congrArg ordinal hphase.symm) hfailed hunits hrecords hpaths
  replace hrecords := hrecords.resolve_left hatomic
  replace hpaths := hpaths.resolve_left hatomic
  rcases hshape with ((h | h) | h) | h
  · simp only [ordinaryPhase, Bool.and_eq_true, beq_iff_eq] at h
    exact .ordinary (hordinal _ _ h.1) h.2 hrecords hpaths
  · simp only [supervisorPhase, Bool.and_eq_true, beq_iff_eq, Bool.not_eq_true'] at h
    exact .supervisor (congrArg ordinal h.1.1.1.symm) h.1.1.2 h.1.2 h.2 hrecords hpaths
  · exact absurd h hatomic
  · simp only [guardIdentityPhase, Bool.and_eq_true, beq_iff_eq] at h
    obtain ⟨⟨⟨⟨⟨⟨⟨⟨⟨hphase, -⟩, -⟩, -⟩, hfailed⟩, -⟩, hunits⟩, -⟩, -⟩, -⟩ := h
    exact .guardIdentity (congrArg ordinal hphase.symm) hfailed hunits hrecords hpaths

lemma advances_of_step {a b : Facts σ} (hgeneration : b.generation = a.generation + 1)
    (hstable : b.stable = a.stable) (h : Step units a b) : Advances a b := by
  cases h with
  | ordinary ordinal failed records paths =>
    exact ⟨hgeneration, .inr ordinal, fun ha => failed ▸ ha, hstable, records ▸ .same _,
      paths ▸ List.Subset.refl _⟩
  | supervisor ordinal before after units records paths =>
    exact ⟨hgeneration, .inl ordinal, fun _ => after, hstable, records ▸ .same _, paths ▸ List.Subset.refl _⟩
  | atomic ordinal failed units records paths =>
    exact ⟨hgeneration, .inl ordinal, fun ha => failed ▸ ha, hstable, recordsAdvance_of_validate records,
      subset_of_validateOwnedPaths paths⟩
  | guardIdentity ordinal failed units records paths =>
    exact ⟨hgeneration, .inl ordinal, fun ha => failed ▸ ha, hstable, records ▸ .same _,
      paths ▸ List.Subset.refl _⟩

lemma validatePhaseHash_eq_ok {required : Bool} {actual : Option Sha256Digest} {expected : Sha256Digest} :
    validatePhaseHash required actual expected = .ok () ↔ actual = if required then some expected else none := by
  rw [validatePhaseHash]
  cases required with
  | false => cases actual <;> simp
  | true => simp

lemma stagingPath_mem_of_validate {transactionId : String}
    (h : validateAtomicWriteRecords transactionId paths records = .ok ()) :
    ∀ record ∈ records, record.plan.stagingPath ∈ paths := by
  rw [validateAtomicWriteRecords, then_eq_ok] at h
  replace h := h.2
  induction records with
  | nil =>
    intro record hrecord
    cases hrecord
  | cons record later ih =>
    simp only [validateAtomicWriteRecordList, then_eq_ok, require_eq_ok] at h
    rw [List.forall_mem_cons]
    exact ⟨h.2.2.1.1, ih h.2.2.2.2⟩

section

def ProvisioningJournalV1.facts (journal : ProvisioningJournalV1) : Facts ProvisioningJournalV1.Stable :=
  JournalProgress.facts JournalPhase.ordinal journal.toStable journal.toJournalProgress

def liveHashesForPhase (planned : PlannedObjectHashes) (phase : JournalPhase) : LiveObjectHashes where
  artifactSha256 := if 3 ≤ phase.ordinal then some planned.artifactSha256 else none
  dropinSha256 := if 4 ≤ phase.ordinal then some planned.dropinSha256 else none
  configSha256 :=
    if phase.ordinal < 5 then none
    else if phase.ordinal < 9 then some planned.disabledConfigSha256
    else some planned.enabledConfigSha256
  disabledReceiptSha256 := if 7 ≤ phase.ordinal then some planned.disabledReceiptSha256 else none
  enabledReceiptSha256 := if 12 ≤ phase.ordinal then some planned.enabledReceiptSha256 else none

structure Settled (journal : ProvisioningJournalV1) : Prop where
  owns : ∀ record ∈ journal.atomicWrites, record.plan.stagingPath ∈ journal.transactionOwnedPaths
  recoveryAction : journal.recoveryAction = recoveryActionForPhase journal.phase
  liveHashes : journal.liveHashes = liveHashesForPhase journal.plannedHashes journal.phase

open JournalHistory.ProvisioningJournalV1 Provisioning.ProvisioningJournalV1

variable {E : Serialization}

lemma liveHashes_of_validate (h : journal.validateLiveHashMatrix = .ok ()) :
    journal.liveHashes = liveHashesForPhase journal.plannedHashes journal.phase := by
  simp only [validateLiveHashMatrix, then_eq_ok, require_eq_ok, validatePhaseHash_eq_ok,
    decide_eq_true_eq] at h
  obtain ⟨hartifact, hdropin, hconfig, hdisabled, henabled⟩ := h
  change LiveObjectHashes.mk journal.liveHashes.artifactSha256 journal.liveHashes.dropinSha256
    journal.liveHashes.configSha256 journal.liveHashes.disabledReceiptSha256
    journal.liveHashes.enabledReceiptSha256 = _
  rw [hartifact, hdropin, hconfig, hdisabled, henabled]
  rfl

lemma settled_of_validate (h : journal.validate E = .ok ()) : Settled journal := by
  simp only [validate, then_eq_ok, require_eq_ok] at h
  obtain ⟨-, -, -, -, -, -, -, -, -, -, hrecords, -, -, -, -, -, haction, hlive⟩ := h
  exact ⟨stagingPath_mem_of_validate hrecords, haction, liveHashes_of_validate hlive⟩

lemma step_of_validate (h : validateJournalTransition E current next = .ok ()) :
    Step (current.effectiveUnits = next.effectiveUnits) (facts current) (facts next) := by
  simp only [validateJournalTransition, then_eq_ok, require_eq_ok] at h
  exact step_of_transition _ _ (fun _ _ => JournalPhase.ordinal_next) h.2.2.1

lemma advances_of_validate (h : validateJournalTransition E current next = .ok ()) :
    Advances (facts current) (facts next) := by
  have hstep := step_of_validate h
  simp only [validateJournalTransition, then_eq_ok, require_eq_ok] at h
  obtain ⟨-, -, htransition, hstable, -⟩ := h
  exact advances_of_step (toNat_of_checkedSuccessor htransition.1) (beq_iff_eq.mp hstable).symm hstep

lemma settled_of_transitions {journals : List ProvisioningJournalV1}
    (hhead : ∀ journal ∈ journals.head?, journal.validate E = .ok ())
    (h : journals.IsChain fun current next => validateJournalTransition E current next = .ok ()) :
    ∀ journal ∈ journals, Settled journal := by
  have hvalid := chain_forall (P := fun journal => journal.validate E = .ok ()) ?_ h hhead
  · exact fun journal hj => settled_of_validate (hvalid journal hj)
  · intro current next hnext
    simp only [validateJournalTransition, then_eq_ok] at hnext
    exact hnext.2.1

end

section

def PlaintextProvisioningJournalV1.facts (journal : PlaintextProvisioningJournalV1) :
    Facts PlaintextProvisioningJournalV1.Stable :=
  JournalProgress.facts PlaintextJournalPhase.ordinal journal.toStable journal.toJournalProgress

structure PlaintextSettled (journal : PlaintextProvisioningJournalV1) : Prop where
  owns : ∀ record ∈ journal.atomicWrites, record.plan.stagingPath ∈ journal.transactionOwnedPaths
  recoveryAction : journal.recoveryAction = plaintextRecoveryActionForPhase journal.phase
  liveConfig : journal.liveConfigSha256 = if 4 ≤ journal.phase.ordinal then
    some journal.enabledConfigSha256 else none

open JournalHistory.PlaintextProvisioningJournalV1 Provisioning.PlaintextProvisioningJournalV1

variable {E : Serialization}

lemma plaintextSettled_of_validate {journal : PlaintextProvisioningJournalV1} (h : journal.validate E = .ok ()) :
    PlaintextSettled journal := by
  simp only [validate, then_eq_ok, require_eq_ok] at h
  obtain ⟨-, -, -, -, -, -, -, -, hrecords, -, -, -, -, -, -, -, -, -, hstate, -, -, hlive⟩ := h
  exact ⟨stagingPath_mem_of_validate hrecords, hstate.2.2, hlive⟩

variable {current next : PlaintextProvisioningJournalV1}

section

variable (h : validatePlaintextJournalTransition E current next = .ok ())

include h

lemma step_of_validatePlaintext : Step (current.effectiveUnits = next.effectiveUnits) (facts current)
    (facts next) := by
  simp only [validatePlaintextJournalTransition, then_eq_ok, require_eq_ok] at h
  exact step_of_transition _ _ (fun _ _ => PlaintextJournalPhase.ordinal_next) h.2.2.1

lemma advances_of_validatePlaintext : Advances (facts current) (facts next) := by
  have hstep := step_of_validatePlaintext h
  simp only [validatePlaintextJournalTransition, then_eq_ok, require_eq_ok] at h
  obtain ⟨-, -, htransition, hstable⟩ := h
  exact advances_of_step (toNat_of_checkedSuccessor htransition.1) (beq_iff_eq.mp hstable).symm hstep

end

lemma plaintextSettled_of_transitions {journals : List PlaintextProvisioningJournalV1}
    (hhead : ∀ journal ∈ journals.head?, journal.validate E = .ok ())
    (h : journals.IsChain fun current next => validatePlaintextJournalTransition E current next = .ok ()) :
    ∀ journal ∈ journals, PlaintextSettled journal := by
  have hvalid := chain_forall (P := fun journal => journal.validate E = .ok ()) ?_ h hhead
  · exact fun journal hj => plaintextSettled_of_validate (hvalid journal hj)
  · intro current next hnext
    simp only [validatePlaintextJournalTransition, then_eq_ok] at hnext
    exact hnext.2.1

end

/-- Both kinds of journal only move forward, along every chain that starts with a valid journal. -/
theorem journal_histories_monotone (E : Serialization) :
    (∀ journals : List ProvisioningJournalV1,
      (∀ journal ∈ journals.head?, journal.validate E = .ok ()) →
      (journals.IsChain fun current next => validateJournalTransition E current next = .ok ()) →
      Monotone (journals.map ProvisioningJournalV1.facts) ∧ ∀ journal ∈ journals, Settled journal) ∧
    ∀ journals : List PlaintextProvisioningJournalV1,
      (∀ journal ∈ journals.head?, journal.validate E = .ok ()) →
      (journals.IsChain fun current next => validatePlaintextJournalTransition E current next = .ok ()) →
      Monotone (journals.map PlaintextProvisioningJournalV1.facts) ∧ ∀ journal ∈ journals,
      PlaintextSettled journal :=
  ⟨fun _ hhead h => ⟨monotone_of_isChain (List.isChain_map _ |>.mpr (h.imp fun _ _ => advances_of_validate)),
      settled_of_transitions hhead h⟩,
    fun _ hhead h =>
    ⟨monotone_of_isChain (List.isChain_map _ |>.mpr (h.imp fun _ _ => advances_of_validatePlaintext)),
      plaintextSettled_of_transitions hhead h⟩⟩

def sampleSerialization : Serialization where
  sha256 := fun _ => .filled 32 0
  guardJson guard := utf8Bytes "\x7b\"schema_version\":1,\"transaction_id\":\"" ++ utf8Bytes guard.transactionId ++
    utf8Bytes "\"\x7d"

def sampleDigest : Sha256Digest := ⟨"0000000000000000000000000000000000000000000000000000000000000000"⟩

def sampleTransaction : String := "txn-0123456789abcdef0123456789abcdef"

def sampleStagingPath : String :=
  "/var/lib/.howy-txn-0123456789abcdef0123456789abcdef-transaction-v1.json-journal.stage"

def sampleDirectory (path : String) (permissions : UInt32) : DirectoryIdentityV1 :=
  ⟨path, .directory, 1, 2, 0, 0, permissions, 2⟩

def sampleDirectoryRecord (path parent : String) (permissions : UInt32) : SecurityDirectoryRecordV1 :=
  ⟨path, 0, 0, permissions, sampleDirectory parent 0o755, none, some (sampleDirectory path permissions), false⟩

def sampleDirectories : List SecurityDirectoryRecordV1 :=
  [sampleDirectoryRecord "/etc/howy" "/etc" 0o700, sampleDirectoryRecord "/etc/howy/models" "/etc/howy" 0o700,
    sampleDirectoryRecord "/etc/howy/models/mode1" "/etc/howy/models" 0o700,
    sampleDirectoryRecord "/etc/credstore.encrypted" "/etc" 0o700,
    sampleDirectoryRecord "/etc/systemd/system/howy.service.d" "/etc/systemd/system" 0o755,
    sampleDirectoryRecord "/var/lib/howy" "/var/lib" 0o700,
    sampleDirectoryRecord "/var/lib/howy/security-state" "/var/lib/howy" 0o700,
    sampleDirectoryRecord "/var/lib/howy/security-state/unadopted" "/var/lib/howy/security-state" 0o700]

def sampleFile (byteLength : UInt64) : AtomicFileIdentityV1 :=
  ⟨1, 3, .regularFile, 0, 0, 0o600, 1, byteLength, sampleDigest⟩

def sampleUnit (kind : UnitKind) : StableUnitState := ⟨kind, .loaded, .inactive, .dead, .enabled⟩

def sampleEffectiveUnit (kind : UnitKind) : EffectiveUnitObservationV1 :=
  ⟨kind, ⟨baseServiceUnitPath, sampleDigest, ⟨.regularFile, 0, 0, 0o644, 1, 1⟩⟩, [], [], [], [], [], []⟩

def samplePlan : AtomicWritePlanV1 where
  schemaVersion := 1
  transactionId := sampleTransaction
  targetPath := "/etc/howy/config.toml"
  parentDirectory := sampleDirectory "/etc/howy" 0o700
  expectedTarget := .absent
  stagingPath := "/etc/howy/.howy-txn-0123456789abcdef0123456789abcdef-config.toml-" ++
    sampleDigest.value ++ ".stage"
  backupPath := none
  uid := 0
  gid := 0
  permissions := 0o600
  timestamps := none
  bytesSha256 := sampleDigest
  byteLength := 5
  operation := .noReplace

def sampleJournal : ProvisioningJournalV1 where
  schemaVersion := 1
  transactionId := sampleTransaction
  generation := 1
  priorJournalIdentity := none
  journalStagingPath := sampleStagingPath
  guard := none
  phase := .prepared
  mode := 1
  epoch := 1
  credentialName := mode1CredentialName
  plannedHashes := ⟨sampleDigest, sampleDigest, sampleDigest, sampleDigest, sampleDigest, sampleDigest⟩
  liveHashes := ⟨none, none, none, none, none⟩
  transactionOwnedPaths := [sampleStagingPath]
  atomicWrites := []
  securityDirectories := sampleDirectories
  artifactPreexisted := false
  transientUnit := "howy-readiness-1.service"
  priorConfig := none
  priorDropin := none
  priorReceipt := none
  serviceUnitState := sampleUnit .service
  socketUnitState := sampleUnit .socket
  postProvisionServiceTarget := sampleUnit .service
  postProvisionSocketTarget := sampleUnit .socket
  priorDaemonInvocationId := none
  priorEffectiveUnits := ⟨sampleEffectiveUnit .service, sampleEffectiveUnit .socket⟩
  effectiveUnits := none
  backupHashes := ⟨none, none, none, none⟩
  recoveryAction := .restorePriorState
  supervisorFailed := false

def sampleGuarded : ProvisioningJournalV1 :=
  { sampleJournal with
    generation := 2
    priorJournalIdentity := some (sampleFile 4000)
    guard := some ⟨⟨1, sampleTransaction⟩, sampleFile 76⟩
    phase := .guarded }

def samplePlanned : ProvisioningJournalV1 :=
  { sampleGuarded with
    generation := 3
    transactionOwnedPaths := [samplePlan.stagingPath, sampleStagingPath]
    atomicWrites := [⟨samplePlan, .planned⟩] }

def samplePlaintextJournal : PlaintextProvisioningJournalV1 :=
  { sampleJournal with
    phase := .prepared
    enabledConfigSha256 := sampleDigest
    liveHashes := none
    dropinSha256 := sampleDigest
    recoveryAction := .restorePriorState }

def samplePlaintextFailed : PlaintextProvisioningJournalV1 :=
  { samplePlaintextJournal with
    generation := 2
    priorJournalIdentity := some (sampleFile 4000)
    supervisorFailed := true }

theorem journal_histories_monotone_sample :
    (Monotone ([sampleJournal, sampleGuarded, samplePlanned].map ProvisioningJournalV1.facts) ∧
      ∀ journal ∈ [sampleJournal, sampleGuarded, samplePlanned], Settled journal) ∧
    Monotone ([samplePlaintextJournal, samplePlaintextFailed].map PlaintextProvisioningJournalV1.facts) ∧
      ∀ journal ∈ [samplePlaintextJournal, samplePlaintextFailed], PlaintextSettled journal := by
  refine ⟨(journal_histories_monotone sampleSerialization).1 _ ?_ ?_,
    (journal_histories_monotone sampleSerialization).2 _ ?_ ?_⟩
  · intro journal hjournal
    cases hjournal
    decide +kernel
  · rw [List.isChain_cons_cons, List.isChain_cons_cons]
    exact ⟨by decide +kernel, by decide +kernel, List.isChain_singleton _⟩
  · intro journal hjournal
    cases hjournal
    decide +kernel
  · rw [List.isChain_cons_cons]
    exact ⟨by decide +kernel, List.isChain_singleton _⟩

end Howy.Provisioning.JournalHistory
