import Howy.Daemon.EnrollmentAdmission
import Howy.Library.Totality
import Howy.Storage.Mode1Permanence

/-! A call that runs alone, step by step, returns what the daemon's functions for an idle backend compute. -/

namespace Howy.Daemon

open Library Storage Budget Mode1 EnrollmentAdmission

/-- The surroundings of a call that runs alone: nothing fails, and the budget gives `answer` to its one
reservation. -/
structure Alone (budget : PlaintextBudget) (answer : Budget.Answer) (c : Choice) : Prop where
  faultFree : c.FaultFree
  refusals : c.refusals = 0 ↔ ∃ h, answer = .granted h
  available : c.available = budget.limit - budget.used

variable {D : Type} {store : RecordStore D} {u : CanonicalUsername} {active : Option FileNode} {s : Shared D}
  {backend : Mode1StorageBackend} {budget : PlaintextBudget} {answer : Budget.Answer} {bytes n : ℕ}

structure Resting (store : RecordStore D) (u : CanonicalUsername) (active : Option FileNode)
    (s : Shared D) : Prop where
  active : store.active s.disk u = active
  entries : s.cache.entries = ∅
  enabled : s.cache.disabled = false
  available : s.poisoned = false

lemma Alone.refused {c : Choice} {e : StorageBackendError} (hc : Alone budget (.refused e) c) : c.refusals ≠ 0 :=
  fun h0 => nomatch (hc.refusals.mp h0).choose_spec

lemma calm_alone : Calm (Alone budget answer) false False := .inr ⟨rfl, fun _ hc => hc.faultFree⟩

lemma reserveLoop_of_empty {cache : CacheState} (h : cache.entries = ∅)
    (protected_ : Option CanonicalUsername) (n : ℕ) :
    CacheState.reserveLoop protected_ n cache = (decide (n = 0), cache) := by
  cases n with
  | zero => rfl
  | succ n =>
    have hnone : cache.evictLruExcept protected_ = none := by
      rw [CacheState.evictLruExcept, h]
      rfl
    rw [CacheState.reserveLoop, hnone]
    rfl

lemma reserveFor_answer (budget : PlaintextBudget) (owner : Owner) (hb : bytes ≠ 0) :
    (∃ h, (budget.reserveFor bytes owner).2 = .granted h) ∨
      (budget.reserveFor bytes owner).2 = .refused (.memoryBudgetExceeded bytes (budget.limit - budget.used)) := by
  rw [PlaintextBudget.reserveFor, if_neg hb]
  split
  · exact .inr rfl
  split
  · exact .inr rfl
  · exact .inl ⟨_, rfl⟩

lemma answers_reserveOperationExcept (hs : Resting store u active s) (protected_ : Option CanonicalUsername) :
    Answers (Alone budget (budget.reserve bytes).2) s (reserveOperation budget bytes)
      (reserveOperationExcept bytes protected_ : Op D BudgetPermit).run := by
  intro c hc
  rw [PlaintextBudget.reserve] at hc
  dsimp only
  rw [Daemon.reserveOperation, PlaintextBudget.reserve, CacheState.reserveOperationExcept, hs.enabled,
    reserveLoop_of_empty hs.entries, hc.available]
  by_cases hb : bytes = 0
  · subst hb
    exact ⟨_, rfl, rfl⟩
  obtain ⟨h, hanswer⟩ | hanswer := reserveFor_answer budget (.permit bytes) hb
  · rw [hc.refusals.mpr ⟨h, hanswer⟩, hanswer, if_neg hb]
    exact ⟨_, rfl, rfl⟩
  · rw [hanswer] at hc ⊢
    simp only [hb, if_false, hc.refused]
    exact ⟨_, rfl, rfl⟩

lemma answers_inspectRecord (hs : Resting store u active s) :
    Answers (Alone budget answer) s (inspectNode backend u active)
    (inspectRecord backend store.active u false).run := by
  have hreports : Reports (Alone budget answer) (fun s : Shared D => store.active s.disk u = active) False
      (inspectNode backend u active) (inspectRecord backend store.active u false) :=
    (reports_checkCancelled calm_alone).ok_bind (reports_inspectNamedRecord backend calm_alone
      (store.active · u) u)
  exact answers_of_finds hreports (fun _ hf => hf) plain_inspectRecord.unblocked hs.active

lemma answers_decryptInspected {inspected : InspectedRecord} (hi : inspectNode backend u active =
    .ok (some inspected)) (permit : BudgetPermit) :
    Answers (Alone budget answer) s (decryptFile backend u inspected.file inspected.header permit)
      (decryptInspected backend inspected u permit false).run := by
  obtain ⟨-, hnone⟩ | ⟨file, header, -, hinspects, hsome⟩ := (inspectNode_eq_ok backend).mp hi
  · cases hnone
  obtain rfl := Option.some.inj hsome
  have hreports : Reports (Alone budget answer) (fun _ => True) False (decryptFile backend u file header permit)
      (decryptInspected backend (inspectedRecord file header) u permit false : Op D LoadedRecord) :=
    reports_decryptInspected backend calm_alone hinspects
  exact answers_of_finds hreports (fun _ hf => hf) plain_decryptInspected.unblocked trivial

/-- `answer` is what the budget says to a load of this user's record. -/
def LoadAnswer (backend : Mode1StorageBackend) (budget : PlaintextBudget) (u : CanonicalUsername)
    (active : Option FileNode) (answer : Budget.Answer) : Prop :=
  ∀ inspected estimate, inspectNode backend u active = .ok (some inspected) →
    PlaintextAllocationEstimate.forEncryptedHeader inspected.header = .ok estimate →
      answer = (budget.reserve estimate.coldLoadPeakBytes).2

lemma answers_loadRecord (hs : Resting store u active s) (hanswer : LoadAnswer backend budget u active answer) :
    Answers (Alone budget answer) s (Mode1StorageBackend.loadRecord backend budget u active)
      (Mode1.loadRecord backend store u false).run := by
  refine answers_bindE (answers_inspectRecord hs) fun found hfound => ?_
  cases found with
  | none => exact rfl
  | some inspected =>
    refine answers_bindE rfl fun estimate hestimate => ?_
    obtain rfl := hanswer inspected estimate hfound hestimate
    exact answers_bindE (answers_reserveOperationExcept hs none) fun permit _ =>
      answers_decryptInspected hfound permit

variable {plaintextBytes : ℕ} {shape : AppendAdmissionShape} {request : AppendRequest}

lemma answers_reserveEnrollmentForUser (hs : Resting store u active s) :
    Answers (Alone budget (budget.reserveEnrollment bytes plaintextBytes).2) s
      (reserveEnrollment budget bytes plaintextBytes)
      (reserveEnrollmentForUser bytes plaintextBytes u : Op D Mode1.EnrollmentAdmission).run := by
  intro c hc
  rw [PlaintextBudget.reserveEnrollment] at hc
  dsimp only
  rw [EnrollmentAdmission.reserveEnrollment, PlaintextBudget.reserveEnrollment, CacheState.reserveEnrollmentExcept,
    hs.enabled, hc.available]
  by_cases h0 : bytes = 0 ∨ plaintextBytes = 0
  · simp only [h0, if_true]
    exact ⟨_, rfl, rfl⟩
  simp only [h0, if_false, reserveLoop_of_empty hs.entries] at hc ⊢
  by_cases hlt : bytes + plaintextBytes < 2 ^ 64
  · have hmin : min (bytes + plaintextBytes) (2 ^ 64 - 1) = bytes + plaintextBytes := by omega
    rw [checkedAdd, if_pos hlt] at hc ⊢
    rw [if_neg (Nat.not_le.mpr hlt), hmin]
    obtain ⟨h, hanswer⟩ | hanswer := reserveFor_answer budget (.combined (bytes + plaintextBytes) plaintextBytes)
      (show bytes + plaintextBytes ≠ 0 by omega)
    · rw [hc.refusals.mpr ⟨h, hanswer⟩]
      simp only [hanswer]
      exact ⟨_, rfl, rfl⟩
    · rw [hanswer] at hc
      simp only [hanswer, hc.refused]
      exact ⟨_, rfl, rfl⟩
  · have hmin : min (bytes + plaintextBytes) (2 ^ 64 - 1) = 2 ^ 64 - 1 := by omega
    rw [checkedAdd, if_neg hlt, if_pos (Nat.not_lt.mp hlt), hmin]
    exact ⟨_, rfl, rfl⟩

section

variable {α : Type} {A : Choice → Prop} {body : Op D α} {x : BackendResult α}
  {Q : BackendResult α → Prop}

lemma sure_captured (h : Answers A s x body.run) : Sure A (captured body) s x := answers_bind h rfl

lemma sure_ensureAvailable (h : s.poisoned = false) : Sure A (ensureAvailable : Op D Unit) s () :=
  sure_query fun _ _ => by rw [h]; rfl

lemma sure_checkCancelled : Sure A (checkCancelled false : Op D Unit) s () := fun _ _ => ⟨.ok false, rfl, rfl⟩

lemma answers_refuseIf {p : Prop} [Decidable p] {e : StorageBackendError} :
    Answers A s (failIf p e) (refuseIf p e : Op D Unit).run := by
  rw [failIf, refuseIf]
  split <;> rfl

lemma total_cacheGet {limit : ℕ} {k : Option AuthModel → Op D α} (hidle : Idle limit budget s.cache)
    (h : Total A (fun r _ => Q r) (k none).run { s with cache := s.cache.nextClock }) :
    Total A (fun r _ => Q r) (cacheGet u >>= k).run s := by
  refine total_bindE (total_action fun c _ => ?_)
  dsimp only
  rw [hidle.get]
  exact h

lemma total_holdingReload (hs : s.writer = none)
    (h : Total A (fun r _ => Q r) body.run { s with readers := n :: s.readers }) :
    Total A (fun r _ => Q r) (holdingReload n false body).run s :=
  total_guarded fun _ _ => ⟨.ok (), _, if_pos hs, h⟩

lemma total_holdingUser {holder : Holder} (hs : s.users u = none)
    (h : Total A (fun r _ => Q r) body.run { s with users := Function.update s.users u (some holder) }) :
    Total A (fun r _ => Q r) (holdingUser holder u false body).run s :=
  total_guarded fun _ _ => ⟨.ok (), _, if_pos hs, h⟩

/-- What the calls that only read have in common: both locks, taken while the backend is available. -/
lemma total_locked (hs : Resting store u active s) (hw : s.writer = none) (hu : s.users u = none)
    (h : ∀ s, Resting store u active s → Answers A s x body.run) :
    Total A (fun r _ => r = x) (holdingReload n false do
      ensureAvailable
      holdingUser ⟨n, false⟩ u false do
        ensureAvailable
        body).run s := by
  apply total_holdingReload hw
  refine total_after (sure_ensureAvailable hs.available) (total_holdingUser hu ?_)
  refine total_after (sure_ensureAvailable hs.available) ?_
  exact total_of_answers (h _ ⟨hs.active, hs.entries, hs.enabled, hs.available⟩) rfl

end

lemma listMetadata_alone (hs : Resting store u active s) (hw : s.writer = none) (hu : s.users u = none)
    (hanswer : LoadAnswer backend budget u active answer) :
    Total (Alone budget answer) (fun r _ => r = listMetadata backend budget u active)
      (Mode1.listMetadata backend store n u).run s := by
  apply total_locked hs hw hu
  intro s hs
  refine answers_after (sure_captured (answers_loadRecord hs hanswer)) ?_
  exact answers_after (sure_ensureAvailable hs.available) rfl

lemma admitEnrollment_alone (hs : Resting store u active s) (hw : s.writer = none) (hu : s.users u = none)
    (hanswer : ∀ inspected estimate, inspectNode backend u active = .ok inspected →
      admittedAppendEstimate backend inspected shape = .ok estimate →
        answer = (budget.reserveEnrollment estimate.mutationPeakBytes plaintextBytes).2) :
    Total (Alone budget answer) (fun r _ => r = admitEnrollment backend budget u active plaintextBytes shape)
      (Mode1.admitEnrollment backend store n u plaintextBytes shape false).run s := by
  apply total_after sure_pure
  apply total_locked hs hw hu
  intro s hs
  refine answers_bindE (answers_inspectRecord hs) fun inspected hinspected => ?_
  refine answers_bindE rfl fun estimate hestimate => ?_
  obtain rfl := hanswer inspected estimate hinspected hestimate
  rw [← bind_pure (reserveEnrollment budget estimate.mutationPeakBytes plaintextBytes)]
  refine answers_bindE (answers_reserveEnrollmentForUser hs) fun admission _ => ?_
  exact answers_after (sure_ensureAvailable hs.available) rfl

lemma authenticateCold_alone (hs : Resting store u active s)
    (hanswer : LoadAnswer backend budget u active answer) : Total (Alone budget answer)
      (fun r t => r = Mode1StorageBackend.authenticateCold backend budget s.cache u active ∧ t.poisoned = false)
      (Mode1.authenticateCold backend store n u false false).run s := by
  refine total_after (sure_query fun _ _ => rfl) ?_
  refine total_answersE (answers_loadRecord hs hanswer) hs.available fun loaded _ => ?_
  refine total_answersE answers_refuseIf hs.available fun _ _ => ?_
  refine total_answersE rfl hs.available fun model _ => total_after sure_checkCancelled ?_
  refine total_answersE rfl hs.available fun permit _ => total_bindE (total_action fun c _ => ?_)
  cases (s.cache.insert backend.cacheLimits u model permit.bytes).1 with
  | ok lease => exact fun _ _ => ⟨_, _, rfl, rfl, hs.available⟩
  | error e => exact ⟨rfl, hs.available⟩

lemma authenticate_alone (hs : Resting store u active s) (hw : s.writer = none) (hu : s.users u = none)
    (hidle : Idle budget.limit budget s.cache) (json : Option FileNode)
    (hanswer : LoadAnswer backend budget u active answer) :
    Total (Alone budget answer)
      (fun r _ => r = (StorageBackend.mode1 backend).authenticate budget s.cache u ⟨active, json⟩)
      (Mode1.authenticate backend store n u).run s := by
  rw [StorageBackend.authenticate, hidle.authenticateWith]
  apply total_holdingReload hw
  refine total_after (sure_ensureAvailable hs.available) (total_cacheGet hidle (total_holdingUser hu ?_))
  refine total_after (sure_ensureAvailable hs.available) (total_cacheGet hidle.nextClock ?_)
  have hagain := hidle.nextClock.nextClock
  refine total_bindE (total_bind (Total.weaken (authenticateCold_alone
    ⟨hs.active, hagain.entries, hagain.enabled, hs.available⟩ hanswer) ?_))
  rintro r t ⟨hr, ht⟩
  exact total_after (sure_ensureAvailable ht) hr

lemma answers_loadOptional {inspected : Option InspectedRecord} (hi : inspectNode backend u active = .ok inspected)
    (permit : BudgetPermit) :
    Answers (Alone budget answer) s (loadOptional backend u inspected permit)
      (loadOptionalForMutation backend u inspected permit).run := by
  cases inspected with
  | none => rfl
  | some inspected => exact answers_bindE (answers_decryptInspected hi permit) fun _ _ => rfl

lemma prepareAppend_alone {inspected : Option InspectedRecord}
    (hi : inspectNode backend request.username active = .ok inspected) (operation : BudgetPermit) :
    ∃ prepared,
      Answers (Alone budget answer) s prepared (Mode1.prepareAppend backend request inspected operation).run ∧
      prepared.map (·.record) = (EnrollmentAdmission.prepareAppend backend request inspected
        operation).map some := by
  refine answers_bind_map rfl fun estimate _ => answers_bind_map answers_refuseIf fun _ _ => ?_
  refine answers_bind_map (answers_loadOptional hi operation) fun loaded _ =>
    answers_bind_map answers_refuseIf fun _ _ => ?_
  refine answers_bind_map rfl fun total _ => answers_bind_map answers_refuseIf fun _ _ => ?_
  refine answers_bind_map rfl fun generation _ => answers_bind_map rfl fun record _ => ?_
  exact answers_bind_map rfl fun model _ => ⟨_, rfl, rfl⟩

lemma planAppend_alone (hs : Resting store request.username active s)
    (hanswer : ∀ inspected estimate, inspectNode backend request.username active = .ok inspected →
      appendEstimate backend inspected request.entries = .ok estimate →
        answer = (budget.reserve estimate.mutationPeakBytes).2) :
    ∃ prepared, Answers (Alone budget answer) s prepared (Mode1.planAppend backend store request).run ∧
      prepared.map (·.record) = (planAppend backend budget active request).map some := by
  refine answers_bind_map (answers_inspectRecord hs) fun inspected hinspected => ?_
  refine answers_bind_map answers_refuseIf fun _ _ => ?_
  refine answers_bind_map rfl fun estimate hestimate => ?_
  obtain rfl := hanswer inspected estimate hinspected hestimate
  refine answers_bind_map (answers_reserveOperationExcept hs _) fun operation _ => ?_
  obtain ⟨prepared, hprepared, hrecord⟩ := prepareAppend_alone hinspected operation
  exact ⟨prepared, answers_after (sure_ensureAvailable hs.available) hprepared, hrecord⟩

/-- What `write_record` makes of the planned record before it touches the disk. -/
lemma sealRecord_alone {A : Choice → Prop} {record : EnrollmentRecord} {nonce : GcmNonce}
    (hnonce : ∀ c, A c → c.nonce = .ok nonce) :
    Answers A s (sealRecord backend record nonce) (do
      let encoded ← encryptRecord backend record
      refuseIf (howyenc1MaxRecordBytes < encoded.length) (.invalidInput "record byte length")
      pure encoded : Op D Bytes).run := by
  refine answers_bindE (fun c hc => ⟨_, ?_, rfl⟩) fun encoded _ => answers_bindE answers_refuseIf fun _ _ => rfl
  dsimp only
  rw [hnonce c hc]
  rfl

end Howy.Daemon
