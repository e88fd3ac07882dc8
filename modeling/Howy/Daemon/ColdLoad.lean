import Howy.Daemon.Startup
import Howy.Storage.Mode1Moves
import Howy.Storage.Shapes

namespace Howy.Daemon

open Library Storage Howypln1 Howyenc1Exact Budget Mode1 Plaintext

structure Idle (limit : ℕ) (budget : PlaintextBudget) (cache : CacheState) : Prop where
  limit : budget.limit = limit
  used : budget.used = 0
  entries : cache.entries = ∅
  bytes : cache.bytes = 0
  enabled : cache.disabled = false

def within {α : Type} (requested available : ℕ) (rest : BackendResult α) : BackendResult α :=
  if available < requested then .error (.memoryBudgetExceeded requested available) else rest

lemma within_bind {α β : Type} (requested available : ℕ) (x : BackendResult α)
    (f : α → BackendResult β) : within requested available x >>= f = within requested available (x >>= f) := by
  rw [within, within]
  split <;> rfl

variable {limit : ℕ} {budget : PlaintextBudget} {cache : CacheState} {u : CanonicalUsername}

lemma nextClock_of_empty (h : cache.entries = ∅) :
    cache.nextClock.entries = ∅ ∧ cache.nextClock.bytes = cache.bytes ∧
      cache.nextClock.disabled = cache.disabled := by
  rw [CacheState.nextClock]
  split
  · refine ⟨AList.ext ?_, rfl, rfl⟩
    change List.map _ cache.entries.entries = []
    rw [h]
    rfl
  · exact ⟨h, rfl, rfl⟩

lemma Idle.nextClock (h : Idle limit budget cache) : Idle limit budget cache.nextClock := by
  obtain ⟨he, hb, hd⟩ := nextClock_of_empty h.entries
  exact ⟨h.limit, h.used, he, hb.trans h.bytes, hd.trans h.enabled⟩

lemma Idle.get (h : Idle limit budget cache) : cache.get u = (none, cache.nextClock) := by
  have hl : cache.nextClock.entries.lookup u = none := by
    rw [h.nextClock.entries]
    rfl
  simp [CacheState.get, CacheState.touch, h.enabled, hl]

lemma Idle.authenticateWith (h : Idle limit budget cache) (cold : CacheState → BackendResult AuthModel) :
    authenticateWith cold cache u = cold cache.nextClock.nextClock := by
  simp [Daemon.authenticateWith, h.get, h.nextClock.get]

lemma reserveFor_unused (hused : budget.used = 0) (hl : budget.limit < 2 ^ 64) {bytes : ℕ} (hb : bytes ≠ 0)
    (owner : Owner) : (budget.reserveFor bytes owner).2 =
      if budget.limit < bytes then .refused (.memoryBudgetExceeded bytes budget.limit) else
      .granted budget.next := by
  rw [PlaintextBudget.reserveFor, if_neg hb, hused, Nat.sub_zero, checkedAdd, Nat.zero_add]
  by_cases hlt : bytes < 2 ^ 64
  · rw [if_pos hlt]
    by_cases hle : budget.limit < bytes
    · simp [hle]
    · simp [hle]
  · rw [if_neg hlt, if_pos (by omega)]

lemma Idle.reserveOperation (h : Idle limit budget cache) (hl : limit < 2 ^ 64) (bytes : ℕ) (hb : bytes ≠ 0) :
    reserveOperation budget bytes = within bytes limit (.ok ⟨bytes, true⟩) := by
  rw [Daemon.reserveOperation, PlaintextBudget.reserve, reserveFor_unused h.used (h.limit ▸ hl) hb,
    h.limit, within]
  by_cases hle : limit < bytes
  · simp [hle]
  · simp [hle]

variable {model : AuthModel}

lemma Idle.insert (h : Idle limit budget cache) (limits : ModelCacheLimits) {permit : ℕ}
    (hp : model.plaintextBytes ≤ permit) :
    (cache.insert limits u model permit).1 = within model.plaintextBytes limits.maxBytes (.ok model) := by
  have hlookup : cache.entries.lookup u = none := by
    rw [h.entries]
    rfl
  have hremove : (cache.remove u).getD cache = cache := by
    rw [CacheState.remove, hlookup]
    rfl
  have hsize : size cache.entries = 0 := by
    rw [h.entries]
    rfl
  rw [CacheState.insert, within]
  by_cases hb : limits.maxBytes < model.plaintextBytes
  · rw [if_pos hb, if_pos hb]
  have hroom : CacheState.crowded limits model.plaintextBytes cache = false := by
    have hu := limits.maxUsers_pos
    rw [CacheState.crowded, h.bytes]
    simp only [Bool.or_eq_false_iff, decide_eq_false_iff_not]
    exact ⟨by omega, by omega⟩
  rw [if_neg hb, if_neg hb, if_neg (by omega), if_neg (by rw [h.enabled]; decide)]
  simp [hremove, hsize, CacheState.makeRoom, hroom]

lemma Idle.finish (h : Idle limit budget cache) (limits : ModelCacheLimits) (permit : BudgetPermit)
    {record : EnrollmentRecord} (hne : record.entries ≠ [])
    (hm : AuthModel.fromRecord record = .ok model) (hp : model.plaintextBytes ≤ permit.bytes)
    (h0 : model.plaintextBytes ≠ 0) :
    (do
      failIf (record.entries = []) .absent
      let model ← AuthModel.fromRecord record
      let permit ← permit.shrinkTo model.plaintextBytes
      (cache.insert limits u model permit.bytes).1 : BackendResult AuthModel) =
      within model.plaintextBytes limits.maxBytes (.ok model) := by
  have hfail : (failIf (record.entries = []) .absent : BackendResult Unit) = .ok () :=
    failIf_eq_ok.mpr hne
  rw [hfail, hm]
  change (permit.shrinkTo model.plaintextBytes >>= fun permit => (cache.insert limits u model permit.bytes).1) = _
  rw [BudgetPermit.shrinkTo, if_neg (by omega)]
  exact h.insert limits le_rfl

lemma flatBytes_pos {entries : List EnrollmentEntry} (h : entries ≠ []) :
    flatBytes entries.length (labelBytes entries) ≠ 0 := by
  have := List.length_pos_iff.mpr h
  rw [flatBytes]
  omega

lemma flatBytes_le_coldBytes (count labels : ℕ) : flatBytes count labels ≤ coldBytes count labels := by
  rw [flatBytes, coldBytes]
  omega

section

variable {backend : Mode1StorageBackend} {record : EnrollmentRecord} {bytes : Bytes}

lemma fits_of_appends (h : StorageBackend.Appends (.mode1 backend) record bytes) :
    Fits backend record ∧ Seals backend record bytes ∧ record.entries ≠ [] := by
  obtain _ | ⟨agrees, estimated, -, built, hseals⟩ := h
  rename_i request found nonce inspected estimate generation
  obtain ⟨-, hm, -, he⟩ := EnrollmentRecord.new_eq_ok.mp built
  refine ⟨fits_append backend agrees estimated hm he, hseals, ?_⟩
  rw [he]
  exact List.append_ne_nil_of_right_ne_nil _ request.entries_ne_nil

lemma mode1_authenticate (hidle : Idle limit budget cache) (hlimit : limit < 2 ^ 64)
    (h : StorageBackend.Appends (.mode1 backend) record bytes)
    (hm : AuthModel.fromRecord record = .ok model) (json : Option FileNode) :
    (StorageBackend.mode1 backend).authenticate budget cache record.username
        ⟨some (recordNode backend.expectedOwner bytes), json⟩ =
      within (coldBytes record.entries.length (labelBytes record.entries)) limit
        (within (flatBytes record.entries.length (labelBytes record.entries)) backend.cacheLimits.maxBytes
          (.ok model)) := by
  obtain ⟨hfits, hseals, hne⟩ := fits_of_appends h
  obtain ⟨model', hm', hbytes⟩ := exists_fromRecord record
  obtain rfl : model' = model := Except.ok.inj (hm'.symm.trans hm)
  have hfile : Mode1.isRecordFile backend.expectedOwner (recordNode backend.expectedOwner bytes) =
      true := by
    simp [Mode1.isRecordFile, recordNode]
  obtain ⟨nonce, hi⟩ := inspects_sealed backend hfits hseals hfile rfl
  have hinspect : inspectNode backend record.username (some (recordNode backend.expectedOwner bytes)) =
      .ok (some _) :=
    (inspectNode_eq_ok backend).mpr (.inr ⟨_, _, rfl, hi, rfl⟩)
  have hestimate := forEncryptedHeader_eq record .aeadCached backend.keyEpoch nonce
  have hcold : (shapeEstimate record.entries.length (labelBytes record.entries)).coldLoadPeakBytes =
    coldBytes _ _ := rfl
  generalize shapeEstimate record.entries.length (labelBytes record.entries) = estimate at hestimate hcold
  have hflat := flatBytes_le_coldBytes record.entries.length (labelBytes record.entries)
  have hpos := flatBytes_pos hne
  have hreserve := hidle.reserveOperation hlimit estimate.coldLoadPeakBytes (by omega)
  have hdecode : decodeHowyenc1 backend.gcm bytes backend.key .aeadCached backend.keyEpoch record.username
      backend.recognizerModel = .ok record := decodeHowyenc1_eq_ok.mpr ⟨rfl, hfits.model, hseals⟩
  have hdecrypt : decryptFile backend record.username (recordNode backend.expectedOwner bytes)
      (headerOf record .aeadCached backend.keyEpoch nonce) ⟨estimate.coldLoadPeakBytes, true⟩ =
      .ok ⟨record, ⟨estimate.coldLoadPeakBytes, true⟩⟩ := by
    simp only [decryptFile, hestimate, ok_bind, bind_eq_ok, failIf_eq_ok, mapError_eq_ok]
    exact ⟨(), by simp, record, hdecode, rfl⟩
  have hfinish := hidle.nextClock.nextClock.finish (u := record.username) backend.cacheLimits
    ⟨estimate.coldLoadPeakBytes, true⟩ hne hm (by dsimp only; omega) (by omega)
  rw [StorageBackend.authenticate, hidle.authenticateWith, Mode1StorageBackend.authenticateCold,
    Mode1StorageBackend.loadRecord, hinspect]
  simp only [inspectedRecord, hestimate, ok_bind]
  rw [hreserve, within_bind, ok_bind, hdecrypt, within_bind, ok_bind, hfinish, hcold, hbytes]

end

variable {backend : PlaintextStorageBackend} {record : EnrollmentRecord} {bytes : Bytes}

structure Encodes (backend : PlaintextStorageBackend) (record : EnrollmentRecord) (bytes : Bytes) : Prop where
  model : record.recognizerModelSha256 = backend.recognizerModel
  entries_le : record.entries.length ≤ backend.limits.maxEntries
  entries_ne_nil : record.entries ≠ []
  encoded : encodeHowypln1 record = .ok bytes
  length_le : bytes.length ≤ backend.limits.maxRecordBytes

lemma encodes_of_appends (h : StorageBackend.Appends (.plaintext backend) record bytes) :
    Encodes backend record bytes := by
  obtain ⟨prepared, encoded⟩ | _ := h
  rename_i request loaded model
  simp only [Plaintext.prepareAppend, bind_eq_ok, failIf_eq_ok, invalid_eq_ok, checkedAdd_eq_some,
    mapError_eq_ok, EnrollmentRecord.new_eq_ok, pure_eq_ok, Prod.mk.injEq] at prepared
  obtain ⟨_, -, _, ⟨-, rfl⟩, _, htotal, _, -, r, ⟨-, hm, -, he⟩, _, -, rfl, -⟩ := prepared
  simp only [encodeRecord, bind_eq_ok, mapError_eq_ok, failIf_eq_ok, pure_eq_ok] at encoded
  obtain ⟨bytes', hb, _, hle, rfl⟩ := encoded
  refine ⟨hm, ?_, ?_, hb, Nat.le_of_not_lt hle⟩
  · rw [he, List.length_append]
    exact Nat.le_of_not_lt htotal
  · rw [he]
    exact List.append_ne_nil_of_right_ne_nil _ request.entries_ne_nil

lemma plaintext_authenticate (hidle : Idle limit budget cache) (hlimit : limit < 2 ^ 64)
    (h : Encodes backend record bytes) (hm : AuthModel.fromRecord record = .ok model)
    (hroom : flatBytes record.entries.length (labelBytes record.entries) ≤ backend.operationReservationBytes)
    (json : Option FileNode) : (StorageBackend.plaintext backend).authenticate budget cache record.username
        ⟨some (recordNode backend.expectedOwner bytes), json⟩ =
      within backend.operationReservationBytes limit
        (within (flatBytes record.entries.length (labelBytes record.entries)) backend.cacheLimits.maxBytes
          (.ok model)) := by
  obtain ⟨model', hm', hbytes⟩ := exists_fromRecord record
  obtain rfl : model' = model := Except.ok.inj (hm'.symm.trans hm)
  have hpos := flatBytes_pos h.entries_ne_nil
  have hfile : Plaintext.isRecordFile backend.expectedOwner (recordNode backend.expectedOwner bytes) =
      true := by
    simp [Plaintext.isRecordFile, recordNode]
  have hload : Plaintext.loadRecord backend record.username
      (some (recordNode backend.expectedOwner bytes)) json = .ok ⟨record, .howypln1⟩ :=
    loadRecord_bin backend hfile h.length_le rfl h.model h.encoded
  have hreserve := hidle.reserveOperation hlimit backend.operationReservationBytes (by omega)
  have hfinish := hidle.nextClock.nextClock.finish (u := record.username) backend.cacheLimits
    ⟨backend.operationReservationBytes, true⟩ h.entries_ne_nil hm (by dsimp only; omega) (by omega)
  rw [StorageBackend.authenticate, hidle.authenticateWith, PlaintextStorageBackend.authenticateCold, hreserve,
    within_bind, ok_bind, hload, ok_bind, hfinish, hbytes]

end Howy.Daemon
