import Howy.Storage.Mode1Operations
import Howy.Storage.Mode1ReadingSpec
import Mathlib.Data.List.Flatten

namespace Howy.Storage.Mode1

open Library Howyenc1Exact

variable (backend : Mode1StorageBackend) {u : CanonicalUsername} {file : FileNode} {header : EncryptedHeader}
  {record : EnrollmentRecord} {entries : List EnrollmentEntry} {i : Option InspectedRecord} {bytes : Bytes}

def Seals (record : EnrollmentRecord) (bytes : Bytes) : Prop :=
  ∃ nonce, encodeHowyenc1WithNonce backend.gcm record .aeadCached backend.keyEpoch backend.key nonce = .ok bytes

lemma recordIn_eq_some : recordIn backend u file = some record ↔
      record.username = u ∧ record.recognizerModelSha256 = backend.recognizerModel ∧
        Seals backend record file.contents := by
  rw [Seals, ← decodeHowyenc1_eq_ok, recordIn]
  generalize decodeHowyenc1 backend.gcm file.contents backend.key .aeadCached backend.keyEpoch u
    backend.recognizerModel = x
  cases x with
  | ok r | error e => simp [Except.toOption]

lemma inspect_sealed (h : Seals backend record bytes) :
    ∃ nonce, inspectHowyenc1 bytes = .ok (headerOf record .aeadCached backend.keyEpoch nonce) := by
  obtain ⟨nonce, hn⟩ := h
  exact ⟨nonce, inspectHowyenc1_encoded hn⟩

lemma header_eq (hi : Inspects backend u file header) (hr : recordIn backend u file = some record) :
    ∃ nonce, header = headerOf record .aeadCached backend.keyEpoch nonce := by
  obtain ⟨-, -, hs⟩ := (recordIn_eq_some backend).mp hr
  obtain ⟨nonce, hn⟩ := inspect_sealed backend hs
  rw [hi.inspected, Except.ok.injEq] at hn
  exact ⟨nonce, hn⟩

structure Fits (record : EnrollmentRecord) : Prop where
  model : record.recognizerModelSha256 = backend.recognizerModel
  entries_le : record.entries.length ≤ backend.limits.maxEntries
  payload_le : (payloadBytes record.entries).length ≤ backend.limits.maxPlaintextBytes

lemma fits_of_inspects (hi : Inspects backend u file header) (hr : recordIn backend u file = some record) :
    Fits backend record := by
  obtain ⟨nonce, rfl⟩ := header_eq backend hi hr
  have hcount := hi.entryCount_le
  rw [headerOf, entryCount_toNat record.length_entries] at hcount
  exact ⟨((recordIn_eq_some backend).mp hr).2.1, hcount, hi.plaintextLength_le⟩

lemma inspects_sealed (hf : Fits backend record) (hs : Seals backend record bytes)
    (hfile : isRecordFile backend.expectedOwner file) (hc : file.contents = bytes) :
    ∃ nonce, Inspects backend record.username file (headerOf record .aeadCached backend.keyEpoch nonce) := by
  obtain ⟨nonce, hn⟩ := inspect_sealed backend hs
  refine ⟨nonce, hfile, hc ▸ hn, ?_, hf.payload_le, rfl, rfl, rfl, hf.model⟩
  rw [headerOf, entryCount_toNat record.length_entries]
  exact hf.entries_le

lemma inspectNode_eq_ok {node : Option FileNode} : inspectNode backend u node = .ok i ↔ (node = none ∧ i = none) ∨
      ∃ file header, node = some file ∧ Inspects backend u file header ∧
      i = some (inspectedRecord file header) := by
  cases node with
  | none => simp [inspectNode, eq_comm]
  | some file =>
    simp only [inspectNode, reduceCtorEq, false_and, false_or, Option.some.injEq]
    constructor
    · intro h
      split at h
      · cases h
      rw [map_eq_pure_bind, bind_eq_ok] at h
      obtain ⟨i', hi', hi⟩ := h
      obtain ⟨header, hh, rfl⟩ := (inspectFile_eq_ok backend).mp hi'
      exact ⟨file, header, rfl, hh, (pure_eq_ok.mp hi).symm⟩
    · rintro ⟨_, header, rfl, hh, rfl⟩
      have hk : file.kind ≠ .symlink := by
        have hr := hh.isRecordFile
        simp only [isRecordFile, Bool.and_eq_true, beq_iff_eq] at hr
        rw [hr.1.1.1]
        decide
      rw [if_neg hk, (inspectFile_eq_ok backend).mpr ⟨header, hh, rfl⟩]
      rfl

lemma foldlM_label_bytes {start total : ℕ}
    (h : entries.foldlM (fun total entry => checkedAdd total (utf8Bytes entry.label).length) start = some total) :
    start + (entries.flatMap encodeEntry).length = total + entries.length * canonicalEntryFixedBytes := by
  induction entries generalizing start with
  | nil =>
    cases h
    simp
  | cons e es ih =>
    obtain ⟨next, hnext, hrest⟩ := Option.bind_eq_some_iff.mp h
    obtain ⟨-, rfl⟩ := checkedAdd_eq_some.mp hnext
    have hes := ih hrest
    rw [List.flatMap_cons, List.length_append, length_encodeEntry, List.length_cons, Nat.succ_mul]
    omega

variable {estimate : PlaintextAllocationEstimate}

lemma encoded_fromPayloadShape {payload count : ℕ}
    (h : PlaintextAllocationEstimate.fromPayloadShape payload count = .ok estimate) :
    estimate.encodedPayloadBytes = payload := by
  simp only [PlaintextAllocationEstimate.fromPayloadShape, bind_eq_ok, pure_eq_ok] at h
  obtain ⟨_, -, _, -, _, -, _, -, _, -, _, -, _, -, _, -, _, -, _, -, rfl⟩ := h
  rfl

lemma encoded_forAppendShape {current : Option EncryptedHeader} {count labels : ℕ}
    (h : PlaintextAllocationEstimate.forAppendShape current count labels = .ok estimate) :
    estimate.encodedPayloadBytes =
      count * canonicalEntryFixedBytes + labels + current.elim canonicalPayloadFixedBytes (·.plaintextLength) := by
  simp only [PlaintextAllocationEstimate.forAppendShape, bind_eq_ok, invalid_eq_ok] at h
  obtain ⟨_, -, _, -, _, -, _, -, _, -, payload, hp, e, he, hs⟩ := h
  have hsum : payload = count * canonicalEntryFixedBytes + labels +
      current.elim canonicalPayloadFixedBytes (·.plaintextLength) := by
    obtain ⟨a, ha, hp⟩ := Option.bind_eq_some_iff.mp hp
    obtain ⟨b, hb, hp⟩ := Option.bind_eq_some_iff.mp hp
    rw [checkedMul_eq_some] at ha
    rw [checkedAdd_eq_some] at hb hp
    omega
  have hencoded := encoded_fromPayloadShape he
  cases current with
  | none =>
    cases hs
    rw [hencoded, hsum]
  | some header =>
    simp only [bind_eq_ok, PlaintextAllocationEstimate.withSource, pure_eq_ok] at hs
    obtain ⟨_, -, _, -, rfl⟩ := hs
    rw [← hsum, ← hencoded]

lemma fits_append {found : Option EnrollmentRecord} {nonce : GcmNonce}
    (hi : i.map (·.header) = found.map (headerOf · .aeadCached backend.keyEpoch nonce))
    (h : appendEstimate backend i entries = .ok estimate)
    (hm : record.recognizerModelSha256 = backend.recognizerModel)
    (he : record.entries = found.elim [] (·.entries) ++ entries) : Fits backend record := by
  simp only [appendEstimate, bind_eq_ok, invalid_eq_ok, failIf_eq_ok, pure_eq_ok, not_or] at h
  obtain ⟨labels, hlabels, e, hshape, _, ⟨hcount, hpayload⟩, rfl⟩ := h
  have hencoded := encoded_forAppendShape hshape
  have hsum := foldlM_label_bytes hlabels
  have hcurrent : i.elim 0 (·.header.entryCount.toNat) = (found.elim [] (·.entries)).length ∧
      (i.map (·.header)).elim canonicalPayloadFixedBytes (·.plaintextLength) =
        canonicalPayloadFixedBytes + ((found.elim [] (·.entries)).flatMap encodeEntry).length := by
    cases i with
    | none =>
      cases found with
      | none => exact ⟨rfl, rfl⟩
      | some r => cases hi
    | some i =>
      cases found with
      | none => cases hi
      | some r =>
        simp only [Option.map_some, Option.some.injEq] at hi
        rw [Option.elim_some, Option.map_some, hi]
        exact ⟨entryCount_toNat r.length_entries, length_payloadBytes r.entries⟩
  refine ⟨hm, ?_, ?_⟩
  · rw [he, List.length_append]
    omega
  · rw [length_payloadBytes, he, List.flatMap_append, List.length_append]
    omega

lemma fits_sublist {smaller : EnrollmentRecord} (h : Fits backend record)
    (hm : smaller.recognizerModelSha256 = backend.recognizerModel)
    (hs : smaller.entries.Sublist record.entries) : Fits backend smaller := by
  refine ⟨hm, hs.length_le.trans h.entries_le, ?_⟩
  have hp := h.payload_le
  have hl := (hs.flatMap encodeEntry).length_le
  rw [length_payloadBytes] at hp ⊢
  omega

end Howy.Storage.Mode1
