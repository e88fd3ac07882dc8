import Howy.Storage.Mode1Records
import Howy.Storage.Plaintext

namespace Howy.Storage

open Library Howypln1 Howyenc1Exact PlaintextAllocationEstimate

section

variable (entries : List EnrollmentEntry)

def labelBytes : ℕ := (entries.map fun e => (utf8Bytes e.label).length).sum

def flatBytes (count labels : ℕ) : ℕ := 2080 * count + labels

/-- `cold_load_peak_bytes`: the staging buffer next to the decoded record, or that record next to its model. -/
def coldBytes (count labels : ℕ) : ℕ := max (4164 * count + 2 * labels + 24) (4168 * count + 2 * labels)

@[simp] lemma labelBytes_nil : labelBytes [] = 0 := rfl

@[simp] lemma labelBytes_cons (e : EnrollmentEntry) (es : List EnrollmentEntry) :
    labelBytes (e :: es) = (utf8Bytes e.label).length + labelBytes es := by
  rw [labelBytes, List.map_cons, List.sum_cons, labelBytes]

lemma labelBytes_le : labelBytes entries ≤ 256 * entries.length := by
  induction entries with
  | nil => simp
  | cons e es ih =>
    have hl : (utf8Bytes e.label).length ≤ 256 := e.label_le
    rw [labelBytes_cons, List.length_cons]
    omega

lemma length_flatMap_encodeEntry :
    (entries.flatMap encodeEntry).length = 2076 * entries.length + labelBytes entries := by
  induction entries with
  | nil => simp
  | cons e es ih =>
    have hf : canonicalEntryFixedBytes = 2076 := by decide
    rw [List.flatMap_cons, List.length_append, length_encodeEntry, ih, labelBytes_cons, List.length_cons]
    omega

lemma length_payloadBytes_eq : (payloadBytes entries).length = 8 + 2076 * entries.length + labelBytes entries := by
  have hf : canonicalPayloadFixedBytes = 8 := rfl
  rw [length_payloadBytes, length_flatMap_encodeEntry, hf, Nat.add_assoc]

end

lemma length_encodeHowypln1 {record : EnrollmentRecord} {bytes : Bytes} (h : encodeHowypln1 record = .ok bytes) :
    bytes.length = 62 + record.username.bytes.length + 2076 * record.entries.length + labelBytes
    record.entries := by
  have hm : howypln1Magic.length = 8 := by decide
  rw [encodeHowypln1_eq, Except.ok.injEq] at h
  rw [← h, List.length_append, length_payloadBytes_eq]
  simp only [Howypln1.headerBytes, List.length_append, length_leBytes, record.recognizerModelSha256.property]
  omega

lemma foldlM_labelBytes (entries : List EnrollmentEntry) (start : ℕ) (h : start + labelBytes entries < 2 ^ 64) :
    entries.foldlM (fun total e => checkedAdd total (utf8Bytes e.label).length) start =
      some (start + labelBytes entries) := by
  induction entries generalizing start with
  | nil => rfl
  | cons e es ih =>
    rw [labelBytes_cons] at h ⊢
    have hstep : checkedAdd start (utf8Bytes e.label).length = some (start + (utf8Bytes e.label).length) :=
      checkedAdd_eq_some.mpr ⟨by omega, rfl⟩
    rw [List.foldlM_cons, hstep, Option.bind_eq_bind, Option.bind_some, ih _ (by omega), Nat.add_assoc]

lemma authModelAllocationBytes_eq {count labels : ℕ} (hc : count ≤ 1000) (hl : labels ≤ 2621440) :
    authModelAllocationBytes count labels = .ok (flatBytes count labels) := by
  have hd : embeddingDimension = 512 := rfl
  have hi : enrollmentIdSize = 16 := rfl
  have ho : labelOwnerSize = 16 := rfl
  rw [authModelAllocationBytes, invalid_eq_ok]
  simp only [Option.bind_eq_bind, Option.bind_eq_some_iff, checkedMul_eq_some, checkedAdd_eq_some, hd, hi, ho]
  refine ⟨_, ⟨by omega, rfl⟩, _, ⟨by omega, rfl⟩, _, ⟨by omega, rfl⟩, _, ⟨by omega, rfl⟩, _, ⟨by omega, rfl⟩, _,
    ⟨by omega, rfl⟩, by omega, ?_⟩
  rw [flatBytes]
  omega

lemma length_flatMap_embedding (entries : List EnrollmentEntry) :
    (entries.flatMap (·.embedding.val)).length = entries.length * embeddingDimension := by
  induction entries with
  | nil => simp
  | cons e es ih =>
    rw [List.flatMap_cons, List.length_append, ih, e.embedding.property, List.length_cons, Nat.succ_mul,
      Nat.add_comm]

lemma exists_fromRecord (record : EnrollmentRecord) : ∃ model, AuthModel.fromRecord record = .ok model ∧
      model.plaintextBytes = flatBytes record.entries.length (labelBytes record.entries) := by
  have hd : embeddingDimension = 512 := rfl
  have hn : record.entries.length ≤ 1000 := record.length_entries
  have hl := labelBytes_le record.entries
  have hfold := foldlM_labelBytes record.entries 0 (by omega)
  have hfinite : (record.entries.flatMap (·.embedding.val)).any (fun value => !isFinite value) = false := by
    simp only [List.any_eq_false, List.mem_flatMap, Bool.not_eq_true', Bool.not_eq_false]
    rintro value ⟨e, -, hv⟩
    exact List.all_eq_true.mp e.finite value hv
  have hlabels : (record.entries.map (·.label)).any
      (fun label => decide (maxLabelBytes < (utf8Bytes label).length)) = false := by
    simp only [List.any_eq_false, List.mem_map, decide_eq_true_eq, Nat.not_lt]
    rintro label ⟨e, -, rfl⟩
    exact e.label_le
  refine ⟨⟨record.generation, record.recognizerModelSha256, embeddingDimension,
    record.entries.map (·.enrollmentId), record.entries.map (·.label), record.entries.flatMap (·.embedding.val),
    flatBytes record.entries.length (labelBytes record.entries)⟩, ?_, rfl⟩
  simp only [AuthModel.fromRecord, AuthModel.newExact, bind_eq_ok, failIf_eq_ok, invalid_eq_ok, pure_eq_ok,
    checkedMul_eq_some, hfinite, hlabels, List.length_map, length_flatMap_embedding, List.foldlM_map, hd]
  refine ⟨_, ⟨by omega, rfl⟩, (), record.generation_ne_zero, (), by simp, (), by simp, (), by
    rw [Nat.not_lt]; exact record.length_entries, _, ⟨by omega, rfl⟩, (), by simp, (), by simp,
      (), by simp, (), ?_,
    0 + labelBytes record.entries, hfold, flatBytes record.entries.length (labelBytes record.entries), ?_, rfl⟩
  · rw [not_not]
    exact record.nodup_ids
  · rw [Nat.zero_add]
    exact authModelAllocationBytes_eq hn (by omega)

def shapeEstimate (count labels : ℕ) : PlaintextAllocationEstimate where
  encodedPayloadBytes := 8 + 2076 * count + labels
  aeadStagingBytes := 8 + 2076 * count + labels + 16
  sourceDecodedRecordBytes := 0
  decodedRecordBytes := count * 2088 + labels
  flatAuthModelBytes := flatBytes count labels
  coldLoadPeakBytes := coldBytes count labels
  mutationPeakBytes := 8320 * count + 4 * labels + 32
  peakBytes := 8320 * count + 4 * labels + 32

lemma fromPayloadShape_eq {count labels : ℕ} (hc : count ≤ 1000) (hp : 8 + 2076 * count + labels ≤ 2621440) :
    fromPayloadShape (8 + 2076 * count + labels) count = .ok (shapeEstimate count labels) := by
  have hf : canonicalEntryFixedBytes = 2076 := rfl
  have h8 : canonicalPayloadFixedBytes = 8 := rfl
  have hs : enrollmentEntrySize = 2088 := rfl
  have hg : gcmTagBytes = 16 := rfl
  have hm : maxPlaintextBytes = 2621440 := rfl
  have he : maxEntries = 1000 := rfl
  have hlabels : labels ≤ 2621440 := by omega
  have hflat := authModelAllocationBytes_eq hc hlabels
  have hsub : 8 + 2076 * count + labels - (count * 2076 + 8) = labels := by omega
  have hfb : flatBytes count labels = 2080 * count + labels := rfl
  simp only [fromPayloadShape, bind_eq_ok, failIf_eq_ok, invalid_eq_ok, pure_eq_ok,
    Option.bind_eq_bind, Option.bind_eq_some_iff, checkedMul_eq_some, checkedAdd_eq_some, hf, h8, hs, hg, hm, he]
  refine ⟨(), by omega, (), by omega, count * 2076 + 8, ⟨_, ⟨by omega, rfl⟩, by omega, rfl⟩, (), by omega, ?_⟩
  rw [hsub]
  refine ⟨count * 2088 + labels, ⟨_, ⟨by omega, rfl⟩, by omega, rfl⟩, _, hflat, _, ⟨by omega, rfl⟩, _,
    ⟨by omega, rfl⟩, _, ⟨by omega, rfl⟩, 8320 * count + 4 * labels + 32,
    ⟨_, ⟨by omega, rfl⟩, _, ⟨by omega, rfl⟩, by omega, by omega⟩, ?_⟩
  congr 1
  congr 1 <;> omega

lemma forEncryptedHeader_eq (record : EnrollmentRecord) (mode : StorageMode) (epoch : UInt64) (nonce : GcmNonce) :
    forEncryptedHeader (headerOf record mode epoch nonce) =
      .ok (shapeEstimate record.entries.length (labelBytes record.entries)) := by
  have hle := length_payloadBytes_le record.length_entries
  have hm : maxPlaintextBytes = 2621440 := rfl
  rw [length_payloadBytes_eq] at hle
  rw [forEncryptedHeader, headerOf, entryCount_toNat record.length_entries, length_payloadBytes_eq]
  exact fromPayloadShape_eq record.length_entries hle

def entriesOf (found : Option EnrollmentRecord) : List EnrollmentEntry := found.elim [] (·.entries)

section

variable (found : Option EnrollmentRecord)

lemma elim_entryCount (mode : StorageMode) (epoch : UInt64) (nonce : GcmNonce) :
    (found.map (headerOf · mode epoch nonce)).elim 0 (·.entryCount.toNat) = (entriesOf found).length := by
  cases found with
  | none => rfl
  | some record => exact entryCount_toNat record.length_entries

lemma elim_plaintextLength (mode : StorageMode) (epoch : UInt64) (nonce : GcmNonce) :
    (found.map (headerOf · mode epoch nonce)).elim canonicalPayloadFixedBytes (·.plaintextLength) =
      8 + 2076 * (entriesOf found).length + labelBytes (entriesOf found) := by
  cases found with
  | none => rfl
  | some record => exact length_payloadBytes_eq record.entries

def appendPeakBytes (entries : List EnrollmentEntry) (n labels : ℕ) : ℕ :=
  8320 * (entries.length + n) + 4 * (labelBytes entries + labels) + 32 +
    (entries.length * 2088 + labelBytes entries)

def appendEstimateOf (entries : List EnrollmentEntry) (n labels : ℕ) : PlaintextAllocationEstimate :=
  { shapeEstimate (entries.length + n) (labelBytes entries + labels) with
    sourceDecodedRecordBytes := entries.length * 2088 + labelBytes entries
    mutationPeakBytes := appendPeakBytes entries n labels
    peakBytes := appendPeakBytes entries n labels }

lemma withSource_eq {estimate : PlaintextAllocationEstimate} {source : ℕ}
    (h : estimate.mutationPeakBytes + source < 2 ^ 64) : estimate.withSource source = .ok { estimate with
      sourceDecodedRecordBytes := source
      mutationPeakBytes := estimate.mutationPeakBytes + source
      peakBytes := estimate.mutationPeakBytes + source } := by
  simp only [withSource, bind_eq_ok, invalid_eq_ok, checkedAdd_eq_some]
  exact ⟨_, ⟨h, rfl⟩, rfl⟩

lemma forAppendShape_eq (mode : StorageMode) (epoch : UInt64) (nonce : GcmNonce)
    {n labels : ℕ} (hn : n ≠ 0) (hl : labels ≤ n * 256) (hc : (entriesOf found).length + n ≤ 1000)
    (hp : 8 + 2076 * ((entriesOf found).length + n) + (labelBytes (entriesOf found) + labels) ≤ 2621440) :
    forAppendShape (found.map (headerOf · mode epoch nonce)) n labels =
      .ok (appendEstimateOf (entriesOf found) n labels) := by
  have hf : canonicalEntryFixedBytes = 2076 := rfl
  have hm : maxEntries = 1000 := rfl
  have hlab : maxLabelBytes = 256 := rfl
  have hshape := fromPayloadShape_eq hc hp
  have hsum : n * 2076 + labels + (8 + 2076 * (entriesOf found).length + labelBytes (entriesOf found)) =
      8 + 2076 * ((entriesOf found).length + n) + (labelBytes (entriesOf found) + labels) := by omega
  simp only [forAppendShape, bind_eq_ok, failIf_eq_ok, invalid_eq_ok, checkedMul_eq_some,
    checkedAdd_eq_some, Option.bind_eq_bind, Option.bind_eq_some_iff, hf, hm, hlab, elim_entryCount,
    elim_plaintextLength]
  refine ⟨(), by omega, _, ⟨by omega, rfl⟩, (), by omega, _, ⟨by omega, rfl⟩, (), by omega, _,
    ⟨_, ⟨by omega, rfl⟩, _, ⟨by omega, rfl⟩, by omega, rfl⟩, _, hsum ▸ hshape, ?_⟩
  cases found with
  | none => rfl
  | some record =>
    rw [Option.map_some]
    simp only [forEncryptedHeader_eq]
    refine withSource_eq ?_
    simp only [shapeEstimate, entriesOf, Option.elim_some] at hp hc ⊢
    omega

end

section

variable (maxEntries maxBytes overhead : ℕ)

def mostEntries : ℕ := min maxEntries ((maxBytes - overhead) / 2076)

def mostLabels : ℕ :=
  min (256 * mostEntries maxEntries maxBytes overhead)
    (maxBytes - overhead - 2076 * mostEntries maxEntries maxBytes overhead)

lemma mostEntries_mul_le : 2076 * mostEntries maxEntries maxBytes overhead ≤ maxBytes - overhead := by
  rw [mostEntries]
  omega

lemma mostLabels_le :
    mostLabels maxEntries maxBytes overhead ≤ 256 * mostEntries maxEntries maxBytes overhead := Nat.min_le_left _ _

end

lemma forPlaintextLimits_eq {maxEntries maxBytes : ℕ} (he : maxEntries ≤ 1000) (h8 : 8 ≤ maxBytes)
    (hb : maxBytes ≤ 2621440) : forPlaintextLimits maxBytes maxEntries =
      .ok (shapeEstimate (mostEntries maxEntries maxBytes 8)
        (maxBytes - 8 - 2076 * mostEntries maxEntries maxBytes 8)) := by
  have hfit := mostEntries_mul_le maxEntries maxBytes 8
  have hmost : mostEntries maxEntries maxBytes 8 ≤ 1000 := (Nat.min_le_left _ _).trans he
  have hsplit : 8 + 2076 * mostEntries maxEntries maxBytes 8 +
      (maxBytes - 8 - 2076 * mostEntries maxEntries maxBytes 8) = maxBytes := by omega
  have hshape := fromPayloadShape_eq hmost (hsplit.trans_le hb)
  have hlimits : ¬ (maxPlaintextBytes < maxBytes ∨ Storage.maxEntries < maxEntries) := by
    have h₁ : maxPlaintextBytes = 2621440 := rfl
    have h₂ : Storage.maxEntries = 1000 := rfl
    omega
  rw [hsplit] at hshape
  simp only [forPlaintextLimits, bind_eq_ok, failIf_eq_ok]
  exact ⟨(), hlimits, hshape⟩

variable {maxEntries maxBytes overhead count labels : ℕ}

lemma le_mostEntries (hc : count ≤ maxEntries) (hb : overhead + 2076 * count + labels ≤ maxBytes) :
    count ≤ mostEntries maxEntries maxBytes overhead := by
  refine Nat.le_min.mpr ⟨hc, (Nat.le_div_iff_mul_le (by decide)).mpr ?_⟩
  omega

lemma flatBytes_le_most (hc : count ≤ maxEntries) (hl : labels ≤ 256 * count)
    (hb : overhead + 2076 * count + labels ≤ maxBytes) : flatBytes count labels ≤
      flatBytes (mostEntries maxEntries maxBytes overhead) (mostLabels maxEntries maxBytes overhead) := by
  have hm := le_mostEntries hc hb
  rw [flatBytes, flatBytes, mostLabels]
  omega

lemma coldBytes_le_most (hc : count ≤ maxEntries) (hl : labels ≤ 256 * count)
    (hb : overhead + 2076 * count + labels ≤ maxBytes) : coldBytes count labels ≤
      coldBytes (mostEntries maxEntries maxBytes overhead) (mostLabels maxEntries maxBytes overhead) := by
  have hm := le_mostEntries hc hb
  rw [coldBytes, coldBytes, mostLabels]
  omega

lemma most_fits (h : overhead ≤ maxBytes) :
    overhead + 2076 * mostEntries maxEntries maxBytes overhead + mostLabels maxEntries maxBytes
    overhead ≤ maxBytes := by
  have hmul := mostEntries_mul_le maxEntries maxBytes overhead
  rw [mostLabels]
  omega

end Howy.Storage
