import Howy.Storage.Shapes

namespace Howy.Storage.Footprints

open Library Howyenc1Exact PlaintextAllocationEstimate

/-- The plaintext owners of a record: its entries, its model, its canonical payload and the sealing buffer. -/
structure Footprint where
  decoded : ℕ
  model : ℕ
  payload : ℕ
  staging : ℕ
deriving DecidableEq

def footprint (record : EnrollmentRecord) : BackendResult Footprint := do
  let model ← authModelAllocationBytes record.entries.length (labelBytes record.entries)
  let payload ← (encodeCanonicalPayload record).mapError fun _ => .corrupt
  pure {
    decoded := record.entries.length * enrollmentEntrySize + labelBytes record.entries
    model
    payload := payload.length
    staging := payload.length + gcmTagBytes }

namespace Footprint

def coldLoadPeak (f : Footprint) : ℕ := max (f.staging + f.decoded) (f.decoded + f.model)

def mutationPeak (f : Footprint) : ℕ := f.decoded + f.model + f.payload + f.staging

end Footprint

def footprintOf (count labels : ℕ) : Footprint :=
  ⟨count * 2088 + labels, flatBytes count labels, 8 + 2076 * count + labels, 8 + 2076 * count + labels + 16⟩

variable {record appended removed : EnrollmentRecord} {new : List EnrollmentEntry} {f f₂ : Footprint}

section

variable (record : EnrollmentRecord)

lemma footprint_eq : footprint record = .ok (footprintOf record.entries.length (labelBytes record.entries)) := by
  have hlen : record.entries.length ≤ 1000 := record.length_entries
  have hl := labelBytes_le record.entries
  have hmodel := @authModelAllocationBytes_eq _ (labelBytes record.entries) hlen (by omega)
  simp only [footprint, hmodel, encodeCanonicalPayload_eq, ok_bind, Except.mapError, length_payloadBytes_eq]
  rfl

lemma payload_fits : 8 + 2076 * record.entries.length + labelBytes record.entries ≤ 2621440 := by
  have hlen : record.entries.length ≤ 1000 := record.length_entries
  have hl := labelBytes_le record.entries
  omega

lemma labelBytes_append (a b : List EnrollmentEntry) : labelBytes (a ++ b) = labelBytes a + labelBytes b := by
  simp [labelBytes]

lemma labelBytes_eraseIdx_le (entries : List EnrollmentEntry) (i : ℕ) :
    labelBytes (entries.eraseIdx i) ≤ labelBytes entries :=
  (((List.eraseIdx_sublist entries i).map _).sum_le_sum fun _ _ => Nat.zero_le _)

lemma forRecord_eq : forRecord record = .ok (shapeEstimate record.entries.length (labelBytes record.entries)) := by
  have hlen : record.entries.length ≤ 1000 := record.length_entries
  have hl := labelBytes_le record.entries
  have h8 : canonicalPayloadFixedBytes = 8 := rfl
  have hf : canonicalEntryFixedBytes = 2076 := rfl
  have hshape := fromPayloadShape_eq hlen (payload_fits record)
  simp only [forRecord, bind_eq_ok, failIf_eq_ok, invalid_eq_ok, Option.bind_eq_some_iff, checkedMul_eq_some,
    checkedAdd_eq_some, foldlM_labelBytes record.entries 0 (by omega), h8, hf, Nat.zero_add]
  exact ⟨(), by omega, _, rfl, _, ⟨by omega, rfl⟩, _, ⟨_, ⟨by omega, rfl⟩, by omega, rfl⟩,
    by rwa [Nat.mul_comm record.entries.length]⟩

def HeaderOf (h : EncryptedHeader) : Prop :=
  ∃ gcm mode epoch key nonce bytes, encodeHowyenc1WithNonce gcm record mode epoch key nonce = .ok bytes ∧
    inspectHowyenc1 bytes = .ok h

end

lemma HeaderOf.eq {h : EncryptedHeader} (hh : HeaderOf record h) :
    ∃ mode epoch nonce, h = headerOf record mode epoch nonce := by
  obtain ⟨gcm, mode, epoch, key, nonce, bytes, hb, hi⟩ := hh
  rw [inspectHowyenc1_encoded hb, Except.ok.injEq] at hi
  exact ⟨mode, epoch, nonce, hi.symm⟩

theorem estimates_cover_footprints :
    (∀ record, ∃ f payload, footprint record = .ok f ∧ encodeCanonicalPayload record = .ok payload ∧
      forRecord record = forPayloadShape payload.length record.entries.length) ∧
    (∀ record h appended new f f₂, HeaderOf record h → new ≠ [] → appended.entries = record.entries ++ new →
      footprint record = .ok f → footprint appended = .ok f₂ →
      ∃ e, forAppendShape (some h) new.length (labelBytes new) = .ok e ∧
        e.decodedRecordBytes = f₂.decoded ∧ e.flatAuthModelBytes = f₂.model ∧ e.encodedPayloadBytes = f₂.payload ∧
        e.aeadStagingBytes = f₂.staging ∧ e.mutationPeakBytes = f.decoded + f₂.mutationPeak) ∧
    (∀ record h removed i f f₂, HeaderOf record h → removed.entries = record.entries.eraseIdx i →
      footprint record = .ok f → footprint removed = .ok f₂ →
      ∃ e, forReplacementOfEncryptedHeader h = .ok e ∧ f.decoded + f₂.mutationPeak ≤ e.mutationPeakBytes) ∧
    ∀ record f maxBytes maxEntries, footprint record = .ok f → f.payload ≤ maxBytes →
      record.entries.length ≤ maxEntries →
      (forPlaintextLimits maxBytes maxEntries = .error (.invalidInput "plaintext limits") ∧
        (maxPlaintextBytes < maxBytes ∨ Storage.maxEntries < maxEntries)) ∨
        ∃ e, forPlaintextLimits maxBytes maxEntries = .ok e ∧ f.coldLoadPeak ≤ e.coldLoadPeakBytes ∧
          f.mutationPeak ≤ e.mutationPeakBytes := by
  refine ⟨fun record => ?_, ?_, ?_, ?_⟩
  · refine ⟨_, _, footprint_eq record, encodeCanonicalPayload_eq record, ?_⟩
    have hlen : record.entries.length ≤ 1000 := record.length_entries
    rw [forRecord_eq, forPayloadShape, length_payloadBytes_eq, eq_comm]
    simp only [bind_eq_ok, failIf_eq_ok]
    exact ⟨(), by omega, fromPayloadShape_eq hlen (payload_fits record)⟩
  · intro record h appended new f f₂ hh hnew happ hf hf₂
    obtain ⟨mode, epoch, nonce, rfl⟩ := hh.eq
    rw [footprint_eq, Except.ok.injEq] at hf hf₂
    subst hf hf₂
    have hlen := appended.length_entries
    have hfits := payload_fits appended
    have hl := labelBytes_le new
    rw [happ, List.length_append, labelBytes_append] at hfits
    rw [happ, List.length_append] at hlen
    refine ⟨_, forAppendShape_eq (some record) mode epoch nonce (by simpa using hnew) (by omega) hlen hfits, ?_⟩
    simp only [happ, List.length_append, labelBytes_append]
    refine ⟨rfl, rfl, rfl, rfl, ?_⟩
    simp only [appendEstimateOf, appendPeakBytes, footprintOf, Footprint.mutationPeak, flatBytes, entriesOf,
      Option.elim_some]
    omega
  · intro record h removed i f f₂ hh hrem hf hf₂
    obtain ⟨mode, epoch, nonce, rfl⟩ := hh.eq
    rw [footprint_eq, Except.ok.injEq] at hf hf₂
    subst hf hf₂
    have hfits := payload_fits record
    have hlabels := labelBytes_eraseIdx_le record.entries i
    have hlength := (List.eraseIdx_sublist record.entries i).length_le
    rw [← hrem] at hlabels hlength
    refine ⟨_, bind_eq_ok.mpr ⟨_, forEncryptedHeader_eq record mode epoch nonce, withSource_eq ?_⟩, ?_⟩
    · simp only [shapeEstimate]
      omega
    · simp only [shapeEstimate, footprintOf, Footprint.mutationPeak, flatBytes]
      omega
  · intro record f maxBytes maxEntries hf hpayload hcount
    rw [footprint_eq, Except.ok.injEq] at hf
    subst hf
    by_cases hlimits : maxPlaintextBytes < maxBytes ∨ Storage.maxEntries < maxEntries
    · refine .inl ⟨?_, hlimits⟩
      rw [forPlaintextLimits, failIf, if_pos hlimits]
      rfl
    have h₁ : maxPlaintextBytes = 2621440 := rfl
    have h₂ : Storage.maxEntries = 1000 := rfl
    simp only [footprintOf] at hpayload
    have hmost := le_mostEntries hcount hpayload
    refine .inr ⟨_, forPlaintextLimits_eq (by omega) (by omega) (by omega), ?_, ?_⟩
    · simp only [shapeEstimate, coldBytes, footprintOf, Footprint.coldLoadPeak, flatBytes]
      omega
    · simp only [shapeEstimate, footprintOf, Footprint.mutationPeak, flatBytes]
      omega

theorem estimates_cover_footprints_alice :
    ∃ h, HeaderOf aliceRecord h ∧
      (∃ e, forAppendShape (some h) 1 3 = .ok e ∧ e.encodedPayloadBytes = 4170 ∧ e.mutationPeakBytes = 18807) ∧
      ∃ e, forReplacementOfEncryptedHeader h = .ok e ∧ 2127 ≤ e.mutationPeakBytes := by
  let key : Aes256Key := .filled 32 5
  let h := headerOf aliceRecord .aeadCached 1 (.filled 12 9)
  let hat := zeroEntry 2 hat
  let appended : EnrollmentRecord :=
    ⟨2, .filled 32 7, alice, aliceRecord.entries ++ [hat], by decide, by decide, by decide +kernel⟩
  let removed : EnrollmentRecord := ⟨2, .filled 32 7, alice, [], by decide, by decide, by decide⟩
  have hb : encodeHowyenc1WithNonce copyCipher aliceRecord .aeadCached 1 key (.filled 12 9) =
      .ok (sealedBytes copyCipher h key (payloadBytes aliceRecord.entries)) :=
    encodeHowyenc1WithNonce_eq_ok.mpr ⟨by decide, rfl⟩
  have hh : HeaderOf aliceRecord h := ⟨_, _, _, _, _, _, hb, inspectHowyenc1_encoded hb⟩
  have hl : labelBytes [hat] = 3 := by decide
  have hf := footprint_eq aliceRecord
  have hf₂ : footprint appended = .ok (footprintOf 2 10) := footprint_eq appended
  have hf₃ : footprint removed = .ok (footprintOf 0 0) := footprint_eq removed
  obtain ⟨-, happend, hremove, -⟩ := estimates_cover_footprints
  obtain ⟨e, he, -, -, hpayload, -, hpeak⟩ := happend aliceRecord h appended [hat] _ _ hh (by simp) rfl hf hf₂
  obtain ⟨e', he', hpeak'⟩ := hremove aliceRecord h removed 0 _ _ hh rfl hf hf₃
  exact ⟨h, hh, ⟨e, he, hpayload, hpeak⟩, e', he', hpeak'⟩

end Howy.Storage.Footprints
