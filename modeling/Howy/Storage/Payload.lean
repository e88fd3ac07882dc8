import Howy.Storage.ByteReader

/-! The canonical enrollment payload: its encoder, its decoder, and which byte strings it accepts. -/

namespace Howy.Storage

open Library

def payloadVersion : UInt16 := 1

def u32TryFrom (n : ℕ) (e : StorageError) : Except StorageError UInt32 :=
  if n < 2 ^ 32 then .ok (UInt32.ofNat n) else .error e

@[simp] lemma u32TryFrom_eq_ok {n : ℕ} {e : StorageError} {v : UInt32} : u32TryFrom n e = .ok v ↔ v.toNat = n := by
  unfold u32TryFrom
  constructor
  · intro h
    split at h
    next hn =>
      cases h
      exact UInt32.toNat_ofNat_of_lt' hn
    · cases h
  · rintro rfl
    rw [if_pos v.toNat_lt, UInt32.ofNat_toNat]

def encodeEntry (e : EnrollmentEntry) : Bytes :=
  e.enrollmentId.bytes.val ++ (leBytes 8 e.createdUnixSeconds.toNat ++
    (leBytes 2 (utf8Bytes e.label).length ++ (leBytes 2 0 ++
      (utf8Bytes e.label ++ e.embedding.val.flatMap leU32))))

def payloadLengthLoop : ℕ → List EnrollmentEntry → Except StorageError ℕ
  | length, [] => pure length
  | length, e :: es => do
    failIf (maxLabelBytes < (utf8Bytes e.label).length) (.limitExceeded "label")
    failIf (e.embedding.val.any (fun value => !isFinite value) = true) .nonFiniteEmbedding
    let length ← okOr ((checkedAdd length canonicalEntryFixedBytes).bind
      fun length => checkedAdd length (utf8Bytes e.label).length)
      (.integerOverflow "canonical payload length")
    payloadLengthLoop length es

def encodeCanonicalPayload (record : EnrollmentRecord) : Except StorageError Bytes := do
  let entryCount ← u32TryFrom record.entries.length (.limitExceeded "entry count")
  let payloadLength ← payloadLengthLoop canonicalPayloadFixedBytes record.entries
  failIf (maxPlaintextBytes < payloadLength) (.limitExceeded "canonical plaintext")
  pure (leBytes 2 payloadVersion.toNat ++ (leBytes 2 0 ++ (leBytes 4 entryCount.toNat ++
    record.entries.flatMap encodeEntry)))

/-- A zeroed `[f32; 512]` overwritten from its front by the decoded words. -/
def embeddingFromBytes (bytes : Bytes) : FixedArray UInt32 embeddingDimension :=
  ⟨(leWords bytes ++ List.replicate embeddingDimension 0).take embeddingDimension, by simp⟩

def decodeEntry (entries : List EnrollmentEntry) : Reader EnrollmentEntry := do
  let idBytes ← readArray "canonical payload" 16
  let enrollmentId ← liftM (EnrollmentId.new idBytes)
  failIf (enrollmentId ∈ entries.map EnrollmentEntry.enrollmentId) .duplicateEnrollmentId
  let createdUnixSeconds ← readU64 "canonical payload"
  let labelLength ← readU16 "canonical payload"
  failIf (maxLabelBytes < labelLength.toNat) (.limitExceeded "label")
  let reserved ← readU16 "canonical payload"
  failIf (reserved ≠ 0) (.invalidReserved "canonical payload entry")
  let labelBytes ← take "canonical payload" labelLength.toNat
  let label ← liftM (okOr (fromUtf8 labelBytes) .invalidLabelUtf8)
  let embeddingBytes ← take "canonical payload" (embeddingDimension * 4)
  liftM (EnrollmentEntry.newZeroizingFields enrollmentId createdUnixSeconds label
    (embeddingFromBytes embeddingBytes))

def decodeEntries : ℕ → List EnrollmentEntry → Reader (List EnrollmentEntry)
  | 0, entries => pure entries
  | n + 1, entries => do
    let entry ← decodeEntry entries
    decodeEntries n (entries ++ [entry])

def payloadReader (expectedEntryCount : Option UInt32) : Reader (List EnrollmentEntry) := do
  let version ← readU16 "canonical payload"
  failIf (version ≠ payloadVersion) (.unsupportedVersion "canonical payload" version)
  let reserved ← readU16 "canonical payload"
  failIf (reserved ≠ 0) (.invalidReserved "canonical payload")
  let entryCount ← readU32 "canonical payload"
  failIf (expectedEntryCount.any (fun expected => expected != entryCount) = true)
    .entryCountMismatch
  failIf (maxEntries < entryCount.toNat) (.limitExceeded "entry count")
  let minimumEntriesLength ← liftM (okOr (checkedMul entryCount.toNat canonicalEntryFixedBytes)
    (.integerOverflow "payload entry lengths"))
  let left ← remaining
  failIf (left < minimumEntriesLength) (.invalidLength "canonical payload")
  let entries ← decodeEntries entryCount.toNat []
  finish "canonical payload"
  pure entries

def decodePayloadWithExpectedCount (bytes : Bytes) (expectedEntryCount : Option UInt32) :
    Except StorageError (List EnrollmentEntry) := do
  failIf (maxPlaintextBytes < bytes.length) (.limitExceeded "canonical plaintext")
  let (entries, _) ← (payloadReader expectedEntryCount).run bytes
  pure entries

lemma embeddingFromBytes_flatMap {x : FixedArray UInt32 embeddingDimension} :
    embeddingFromBytes (x.val.flatMap leU32) = x := by
  apply Subtype.ext
  change (leWords (x.val.flatMap leU32) ++ _).take embeddingDimension = x.val
  rw [leWords_flatMap]
  exact List.take_left' x.property

lemma flatMap_embeddingFromBytes {bytes : Bytes} (h : bytes.length = embeddingDimension * 4) :
    (embeddingFromBytes bytes).val.flatMap leU32 = bytes := by
  change ((leWords bytes ++ _).take embeddingDimension).flatMap leU32 = bytes
  rw [List.take_left' (length_leWords h), flatMap_leWords h]

variable {entries : List EnrollmentEntry} {s t : Bytes}

lemma accepts_decodeEntry {e : EnrollmentEntry} :
    Accepts (decodeEntry entries) s e t ↔
      s = encodeEntry e ++ t ∧ e.enrollmentId ∉ entries.map EnrollmentEntry.enrollmentId := by
  simp only [decodeEntry, accepts_bind, accepts_readArray, accepts_liftM, EnrollmentId.new_eq_ok,
    accepts_failIf, accepts_readU64, accepts_readU16, accepts_take, okOr_eq_ok,
    fromUtf8_eq_some, EnrollmentEntry.newZeroizingFields_eq_ok]
  constructor
  · rintro ⟨idBytes, _, rfl, id, _, ⟨rfl, rfl⟩, ⟨⟩, _, ⟨hid, rfl⟩, created, _, rfl, len, _, rfl, ⟨⟩, _,
      ⟨-, rfl⟩, reserved, _, rfl, ⟨⟩, _, ⟨hr, rfl⟩, labelBytes, _, ⟨rfl, hlen⟩, label, _, ⟨rfl, rfl⟩,
      embeddingBytes, _, ⟨rfl, hemb⟩, ⟨rfl, rfl, rfl, he⟩, rfl⟩
    refine ⟨?_, hid⟩
    rw [not_not] at hr
    rw [encodeEntry, he, flatMap_embeddingFromBytes hemb, hlen, hr]
    simp only [List.append_assoc]
    rfl
  · rintro ⟨rfl, hid⟩
    have hle := e.label_le
    have hlen : (UInt16.ofNat (utf8Bytes e.label).length).toNat = (utf8Bytes e.label).length := by
      apply UInt16.toNat_ofNat_of_lt'
      exact lt_of_le_of_lt hle (by decide)
    simp only [encodeEntry, List.append_assoc]
    refine ⟨_, _, rfl, e.enrollmentId, _, ⟨rfl, rfl⟩, ⟨⟩, _, ⟨hid, rfl⟩, e.createdUnixSeconds, _, rfl,
      UInt16.ofNat (utf8Bytes e.label).length, _, by rw [hlen]; rfl, ⟨⟩, _, ⟨by rw [hlen]; omega, rfl⟩,
      0, _, rfl, ⟨⟩, _, ⟨by simp, rfl⟩, utf8Bytes e.label, _, ⟨rfl, hlen.symm⟩, e.label, _, ⟨rfl, rfl⟩,
      _, _, ⟨rfl, ?_⟩, ⟨rfl, rfl, rfl, embeddingFromBytes_flatMap.symm⟩, rfl⟩
    rw [length_flatMap_leU32, e.embedding.property]

lemma length_encodeEntry (e : EnrollmentEntry) :
    (encodeEntry e).length = canonicalEntryFixedBytes + (utf8Bytes e.label).length := by
  simp only [encodeEntry, List.length_append, length_leBytes, length_flatMap_leU32,
    e.enrollmentId.bytes.property, e.embedding.property, canonicalEntryFixedBytes]
  omega

variable {es : List EnrollmentEntry} {expected : Option UInt32}

lemma accepts_decodeEntries {n : ℕ} (h : (entries.map EnrollmentEntry.enrollmentId).Nodup) :
    Accepts (decodeEntries n entries) s es t ↔
      ∃ tail, es = entries ++ tail ∧ tail.length = n ∧ s = tail.flatMap encodeEntry ++ t ∧
        (es.map EnrollmentEntry.enrollmentId).Nodup := by
  induction n generalizing entries s with
  | zero =>
    simp only [decodeEntries, accepts_pure, List.length_eq_zero_iff]
    constructor
    · rintro ⟨rfl, rfl⟩
      exact ⟨[], by simp, rfl, rfl, h⟩
    · rintro ⟨_, rfl, rfl, rfl, -⟩
      exact ⟨by simp, rfl⟩
  | succ n ih =>
    simp only [decodeEntries, accepts_bind, accepts_decodeEntry]
    constructor
    · rintro ⟨e, u, ⟨rfl, hid⟩, he⟩
      have hnd : ((entries ++ [e]).map EnrollmentEntry.enrollmentId).Nodup := by
        rw [List.map_append]
        exact (List.perm_append_singleton _ _).nodup_iff.mpr (List.nodup_cons.mpr ⟨hid, h⟩)
      obtain ⟨tail, rfl, hl, rfl, hes⟩ := (ih hnd).mp he
      refine ⟨e :: tail, by simp, by simp [hl], ?_, hes⟩
      rw [List.flatMap_cons, List.append_assoc]
    · rintro ⟨tail, rfl, hl, rfl, hes⟩
      obtain ⟨e, tail, rfl⟩ := List.exists_cons_of_length_eq_add_one hl
      have hsplit : entries ++ e :: tail = (entries ++ [e]) ++ tail := by simp
      have hnd : ((entries ++ [e]).map EnrollmentEntry.enrollmentId).Nodup := by
        rw [hsplit, List.map_append] at hes
        exact (List.nodup_append.mp hes).1
      have hid : e.enrollmentId ∉ entries.map EnrollmentEntry.enrollmentId := by
        rw [List.map_append] at hnd
        exact (List.nodup_cons.mp ((List.perm_append_singleton _ _).nodup_iff.mp hnd)).1
      refine ⟨e, tail.flatMap encodeEntry ++ t, ⟨?_, hid⟩, (ih hnd).mpr ⟨tail, hsplit, ?_, rfl, hes⟩⟩
      · rw [List.flatMap_cons, List.append_assoc]
      · simpa using hl

def payloadBytes (entries : List EnrollmentEntry) : Bytes :=
  leBytes 2 payloadVersion.toNat ++ (leBytes 2 0 ++ (leBytes 4 entries.length ++
    entries.flatMap encodeEntry))

lemma length_flatMap_encodeEntry_le (entries : List EnrollmentEntry) :
    entries.length * canonicalEntryFixedBytes ≤ (entries.flatMap encodeEntry).length ∧
      (entries.flatMap encodeEntry).length ≤ entries.length * (canonicalEntryFixedBytes + maxLabelBytes) := by
  induction entries with
  | nil => simp
  | cons e es ih =>
    have hl := e.label_le
    rw [List.flatMap_cons, List.length_append, length_encodeEntry, List.length_cons, Nat.add_mul, Nat.add_mul]
    omega

lemma length_payloadBytes (entries : List EnrollmentEntry) :
    (payloadBytes entries).length = canonicalPayloadFixedBytes + (entries.flatMap encodeEntry).length := by
  simp only [payloadBytes, List.length_append, length_leBytes, canonicalPayloadFixedBytes]
  omega

lemma length_payloadBytes_le (h : entries.length ≤ maxEntries) :
    (payloadBytes entries).length ≤ maxPlaintextBytes := by
  have hl := (length_flatMap_encodeEntry_le entries).2
  have hm := Nat.mul_le_mul_right (canonicalEntryFixedBytes + maxLabelBytes) h
  rw [length_payloadBytes]
  calc _ ≤ canonicalPayloadFixedBytes + maxEntries * (canonicalEntryFixedBytes + maxLabelBytes) := by omega
    _ ≤ maxPlaintextBytes := by decide

lemma payloadLengthLoop_eq {length : ℕ} (h : length + (entries.flatMap encodeEntry).length < 2 ^ 64) :
    payloadLengthLoop length entries = .ok (length + (entries.flatMap encodeEntry).length) := by
  induction entries generalizing length with
  | nil => rfl
  | cons e es ih =>
    rw [List.flatMap_cons, List.length_append, length_encodeEntry] at h ⊢
    have hfinite : ¬ e.embedding.val.any (fun value => !isFinite value) := by
      have hf := e.finite
      simp only [List.all_eq_true, List.any_eq_true, not_exists, not_and] at hf ⊢
      intro x hx
      simp [hf x hx]
    have hadd : (checkedAdd length canonicalEntryFixedBytes).bind
        (fun length => checkedAdd length (utf8Bytes e.label).length) =
          some (length + canonicalEntryFixedBytes + (utf8Bytes e.label).length) := by
      simp only [Option.bind_eq_some_iff, checkedAdd_eq_some]
      exact ⟨_, ⟨by omega, rfl⟩, by omega, rfl⟩
    have hlabel := Nat.not_lt.mpr e.label_le
    simp only [payloadLengthLoop, bind_eq_ok, failIf_eq_ok, okOr_eq_ok]
    refine ⟨⟨⟩, hlabel, ⟨⟩, hfinite, _, hadd, ?_⟩
    rw [ih (by omega), Nat.add_assoc, Nat.add_assoc, ← Nat.add_assoc canonicalEntryFixedBytes]

lemma encodeCanonicalPayload_eq (record : EnrollmentRecord) :
    encodeCanonicalPayload record = .ok (payloadBytes record.entries) := by
  have hle := length_payloadBytes_le record.length_entries
  have hcount : (UInt32.ofNat record.entries.length).toNat = record.entries.length := by
    have hm : maxEntries < 2 ^ 32 := by decide
    exact UInt32.toNat_ofNat_of_lt' (lt_of_le_of_lt record.length_entries hm)
  have hmax : maxPlaintextBytes < 2 ^ 64 := by decide
  have hloop := @payloadLengthLoop_eq record.entries canonicalPayloadFixedBytes
    (by rw [← length_payloadBytes]; omega)
  rw [← length_payloadBytes] at hloop
  simp only [encodeCanonicalPayload, bind_eq_ok, u32TryFrom_eq_ok, failIf_eq_ok, pure_eq_ok]
  refine ⟨_, hcount, _, hloop, ⟨⟩, Nat.not_lt.mpr hle, ?_⟩
  rw [hcount, payloadBytes]

lemma accepts_payloadReader : Accepts (payloadReader expected) s es t ↔
      s = payloadBytes es ∧ t = [] ∧ es.length ≤ maxEntries ∧
        (es.map EnrollmentEntry.enrollmentId).Nodup ∧ ∀ c ∈ expected, c.toNat = es.length := by
  have hnil : (([] : List EnrollmentEntry).map EnrollmentEntry.enrollmentId).Nodup := List.nodup_nil
  simp only [payloadReader, accepts_bind, accepts_readU16, accepts_failIf, accepts_readU32, accepts_liftM,
    okOr_eq_ok, checkedMul_eq_some, accepts_remaining, accepts_decodeEntries hnil, accepts_finish,
    accepts_pure, List.nil_append]
  constructor
  · rintro ⟨version, _, rfl, ⟨⟩, _, ⟨hversion, rfl⟩, reserved, _, rfl, ⟨⟩, _, ⟨hreserved, rfl⟩, count, _,
      rfl, ⟨⟩, _, ⟨hcount, rfl⟩, ⟨⟩, _, ⟨hmax, rfl⟩, _, _, ⟨-, rfl⟩, _, _, ⟨-, rfl⟩, ⟨⟩, _, ⟨-, rfl⟩, _, _,
      ⟨_, rfl, hl, rfl, hnd⟩, ⟨⟩, _, ⟨rfl, rfl⟩, rfl, rfl⟩
    rw [not_not] at hversion hreserved
    subst hversion hreserved
    refine ⟨?_, rfl, by omega, hnd, ?_⟩
    · rw [payloadBytes, hl, List.append_nil]
      rfl
    intro c hc
    rw [Option.mem_def.mp hc] at hcount
    rw [Option.any_some, bne_iff_ne, not_not] at hcount
    rw [hcount, hl]
  · rintro ⟨rfl, rfl, hl, hnd, hc⟩
    have hm : maxEntries < 2 ^ 32 := by decide
    have hcount := UInt32.toNat_ofNat_of_lt' (lt_of_le_of_lt hl hm)
    have hmin := (length_flatMap_encodeEntry_le es).1
    have hmul : es.length * canonicalEntryFixedBytes < 2 ^ 64 := by
      have := Nat.mul_le_mul_right canonicalEntryFixedBytes hl
      have hb : maxEntries * canonicalEntryFixedBytes < 2 ^ 64 := by decide
      omega
    refine ⟨payloadVersion, _, rfl, ⟨⟩, _, ⟨by simp, rfl⟩, 0, _, rfl, ⟨⟩, _, ⟨by simp, rfl⟩,
      UInt32.ofNat es.length, es.flatMap encodeEntry, by rw [hcount], ⟨⟩, _, ⟨?_, rfl⟩, ⟨⟩, _,
      ⟨by rw [hcount]; omega, rfl⟩, _, _, ⟨⟨by rw [hcount]; exact hmul, rfl⟩, rfl⟩, _, _, ⟨rfl, rfl⟩, ⟨⟩, _,
      ⟨by rw [hcount]; omega, rfl⟩, es, [], ⟨es, rfl, hcount.symm, by simp, hnd⟩, ⟨⟩, _, ⟨rfl, rfl⟩, rfl, rfl⟩
    cases expected with
    | none => simp
    | some c =>
      have he : c = UInt32.ofNat es.length := by rw [← hc c rfl, UInt32.ofNat_toNat]
      simp [he]

lemma decodePayloadWithExpectedCount_eq_ok {bytes : Bytes} :
    decodePayloadWithExpectedCount bytes expected = .ok es ↔
      bytes = payloadBytes es ∧ es.length ≤ maxEntries ∧
        (es.map EnrollmentEntry.enrollmentId).Nodup ∧ ∀ c ∈ expected, c.toNat = es.length := by
  simp only [decodePayloadWithExpectedCount, bind_eq_ok, failIf_eq_ok, pure_eq_ok, Prod.exists]
  constructor
  · rintro ⟨⟨⟩, -, _, _, hr, rfl⟩
    obtain ⟨hb, -, hrest⟩ := accepts_payloadReader.mp hr
    exact ⟨hb, hrest⟩
  · rintro ⟨rfl, hl, hrest⟩
    refine ⟨⟨⟩, Nat.not_lt.mpr (length_payloadBytes_le hl), es, [], ?_, rfl⟩
    exact accepts_payloadReader.mpr ⟨rfl, rfl, hl, hrest⟩

end Howy.Storage
