import Howy.Storage.Howyenc1Header

namespace Howy.Storage.Howyenc1Exact

open Library

def headerOf (record : EnrollmentRecord) (mode : StorageMode) (keyEpoch : UInt64) (nonce : GcmNonce) :
    EncryptedHeader where
  mode := mode
  keyEpoch := keyEpoch
  recordGeneration := record.generation
  plaintextLength := (payloadBytes record.entries).length
  entryCount := UInt32.ofNat record.entries.length
  recognizerModelSha256 := record.recognizerModelSha256
  nonce := nonce
  username := record.username
  headerLength := howyenc1FixedHeader + record.username.bytes.length

def sealedBytes (gcm : Aes256Gcm) (h : EncryptedHeader) (key : Aes256Key) (payload : Bytes) : Bytes :=
  bytesOf h ++ ((gcm.encrypt key h.nonce (bytesOf h) payload).1 ++
    (gcm.encrypt key h.nonce (bytesOf h) payload).2.val)

lemma entryCount_toNat {entries : List EnrollmentEntry} (h : entries.length ≤ maxEntries) :
    (UInt32.ofNat entries.length).toNat = entries.length := by
  have hm : maxEntries < 2 ^ 32 := by decide
  exact UInt32.toNat_ofNat_of_lt' (lt_of_le_of_lt h hm)

variable {a b bytes c : Bytes} {n : ℕ} {keyEpoch : UInt64} {h : EncryptedHeader} {nonce : GcmNonce}

lemma headerOf_wellFormed (record : EnrollmentRecord) (mode : StorageMode)
    (nonce : GcmNonce) (h : keyEpoch ≠ 0) : WellFormed (headerOf record mode keyEpoch nonce) where
  keyEpoch_ne_zero := h
  recordGeneration_ne_zero := record.generation_ne_zero
  plaintextLength_le := length_payloadBytes_le record.length_entries
  entryCount_le := by
    rw [headerOf, entryCount_toNat record.length_entries]
    exact record.length_entries
  headerLength_eq := rfl
  entries_fit := by
    rw [headerOf, entryCount_toNat record.length_entries, length_payloadBytes]
    exact Nat.add_le_add_left (length_flatMap_encodeEntry_le record.entries).1 _

variable {gcm : Aes256Gcm} {record : EnrollmentRecord} {mode : StorageMode} {key : Aes256Key}

lemma encodeHowyenc1WithNonce_eq_ok : encodeHowyenc1WithNonce gcm record mode keyEpoch key nonce = .ok bytes ↔
      keyEpoch ≠ 0 ∧
        bytes = sealedBytes gcm (headerOf record mode keyEpoch nonce) key (payloadBytes record.entries) := by
  have hle := length_payloadBytes_le record.length_entries
  have hm : maxPlaintextBytes < 2 ^ 32 := by decide
  have hu := record.username.length_bytes.2
  have hf : howyenc1FixedHeader = 88 := rfl
  have hg : gcmTagBytes = 16 := rfl
  have hp : (UInt32.ofNat (payloadBytes record.entries).length).toNat = (payloadBytes record.entries).length :=
    UInt32.toNat_ofNat_of_lt' (lt_of_le_of_lt hle hm)
  have hc := entryCount_toNat record.length_entries
  simp only [encodeHowyenc1WithNonce, bind_eq_ok, failIf_eq_ok, encodeCanonicalPayload_eq, Except.ok.injEq,
    u32TryFrom_eq_ok, okOr_eq_ok, checkedAdd_eq_some, Option.bind_eq_some_iff, pure_eq_ok, gcm.length_encrypt]
  constructor
  · rintro ⟨⟨⟩, he, _, rfl, length, hl, count, hcount, _, ⟨-, rfl⟩, ⟨⟩, -, _, -, rfl⟩
    have hce : count = UInt32.ofNat record.entries.length := by rw [← hcount, UInt32.ofNat_toNat]
    refine ⟨he, ?_⟩
    rw [hl, hce]
    rfl
  · rintro ⟨he, rfl⟩
    refine ⟨⟨⟩, he, _, rfl, _, hp, _, hc, _, ⟨by omega, rfl⟩, ⟨⟩, by omega, _,
      ⟨_, ⟨by omega, rfl⟩, by omega, rfl⟩, ?_⟩
    rw [hp]
    rfl

lemma inspectHowyenc1_encoded (h : encodeHowyenc1WithNonce gcm record mode keyEpoch key nonce = .ok bytes) :
    inspectHowyenc1 bytes = .ok (headerOf record mode keyEpoch nonce) := by
  obtain ⟨hepoch, rfl⟩ := encodeHowyenc1WithNonce_eq_ok.mp h
  refine inspectHowyenc1_eq_ok.mpr ⟨_, rfl, headerOf_wellFormed record mode nonce hepoch, ?_⟩
  rw [List.length_append, gcm.length_encrypt, (gcm.encrypt _ _ _ _).2.property]
  rfl

lemma getRange_append_left (h : a.length = n) : getRange (a ++ b) 0 n = some a := by
  subst h
  simp [getRange]

lemma getRange_append_middle {m : ℕ} (hn : a.length = n) (hm : n + b.length = m) :
    getRange (a ++ (b ++ c)) n m = some b := by
  subst hn hm
  rw [getRange]
  simp [List.take_append]

lemma getRange_append_right {m : ℕ} (h : a.length = n) (hm : (a ++ b).length = m) :
    getRange (a ++ b) n m = some b := by
  subst h hm
  rw [getRange, if_pos (by simp), List.take_length, List.drop_left]

lemma gcmTagTryFrom_eq_some {tag : GcmTag} : gcmTagTryFrom bytes = some tag ↔ tag.val = bytes := by
  rcases tag with ⟨t, ht⟩
  unfold gcmTagTryFrom
  constructor
  · intro h
    split at h
    · cases h
      rfl
    · cases h
  · rintro rfl
    rw [dif_pos ht]

lemma length_bytesOf (hw : WellFormed h) : (bytesOf h).length = h.headerLength := by
  rw [bytesOf, length_headerBytes, hw.headerLength_eq]

lemma getRange_parts (hw : WellFormed h) {t : Bytes} (hc : c.length = h.plaintextLength) :
    getRange (bytesOf h ++ (c ++ t)) h.headerLength (h.headerLength + h.plaintextLength) = some c ∧
      getRange (bytesOf h ++ (c ++ t)) (h.headerLength + h.plaintextLength)
      (bytesOf h ++ (c ++ t)).length = some t ∧
      getRange (bytesOf h ++ (c ++ t)) 0 h.headerLength = some (bytesOf h) := by
  have hl := length_bytesOf hw
  refine ⟨getRange_append_middle hl (by rw [hc]), ?_, getRange_append_left hl⟩
  rw [← List.append_assoc]
  exact getRange_append_right (by rw [List.length_append, hl, hc]) rfl

lemma decodeHowyenc1_eq_ok {username : CanonicalUsername} {model : ModelDigest} :
    decodeHowyenc1 gcm bytes key mode keyEpoch username model = .ok record ↔
      record.username = username ∧ record.recognizerModelSha256 = model ∧
        ∃ nonce, encodeHowyenc1WithNonce gcm record mode keyEpoch key nonce = .ok bytes := by
  simp only [decodeHowyenc1, bind_eq_ok, inspectHowyenc1_eq_ok, failIf_eq_ok, not_not, okOr_eq_ok,
    checkedAdd_eq_some, gcmTagTryFrom_eq_some, decodePayloadWithExpectedCount_eq_ok, EnrollmentRecord.new_eq_ok,
    encodeHowyenc1WithNonce_eq_ok]
  constructor
  · rintro ⟨h, ⟨body, rfl, hw, hbody⟩, ⟨⟩, rfl, ⟨⟩, rfl, ⟨⟩, rfl, ⟨⟩, rfl, _, ⟨-, rfl⟩, ciphertext, hciphertext,
      tagBytes, htag, tag, rfl, aad, haad, payload, hpayload, ⟨⟩, hlen, entries, ⟨rfl, -, -, hcount⟩,
      hgeneration, hmodel, husername, rfl⟩
    obtain ⟨c, t, rfl, hc⟩ : ∃ c t, body = c ++ t ∧ c.length = h.plaintextLength :=
      ⟨_, _, (List.take_append_drop h.plaintextLength body).symm, List.length_take_of_le (by omega)⟩
    obtain ⟨hpc, hpt, hpa⟩ := getRange_parts hw hc
    rw [hpc, Option.some.injEq] at hciphertext
    rw [hpt, Option.some.injEq] at htag
    rw [hpa, Option.some.injEq] at haad
    subst hciphertext htag haad
    have hseal := gcm.encrypt_eq_of_decrypt hpayload
    have hheader : headerOf record h.mode h.keyEpoch h.nonce = h := by
      have hcount' := hcount _ rfl
      have hl := hw.headerLength_eq
      obtain ⟨mode, keyEpoch, generation, plaintextLength, count, model, nonce, username, headerLength⟩ := h
      simp only at hgeneration hmodel husername hlen hcount' hl
      simp [headerOf, hgeneration, hmodel, husername, hlen, ← hcount', hl]
    refine ⟨husername, hmodel, h.nonce, hw.keyEpoch_ne_zero, ?_⟩
    rw [sealedBytes, hheader, hseal]
  · rintro ⟨rfl, rfl, nonce, he, rfl⟩
    have hw := headerOf_wellFormed record mode nonce he
    have hlen := gcm.length_encrypt key nonce (bytesOf (headerOf record mode keyEpoch nonce))
      (payloadBytes record.entries)
    obtain ⟨hpc, hpt, hpa⟩ := getRange_parts hw (c := (gcm.encrypt key nonce _ _).1)
      hlen
    have hle := hw.plaintextLength_le
    have hh := hw.headerLength_eq
    have hu := record.username.length_bytes.2
    refine ⟨headerOf record mode keyEpoch nonce, ⟨_, rfl, hw, ?_⟩, ⟨⟩, rfl, ⟨⟩, rfl, ⟨⟩, rfl,
      ⟨⟩, rfl, _, ⟨?_, rfl⟩, _, hpc, _, hpt, _, rfl, _, hpa, payloadBytes record.entries,
      gcm.decrypt_encrypt _ _ _ _, ⟨⟩, rfl, record.entries,
      ⟨rfl, record.length_entries, record.nodup_ids, ?_⟩, rfl, rfl, rfl, rfl⟩
    · rw [List.length_append, (gcm.encrypt key _ _ _).2.property]
      exact congrArg (· + 16) hlen
    · have hm : maxPlaintextBytes < 2 ^ 32 := by decide
      have hf : howyenc1FixedHeader = 88 := rfl
      simp only [headerOf] at hle hh ⊢
      omega
    · rintro _ ⟨⟩
      exact entryCount_toNat record.length_entries

def nonceField (bytes : Bytes) : Bytes := (bytes.drop 76).take 12

lemma drop_append_add (k : ℕ) (h : a.length = n) : (a ++ b).drop (n + k) = b.drop k := by
  rw [List.drop_append, List.drop_eq_nil_of_le (by omega), List.nil_append, h, Nat.add_sub_cancel_left]

lemma nonceField_sealedBytes (gcm : Aes256Gcm) (h : EncryptedHeader) (key : Aes256Key) (payload : Bytes) :
    nonceField (sealedBytes gcm h key payload) = h.nonce.val := by
  have hm : howyenc1Magic.length = 8 := rfl
  rw [nonceField, sealedBytes]
  simp only [bytesOf, headerBytes, List.append_assoc, List.cons_append]
  rw [drop_append_add 68 hm, drop_append_add 66 (length_leBytes 2 _), drop_append_add 64 (length_leBytes 2 _),
    List.drop_succ_cons, List.drop_succ_cons, drop_append_add 60 (length_leBytes 2 _),
    drop_append_add 52 (length_leBytes 8 _), drop_append_add 44 (length_leBytes 8 _),
    drop_append_add 40 (length_leBytes 4 _), drop_append_add 36 (length_leBytes 4 _),
    drop_append_add 34 (length_leBytes 2 _), drop_append_add 32 (length_leBytes 2 _),
    drop_append_add 0 h.recognizerModelSha256.property]
  exact List.take_left' h.nonce.property

theorem howyenc1_encode_decode_inverse (gcm : Aes256Gcm) :
    (∀ (record : EnrollmentRecord) (mode : StorageMode) (keyEpoch : UInt64) (key : Aes256Key) (nonce : GcmNonce),
      1 ≤ keyEpoch → ∃ bytes, encodeHowyenc1WithNonce gcm record mode keyEpoch key nonce = .ok bytes ∧
        decodeHowyenc1 gcm bytes key mode keyEpoch record.username record.recognizerModelSha256 = .ok record) ∧
    (∀ (bytes : Bytes) (key : Aes256Key) (mode : StorageMode) (keyEpoch : UInt64) (username : CanonicalUsername)
      (model : ModelDigest) (record : EnrollmentRecord),
      decodeHowyenc1 gcm bytes key mode keyEpoch username model = .ok record →
        record.username = username ∧ record.recognizerModelSha256 = model ∧
          ∃ nonce : GcmNonce, nonce.val = nonceField bytes ∧
            encodeHowyenc1WithNonce gcm record mode keyEpoch key nonce = .ok bytes) ∧
    (∀ (bytes bytes' : Bytes) (key : Aes256Key) (mode : StorageMode) (keyEpoch : UInt64)
      (username : CanonicalUsername) (model : ModelDigest) (record : EnrollmentRecord),
      decodeHowyenc1 gcm bytes key mode keyEpoch username model = .ok record →
        decodeHowyenc1 gcm bytes' key mode keyEpoch username model = .ok record →
          nonceField bytes = nonceField bytes' → bytes = bytes') := by
  have hnonce : ∀ {record mode keyEpoch key nonce bytes},
      encodeHowyenc1WithNonce gcm record mode keyEpoch key nonce = .ok bytes → nonce.val = nonceField bytes := by
    intro record mode keyEpoch key nonce bytes h
    rw [(encodeHowyenc1WithNonce_eq_ok.mp h).2, nonceField_sealedBytes]
    rfl
  refine ⟨?_, ?_, ?_⟩
  · intro record mode keyEpoch key nonce hepoch
    have he : keyEpoch ≠ 0 := by
      rintro rfl
      exact absurd hepoch (by decide)
    have hb : encodeHowyenc1WithNonce gcm record mode keyEpoch key nonce =
        .ok (sealedBytes gcm (headerOf record mode keyEpoch nonce) key (payloadBytes record.entries)) :=
      encodeHowyenc1WithNonce_eq_ok.mpr ⟨he, rfl⟩
    exact ⟨_, hb, decodeHowyenc1_eq_ok.mpr ⟨rfl, rfl, nonce, hb⟩⟩
  · intro bytes key mode keyEpoch username model record h
    obtain ⟨husername, hmodel, nonce, hb⟩ := decodeHowyenc1_eq_ok.mp h
    exact ⟨husername, hmodel, nonce, hnonce hb, hb⟩
  · intro bytes bytes' key mode keyEpoch username model record h h' hn
    obtain ⟨-, -, nonce, hb⟩ := decodeHowyenc1_eq_ok.mp h
    obtain ⟨-, -, nonce', hb'⟩ := decodeHowyenc1_eq_ok.mp h'
    have hne : nonce = nonce' := Subtype.ext (by rw [hnonce hb, hnonce hb', hn])
    rw [hne, hb'] at hb
    exact (Except.ok.inj hb).symm

def copyCipher : Aes256Gcm where
  encrypt _ _ _ plaintext := (plaintext, .filled 16 0)
  decrypt _ _ _ ciphertext tag := if tag = .filled 16 0 then some ciphertext else none
  decrypt_encrypt _ _ _ _ := if_pos rfl
  encrypt_of_decrypt _ _ _ ciphertext tag plaintext h := by
    split at h
    · rename_i ht
      exact ⟨ciphertext, by rw [ht]⟩
    · cases h
  length_encrypt _ _ _ _ := rfl

def numberedId (k : ℕ) : EnrollmentId where
  bytes := ⟨leBytes 15 k ++ [1], by rw [List.length_append, length_leBytes]; rfl⟩
  nonzero := by
    intro h
    have hlast := congrArg (fun b : FixedArray UInt8 16 => b.val.getLast?) h
    simp only [List.getLast?_append, List.getLast?_singleton, Option.some_or] at hlast
    exact absurd hlast (by decide)

abbrev Label := { label : String // (utf8Bytes label).length ≤ maxLabelBytes }

def glasses : Label := ⟨"glasses", by decide⟩

def hat : Label := ⟨"hat", by decide⟩

def zeroEntry (k : ℕ) (label : Label) : EnrollmentEntry where
  enrollmentId := numberedId k
  createdUnixSeconds := 0
  label := label.val
  embedding := .filled embeddingDimension 0
  label_le := label.property
  finite := List.all_replicate.trans (by decide)

def alice : CanonicalUsername := ⟨"alice", by decide⟩

def aliceRecord : EnrollmentRecord where
  generation := 1
  recognizerModelSha256 := .filled 32 7
  username := alice
  entries := [zeroEntry 1 glasses]
  generation_ne_zero := by decide
  length_entries := by decide
  nodup_ids := List.pairwise_singleton _ _

theorem howyenc1_encode_decode_inverse_alice :
    ∃ bytes, encodeHowyenc1WithNonce copyCipher aliceRecord .aeadCached 1 (.filled 32 5)
        (.filled 12 9) = .ok bytes ∧
      decodeHowyenc1 copyCipher bytes (.filled 32 5) .aeadCached 1 alice (.filled 32 7) =
        .ok aliceRecord :=
  (howyenc1_encode_decode_inverse copyCipher).1 aliceRecord .aeadCached 1 (.filled 32 5)
    (.filled 12 9) (by decide)

end Howy.Storage.Howyenc1Exact
