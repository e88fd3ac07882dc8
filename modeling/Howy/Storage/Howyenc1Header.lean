import Howy.Storage.Howyenc1

namespace Howy.Storage

open Library

structure WellFormed (h : EncryptedHeader) : Prop where
  keyEpoch_ne_zero : h.keyEpoch ≠ 0
  recordGeneration_ne_zero : h.recordGeneration ≠ 0
  plaintextLength_le : h.plaintextLength ≤ maxPlaintextBytes
  entryCount_le : h.entryCount.toNat ≤ maxEntries
  headerLength_eq : h.headerLength = howyenc1FixedHeader + h.username.bytes.length
  entries_fit : canonicalPayloadFixedBytes + h.entryCount.toNat * canonicalEntryFixedBytes ≤ h.plaintextLength

def bytesOf (h : EncryptedHeader) : Bytes :=
  headerBytes h.mode h.headerLength h.keyEpoch h.recordGeneration h.plaintextLength h.entryCount
    h.recognizerModelSha256 h.nonce h.username

lemma length_headerBytes (mode : StorageMode) (n : ℕ) (epoch generation : UInt64) (length : ℕ)
    (count : UInt32) (model : ModelDigest) (nonce : GcmNonce) (username : CanonicalUsername) :
    (headerBytes mode n epoch generation length count model nonce username).length =
      howyenc1FixedHeader + username.bytes.length := by
  have hm : howyenc1Magic.length = 8 := rfl
  simp only [headerBytes, List.length_append, List.length_cons, length_leBytes, model.property, nonce.property,
    hm, howyenc1FixedHeader]
  omega

lemma accepts_readIdentification {s t : Bytes} {mode : StorageMode} : Accepts readIdentification s mode t ↔
      s = howyenc1Magic ++ (leBytes 2 formatVersion.toNat ++ (leBytes 2 aes256GcmAlgorithm.toNat ++
        (mode.identifier :: 0 :: t))) := by
  simp only [readIdentification, accepts_bind, accepts_take, accepts_failIf, accepts_readU16, accepts_readU8,
    accepts_liftM, StorageMode.tryFrom_eq_ok, accepts_pure]
  constructor
  · rintro ⟨magic, _, ⟨rfl, -⟩, ⟨⟩, _, ⟨hmagic, rfl⟩, version, _, rfl, ⟨⟩, _, ⟨hversion, rfl⟩, algorithm, _,
      rfl, ⟨⟩, _, ⟨halgorithm, rfl⟩, _, _, rfl, mode, _, ⟨rfl, rfl⟩, flags, _, rfl, ⟨⟩, _, ⟨hflags, rfl⟩,
      rfl, rfl⟩
    rw [not_not] at hmagic hversion halgorithm hflags
    rw [hmagic, hversion, halgorithm, hflags]
  · rintro rfl
    exact ⟨_, _, ⟨rfl, rfl⟩, ⟨⟩, _, ⟨by simp, rfl⟩, _, _, rfl, ⟨⟩, _, ⟨by simp, rfl⟩, _, _, rfl, ⟨⟩, _,
      ⟨by simp, rfl⟩, _, _, rfl, mode, _, ⟨rfl, rfl⟩, _, _, rfl, ⟨⟩, _, ⟨by simp, rfl⟩, rfl, rfl⟩

structure NumbersBounded (n : HeaderNumbers) : Prop where
  headerLength_lt : n.headerLength < 2 ^ 16
  keyEpoch_ne_zero : n.keyEpoch ≠ 0
  recordGeneration_ne_zero : n.recordGeneration ≠ 0
  plaintextLength_le : n.plaintextLength ≤ maxPlaintextBytes
  entryCount_le : n.entryCount.toNat ≤ maxEntries
  usernameLength_pos : 1 ≤ n.usernameLength
  usernameLength_le : n.usernameLength ≤ 64

lemma accepts_readNumbers {s t : Bytes} {n : HeaderNumbers} : Accepts readNumbers s n t ↔
      s = leBytes 2 n.headerLength ++ (leBytes 8 n.keyEpoch.toNat ++ (leBytes 8 n.recordGeneration.toNat ++
        (leBytes 4 n.plaintextLength ++ (leBytes 4 n.entryCount.toNat ++ (leBytes 2 embeddingDimension ++
          (leBytes 2 n.usernameLength ++ t)))))) ∧ NumbersBounded n := by
  constructor
  · simp only [readNumbers, accepts_bind, accepts_failIf, accepts_readU16, accepts_readU64, accepts_readU32,
      accepts_pure]
    rintro ⟨headerLength, _, rfl, epoch, _, rfl, ⟨⟩, _, ⟨hepoch, rfl⟩, generation, _, rfl, ⟨⟩, _,
      ⟨hgeneration, rfl⟩, plaintextLength, _, rfl, ⟨⟩, _, ⟨hplaintext, rfl⟩, count, _, rfl, ⟨⟩, _, ⟨hcount, rfl⟩,
      dimension, _, rfl, ⟨⟩, _, ⟨hdimension, rfl⟩, usernameLength, _, rfl, ⟨⟩, _, ⟨husername, rfl⟩, rfl, rfl⟩
    rw [not_not] at hdimension husername
    exact ⟨by rw [hdimension], headerLength.toNat_lt, hepoch, hgeneration, Nat.le_of_not_lt hplaintext,
      Nat.le_of_not_lt hcount, husername.1, husername.2⟩
  · rintro ⟨rfl, hn⟩
    have hl : (UInt16.ofNat n.headerLength).toNat = n.headerLength := UInt16.toNat_ofNat_of_lt' hn.headerLength_lt
    have hp : (UInt32.ofNat n.plaintextLength).toNat = n.plaintextLength :=
      UInt32.toNat_ofNat_of_lt' (hn.plaintextLength_le.trans_lt (by decide))
    have hd : (UInt16.ofNat embeddingDimension).toNat = embeddingDimension := rfl
    have hu : (UInt16.ofNat n.usernameLength).toNat = n.usernameLength :=
      UInt16.toNat_ofNat_of_lt' (hn.usernameLength_le.trans_lt (by decide))
    -- one line for each field of the header, with the check that follows its read
    refine .bind (a := UInt16.ofNat n.headerLength) (accepts_readU16.mpr (by rw [hl])) ?_
    refine .bind (accepts_readU64.mpr rfl) (.check hn.keyEpoch_ne_zero ?_)
    refine .bind (accepts_readU64.mpr rfl) (.check hn.recordGeneration_ne_zero ?_)
    refine .bind (a := UInt32.ofNat n.plaintextLength) (accepts_readU32.mpr (by rw [hp])) (.check ?_ ?_)
    · rw [hp]
      exact hn.plaintextLength_le.not_gt
    refine .bind (accepts_readU32.mpr rfl) (.check hn.entryCount_le.not_gt ?_)
    refine .bind (a := UInt16.ofNat embeddingDimension) (accepts_readU16.mpr rfl) (.check (not_not.mpr hd) ?_)
    refine .bind (a := UInt16.ofNat n.usernameLength) (accepts_readU16.mpr (by rw [hu])) (.check ?_ ?_)
    · rw [hu]
      exact not_not.mpr ⟨hn.usernameLength_pos, hn.usernameLength_le⟩
    rw [accepts_pure, hl, hp, hu]
    exact ⟨rfl, rfl⟩

lemma checkLengths_eq_ok {n : HeaderNumbers} {total : ℕ} {u : Unit} (hn : NumbersBounded n) :
    checkLengths n total = .ok u ↔
      n.headerLength = howyenc1FixedHeader + n.usernameLength ∧
        total = n.headerLength + n.plaintextLength + gcmTagBytes ∧
        canonicalPayloadFixedBytes + n.entryCount.toNat * canonicalEntryFixedBytes ≤ n.plaintextLength := by
  simp only [checkLengths, bind_eq_ok, okOr_eq_ok, checkedAdd_eq_some, checkedMul_eq_some, failIf_eq_ok,
    Option.bind_eq_some_iff]
  constructor
  · rintro ⟨_, ⟨-, rfl⟩, ⟨⟩, hheader, _, ⟨_, ⟨-, rfl⟩, -, rfl⟩, ⟨⟩, htotal, _, ⟨-, rfl⟩, _, ⟨-, rfl⟩, hmin⟩
    rw [not_not] at hheader htotal
    exact ⟨hheader, htotal, Nat.le_of_not_lt hmin⟩
  rintro ⟨hheader, htotal, hmin⟩
  have h1 := hn.headerLength_lt
  have h2 := hn.plaintextLength_le
  have hm : maxPlaintextBytes < 2 ^ 32 := by decide
  have ht : gcmTagBytes = 16 := rfl
  refine ⟨_, ⟨by omega, rfl⟩, ⟨⟩, not_not.mpr hheader, _, ⟨_, ⟨by omega, rfl⟩, by omega, rfl⟩, ⟨⟩,
    not_not.mpr htotal, _, ⟨by omega, rfl⟩, _, ⟨by omega, rfl⟩, by omega⟩

lemma accepts_howyenc1HeaderReader {total : ℕ} {s t : Bytes} {h : EncryptedHeader} :
    Accepts (howyenc1HeaderReader total) s h t ↔
      s = bytesOf h ++ t ∧ WellFormed h ∧ total = h.headerLength + h.plaintextLength + gcmTagBytes := by
  simp only [howyenc1HeaderReader, accepts_bind, accepts_readIdentification, accepts_readNumbers,
    accepts_readArray, accepts_liftM, accepts_take, okOr_eq_ok, fromUtf8_eq_some, CanonicalUsername.new_eq_ok,
    accepts_pure]
  constructor
  · rintro ⟨mode, _, rfl, n, _, ⟨rfl, hn⟩, model, _, rfl, nonce, _, rfl, ⟨⟩, _, ⟨hc, rfl⟩, usernameBytes, _,
      ⟨rfl, hlen⟩, name, _, ⟨rfl, rfl⟩, username, _, ⟨rfl, rfl⟩, rfl, rfl⟩
    obtain ⟨hheader, htotal, hmin⟩ := (checkLengths_eq_ok hn).mp hc
    refine ⟨?_, ⟨hn.keyEpoch_ne_zero, hn.recordGeneration_ne_zero, hn.plaintextLength_le, hn.entryCount_le, ?_,
      hmin⟩, htotal⟩
    · simp [bytesOf, headerBytes, CanonicalUsername.bytes, hlen]
    · rw [CanonicalUsername.bytes, hlen, hheader]
  · rintro ⟨rfl, hw, rfl⟩
    obtain ⟨hpos, hle⟩ := h.username.length_bytes
    have hh := hw.headerLength_eq
    have hf : howyenc1FixedHeader = 88 := rfl
    have hn : NumbersBounded ⟨h.headerLength, h.keyEpoch, h.recordGeneration, h.plaintextLength, h.entryCount,
        h.username.bytes.length⟩ :=
      ⟨by simp only; omega, hw.keyEpoch_ne_zero, hw.recordGeneration_ne_zero, hw.plaintextLength_le,
        hw.entryCount_le, hpos, hle⟩
    refine ⟨h.mode, _, ?_, _, _, ⟨rfl, hn⟩, h.recognizerModelSha256, _, rfl, h.nonce, _, rfl, ⟨⟩, _,
      ⟨(checkLengths_eq_ok hn).mpr ⟨hh, rfl, hw.entries_fit⟩, rfl⟩, h.username.bytes, t, ⟨rfl, rfl⟩,
      h.username.name, _, ⟨rfl, rfl⟩, h.username, _, ⟨rfl, rfl⟩, rfl, rfl⟩
    simp [bytesOf, headerBytes]

lemma inspectHowyenc1_eq_ok {bytes : Bytes} {h : EncryptedHeader} : inspectHowyenc1 bytes = .ok h ↔
      ∃ body, bytes = bytesOf h ++ body ∧ WellFormed h ∧ body.length = h.plaintextLength + gcmTagBytes := by
  simp only [inspectHowyenc1, inspectHowyenc1HeaderPrefix, bind_eq_ok, pure_eq_ok, Prod.exists]
  constructor
  · rintro ⟨_, body, hr, rfl⟩
    obtain ⟨rfl, hw, htotal⟩ := accepts_howyenc1HeaderReader.mp hr
    refine ⟨body, rfl, hw, ?_⟩
    have hl := hw.headerLength_eq
    rw [List.length_append, bytesOf, length_headerBytes] at htotal
    omega
  · rintro ⟨body, rfl, hw, hbody⟩
    refine ⟨h, body, accepts_howyenc1HeaderReader.mpr ⟨rfl, hw, ?_⟩, rfl⟩
    have hl := hw.headerLength_eq
    rw [List.length_append, bytesOf, length_headerBytes]
    omega

end Howy.Storage
