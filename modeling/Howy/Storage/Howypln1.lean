import Howy.Storage.Howyenc1

/-! HOWYPLN1 records: a fixed header, the username and the canonical payload, all in the clear. -/

namespace Howy.Storage.Howypln1

open Library

def howypln1Magic : Bytes := utf8Bytes "HOWYPLN1"
def howypln1FixedHeader : ℕ := 54

def encodeHowypln1 (record : EnrollmentRecord) : Except StorageError Bytes := do
  let payload ← encodeCanonicalPayload record
  let _ ← okOr ((checkedAdd howypln1FixedHeader record.username.bytes.length).bind (checkedAdd · payload.length))
    (.integerOverflow "HOWYPLN1 length")
  pure (howypln1Magic ++ (leBytes 2 formatVersion.toNat ++ (leBytes 2 0 ++ (leBytes 8 record.generation.toNat ++
    (record.recognizerModelSha256.val ++ (leBytes 2 record.username.bytes.length ++
      (record.username.bytes ++ payload)))))))

def headerReaderIn (format : String) (expectedUsername : CanonicalUsername) (expectedModel : ModelDigest) :
    Reader (UInt64 × ModelDigest × CanonicalUsername) := do
  let magic ← take format 8
  failIf (magic ≠ howypln1Magic) (.invalidMagic "HOWYPLN1")
  let version ← readU16 format
  failIf (version ≠ formatVersion) (.unsupportedVersion "HOWYPLN1" version)
  let flags ← readU16 format
  failIf (flags ≠ 0) (.unknownFlags "HOWYPLN1" flags)
  let generation ← readU64 format
  failIf (generation = 0) .invalidGeneration
  let model ← readArray format 32
  let usernameLength ← readU16 format
  failIf (¬ (1 ≤ usernameLength.toNat ∧ usernameLength.toNat ≤ 64)) .invalidUsername
  let usernameBytes ← take format usernameLength.toNat
  let text ← liftM (okOr (fromUtf8 usernameBytes) .invalidUsername)
  let username ← liftM (CanonicalUsername.new text)
  failIf (username ≠ expectedUsername) (.bindingMismatch "username")
  failIf (model ≠ expectedModel) (.bindingMismatch "recognizer model")
  pure (generation, model, username)

def headerReader (expectedUsername : CanonicalUsername) (expectedModel : ModelDigest) :
    Reader (UInt64 × ModelDigest × CanonicalUsername) := headerReaderIn "HOWYPLN1" expectedUsername expectedModel

def decodeCanonicalPayload (bytes : Bytes) : Except StorageError (List EnrollmentEntry) :=
  decodePayloadWithExpectedCount bytes none

def decodeHowypln1 (bytes : Bytes) (expectedUsername : CanonicalUsername) (expectedModel : ModelDigest) :
    Except StorageError EnrollmentRecord := do
  let ((generation, model, username), remainder) ← (headerReader expectedUsername expectedModel).run bytes
  let entries ← decodeCanonicalPayload remainder
  EnrollmentRecord.new generation model username entries

def headerBytes (generation : UInt64) (model : ModelDigest) (username : CanonicalUsername) : Bytes :=
  howypln1Magic ++ (leBytes 2 formatVersion.toNat ++ (leBytes 2 0 ++ (leBytes 8 generation.toNat ++
    (model.val ++ (leBytes 2 username.bytes.length ++ username.bytes)))))

lemma encodeHowypln1_eq (record : EnrollmentRecord) : encodeHowypln1 record =
      .ok (headerBytes record.generation record.recognizerModelSha256 record.username ++
        payloadBytes record.entries) := by
  have hpayload := length_payloadBytes_le record.length_entries
  have husername := record.username.length_bytes.2
  have hfixed : howypln1FixedHeader + 64 + maxPlaintextBytes < 2 ^ 64 := by decide
  simp only [encodeHowypln1, encodeCanonicalPayload_eq, bind_eq_ok, okOr_eq_ok, Option.bind_eq_some_iff,
    checkedAdd_eq_some, pure_eq_ok]
  refine ⟨_, rfl, _, ⟨_, ⟨by omega, rfl⟩, by omega, rfl⟩, ?_⟩
  simp [headerBytes]

lemma accepts_headerReaderIn {format : String} {u username : CanonicalUsername}
    {m model : ModelDigest} {s t : Bytes}
    {g : UInt64} : Accepts (headerReaderIn format u m) s (g, model, username) t ↔
      s = headerBytes g m u ++ t ∧ g ≠ 0 ∧ model = m ∧ username = u := by
  simp only [headerReaderIn, accepts_bind, accepts_take, accepts_failIf, accepts_readU16, accepts_readU64,
    accepts_readArray, accepts_liftM, okOr_eq_ok, fromUtf8_eq_some, CanonicalUsername.new_eq_ok, accepts_pure,
    Prod.mk.injEq]
  constructor
  · rintro ⟨magic, _, ⟨rfl, -⟩, ⟨⟩, _, ⟨hmagic, rfl⟩, version, _, rfl, ⟨⟩, _, ⟨hversion, rfl⟩,
      flags, _, rfl, ⟨⟩, _, ⟨hflags, rfl⟩, _, _, rfl, ⟨⟩, _, ⟨hg, rfl⟩, _, _, rfl, len, _, rfl, ⟨⟩, _,
      ⟨-, rfl⟩, name, _, ⟨rfl, hlen⟩, text,
      _, ⟨rfl, rfl⟩, _, _, ⟨rfl, rfl⟩, ⟨⟩, _, ⟨hu, rfl⟩, ⟨⟩, _, ⟨hm, rfl⟩, ⟨rfl, rfl, rfl⟩, rfl⟩
    rw [not_not] at hmagic hversion hflags hu hm
    subst hmagic hversion hflags hu hm
    refine ⟨?_, hg, rfl, rfl⟩
    rw [headerBytes, CanonicalUsername.bytes, hlen]
    simp only [List.append_assoc]
    rfl
  · rintro ⟨rfl, hg, rfl, rfl⟩
    obtain ⟨hpos, hle⟩ := username.length_bytes
    have hlen : (UInt16.ofNat username.bytes.length).toNat = username.bytes.length :=
      UInt16.toNat_ofNat_of_lt' (lt_of_le_of_lt hle (by decide))
    simp only [headerBytes, List.append_assoc]
    exact ⟨_, _, ⟨rfl, by decide⟩, ⟨⟩, _, ⟨by simp, rfl⟩, formatVersion, _, rfl, ⟨⟩, _,
      ⟨by simp, rfl⟩, 0, _, rfl, ⟨⟩,
      _, ⟨by simp, rfl⟩, g, _, rfl, ⟨⟩, _, ⟨hg, rfl⟩, model, _, rfl, UInt16.ofNat username.bytes.length, _,
      by rw [hlen], ⟨⟩, _, ⟨by rw [hlen]; omega, rfl⟩, username.bytes, _, ⟨rfl, hlen.symm⟩, username.name, _,
      ⟨rfl, rfl⟩, username, _, ⟨rfl, rfl⟩, ⟨⟩, _, ⟨by simp, rfl⟩, ⟨⟩, _, ⟨by simp, rfl⟩, ⟨rfl, rfl, rfl⟩, rfl⟩

lemma decodeHowypln1_eq_ok {bytes : Bytes} {u : CanonicalUsername} {m : ModelDigest} {record : EnrollmentRecord} :
    decodeHowypln1 bytes u m = .ok record ↔
      record.username = u ∧ record.recognizerModelSha256 = m ∧ encodeHowypln1 record = .ok bytes := by
  rw [encodeHowypln1_eq, Except.ok.injEq, decodeHowypln1]
  simp only [bind_eq_ok, Prod.exists, decodeCanonicalPayload, decodePayloadWithExpectedCount_eq_ok,
    EnrollmentRecord.new_eq_ok]
  constructor
  · rintro ⟨g, model, username, rest, hheader, es, ⟨rfl, -⟩, hg, hm, hu, he⟩
    obtain ⟨rfl, -, rfl, rfl⟩ := accepts_headerReaderIn.mp hheader
    subst hg hm hu he
    exact ⟨rfl, rfl, rfl⟩
  · rintro ⟨rfl, rfl, rfl⟩
    refine ⟨record.generation, record.recognizerModelSha256, record.username, payloadBytes record.entries, ?_,
      record.entries, ⟨rfl, record.length_entries, record.nodup_ids, by simp⟩, rfl, rfl, rfl, rfl⟩
    exact accepts_headerReaderIn.mpr ⟨rfl, record.generation_ne_zero, rfl, rfl⟩

theorem howypln1_canonical :
    (∀ record : EnrollmentRecord, ∃ bytes, encodeHowypln1 record = .ok bytes ∧
      decodeHowypln1 bytes record.username record.recognizerModelSha256 = .ok record) ∧
    (∀ bytes u m record, decodeHowypln1 bytes u m = .ok record →
      record.username = u ∧ record.recognizerModelSha256 = m ∧ encodeHowypln1 record = .ok bytes) ∧
    ∀ bytes, (∃ u m record, decodeHowypln1 bytes u m = .ok record) ↔ ∃ record,
    encodeHowypln1 record = .ok bytes := by
  refine ⟨fun record => ?_, fun bytes u m record h => decodeHowypln1_eq_ok.mp h, fun bytes => ⟨?_, ?_⟩⟩
  · exact ⟨_, encodeHowypln1_eq record, decodeHowypln1_eq_ok.mpr ⟨rfl, rfl, encodeHowypln1_eq record⟩⟩
  · rintro ⟨u, m, record, h⟩
    exact ⟨record, (decodeHowypln1_eq_ok.mp h).2.2⟩
  · rintro ⟨record, h⟩
    exact ⟨_, _, record, decodeHowypln1_eq_ok.mpr ⟨rfl, rfl, h⟩⟩

end Howy.Storage.Howypln1
