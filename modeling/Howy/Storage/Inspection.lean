import Howy.Storage.Shapes

namespace Howy.Storage.Inspection

open Library Howypln1 Howyenc1Exact Mode1

structure PlaintextHeaderInspection where
  generation : UInt64
  entryCount : UInt32
deriving DecidableEq

def howypln1MaxInspectionBytes : ℕ := howypln1FixedHeader + 64 + canonicalPayloadFixedBytes

def metadataReader (expectedUsername : CanonicalUsername) (expectedModel : ModelDigest) :
    Reader (UInt64 × UInt32) := do
  let (generation, _, _) ← headerReaderIn "HOWYPLN1 metadata" expectedUsername expectedModel
  let version ← readU16 "HOWYPLN1 metadata"
  failIf (version ≠ payloadVersion) (.unsupportedVersion "canonical payload" version)
  let reserved ← readU16 "HOWYPLN1 metadata"
  failIf (reserved ≠ 0) (.invalidReserved "canonical payload")
  let entryCount ← readU32 "HOWYPLN1 metadata"
  finish "HOWYPLN1 metadata"
  pure (generation, entryCount)

def inspectHowypln1Metadata (metadataPrefix : Bytes) (exactSourceLength : ℕ) (expectedUsername : CanonicalUsername)
    (expectedModel : ModelDigest) (configuredMaxEntries : ℕ) : Except StorageError PlaintextHeaderInspection := do
  failIf (configuredMaxEntries = 0 ∨ maxEntries < configuredMaxEntries) (.limitExceeded "entry count")
  failIf (howypln1MaxInspectionBytes < metadataPrefix.length) (.invalidLength "HOWYPLN1")
  let ((generation, entryCount), _) ← (metadataReader expectedUsername expectedModel).run metadataPrefix
  failIf (configuredMaxEntries < entryCount.toNat ∨ maxEntries < entryCount.toNat) (.limitExceeded "entry count")
  let entryEnvelope ← okOr (checkedMul entryCount.toNat canonicalEntryFixedBytes)
    (.integerOverflow "HOWYPLN1 entry envelope")
  let minimumLength ← okOr (checkedAdd metadataPrefix.length entryEnvelope)
    (.integerOverflow "HOWYPLN1 length envelope")
  let labelEnvelope ← okOr (checkedMul entryCount.toNat maxLabelBytes) (.integerOverflow "HOWYPLN1 label envelope")
  let maximumLength ← okOr (checkedAdd minimumLength labelEnvelope) (.integerOverflow "HOWYPLN1 length envelope")
  failIf (¬ (minimumLength ≤ exactSourceLength ∧ exactSourceLength ≤ maximumLength)) (.invalidLength "HOWYPLN1")
  pure ⟨generation, entryCount⟩

def statedHeaderLength (bytes : Bytes) : ℕ := leValue ((bytes.drop 14).take 2)

def metadataPrefixLength (username : CanonicalUsername) : ℕ :=
  howypln1FixedHeader + username.bytes.length + canonicalPayloadFixedBytes

lemma statedHeaderLength_bytesOf {h : EncryptedHeader} (hw : WellFormed h) (body : Bytes) :
    statedHeaderLength (bytesOf h ++ body) = h.headerLength := by
  have hl := hw.headerLength_eq
  have hu := h.username.length_bytes.2
  have hf : howyenc1FixedHeader = 88 := rfl
  have hm : howyenc1Magic.length = 8 := rfl
  rw [statedHeaderLength]
  simp only [bytesOf, headerBytes, List.append_assoc, List.cons_append]
  rw [drop_append_add 6 hm, drop_append_add 4 (length_leBytes 2 _), drop_append_add 2 (length_leBytes 2 _),
    List.drop_succ_cons, List.drop_succ_cons, List.drop_zero, List.take_left' (length_leBytes 2 _),
    leValue_leBytes (by omega)]

lemma inspect_of_metadata {bytes : Bytes} {n : ℕ} {h : EncryptedHeader} (hp : bytes.take n = bytesOf h)
    (hw : WellFormed h) (htotal : bytes.length = h.headerLength + h.plaintextLength + gcmTagBytes) :
    inspectHowyenc1 bytes = .ok h := by
  have hsplit := List.take_append_drop n bytes
  rw [hp] at hsplit
  have hlen := congrArg List.length hsplit
  rw [List.length_append, length_bytesOf hw] at hlen
  exact inspectHowyenc1_eq_ok.mpr ⟨_, hsplit.symm, hw, by omega⟩

lemma accepts_metadataReader {u : CanonicalUsername} {m : ModelDigest} {g : UInt64} {n : UInt32} (hg : g ≠ 0) :
    Accepts (metadataReader u m)
      (Howypln1.headerBytes g m u ++ (leBytes 2 payloadVersion.toNat ++ (leBytes 2 0 ++ leBytes 4 n.toNat)))
      (g, n) [] := by
  simp only [metadataReader, accepts_bind, Prod.exists, accepts_headerReaderIn, accepts_readU16, accepts_failIf,
    accepts_readU32, accepts_finish, accepts_pure]
  exact ⟨g, m, u, _, ⟨rfl, hg, rfl, rfl⟩, payloadVersion, _, rfl, ⟨⟩, _, ⟨by simp, rfl⟩, 0, _, rfl, ⟨⟩, _,
    ⟨by simp, rfl⟩, n, [], by rw [List.append_nil], ⟨⟩, [], ⟨rfl, rfl⟩, rfl, rfl⟩

lemma inspectHowypln1Metadata_encoded {record : EnrollmentRecord} {bytes : Bytes} {k : ℕ}
    (hb : encodeHowypln1 record = .ok bytes) (hk : k ≤ maxEntries) (hn : record.entries.length ≤ k)
    (hpos : 0 < k) :
    inspectHowypln1Metadata (bytes.take (metadataPrefixLength record.username)) bytes.length record.username
      record.recognizerModelSha256 k = .ok ⟨record.generation, UInt32.ofNat record.entries.length⟩ := by
  have hlength := length_encodeHowypln1 hb
  have hcount := entryCount_toNat record.length_entries
  have hlabels := labelBytes_le record.entries
  have hu := record.username.length_bytes.2
  have hmax : maxEntries = 1000 := rfl
  have h54 : howypln1FixedHeader = 54 := rfl
  have h8 : canonicalPayloadFixedBytes = 8 := rfl
  have hf : canonicalEntryFixedBytes = 2076 := rfl
  have hl : maxLabelBytes = 256 := rfl
  have hread := accepts_metadataReader (u := record.username) (m := record.recognizerModelSha256)
    (n := UInt32.ofNat record.entries.length) record.generation_ne_zero
  have hprefix : bytes.take (metadataPrefixLength record.username) =
      Howypln1.headerBytes record.generation record.recognizerModelSha256 record.username ++
        (leBytes 2 payloadVersion.toNat ++
          (leBytes 2 0 ++ leBytes 4 (UInt32.ofNat record.entries.length).toNat)) := by
    rw [encodeHowypln1_eq, Except.ok.injEq] at hb
    have hassoc : ∀ a b c d e : Bytes, a ++ (b ++ (c ++ (d ++ e))) = (a ++ (b ++ (c ++ d))) ++ e := by simp
    rw [← hb, hcount, payloadBytes, hassoc]
    refine List.take_left' ?_
    have hmagic : howypln1Magic.length = 8 := by decide
    simp only [Howypln1.headerBytes, List.length_append, length_leBytes, hmagic,
      record.recognizerModelSha256.property, metadataPrefixLength]
    omega
  have hplen : (bytes.take (metadataPrefixLength record.username)).length = 62 + record.username.bytes.length := by
    rw [List.length_take, metadataPrefixLength]
    omega
  rw [← hprefix, Accepts] at hread
  rw [← hcount] at hlength hn
  generalize UInt32.ofNat record.entries.length = count at *
  have hlimit : ¬ (k = 0 ∨ maxEntries < k) := by omega
  have hshort : ¬ howypln1MaxInspectionBytes < 62 + record.username.bytes.length := by
    rw [howypln1MaxInspectionBytes]
    omega
  have hfull : ¬ (k < count.toNat ∨ maxEntries < count.toNat) := by omega
  have hentries : checkedMul count.toNat 2076 = some (count.toNat * 2076) := checkedMul_eq_some.mpr ⟨by omega, rfl⟩
  have hminimum : checkedAdd (62 + record.username.bytes.length) (count.toNat * 2076) = some _ :=
    checkedAdd_eq_some.mpr ⟨by omega, rfl⟩
  have hlabel : checkedMul count.toNat 256 = some (count.toNat * 256) := checkedMul_eq_some.mpr ⟨by omega, rfl⟩
  have hmaximum : checkedAdd (62 + record.username.bytes.length + count.toNat * 2076)
      (count.toNat * 256) = some _ :=
    checkedAdd_eq_some.mpr ⟨by omega, rfl⟩
  have hwithin : 62 + record.username.bytes.length + count.toNat * 2076 ≤ bytes.length ∧
      bytes.length ≤ 62 + record.username.bytes.length + count.toNat * 2076 + count.toNat * 256 := by omega
  simp only [inspectHowypln1Metadata, failIf, hread, hplen, hf, hl, hlimit, hshort, hfull, hentries,
    hminimum, hlabel, hmaximum, hwithin, and_self, not_true_eq_false, if_false, okOr, ok_bind, pure_bind]
  rfl

theorem inspection_agrees_with_decoding (gcm : Aes256Gcm) :
    (∀ bytes mode epoch u model k limit h,
      inspectHowyenc1Metadata (bytes.take (statedHeaderLength bytes)) bytes.length mode epoch u model
        k limit = .ok h → inspectHowyenc1 bytes = .ok h) ∧
    (∀ bytes k limit h, inspectHowyenc1 bytes = .ok h → (0 < k ∧ k ≤ maxEntries) →
      (0 < limit ∧ limit ≤ maxPlaintextBytes) → h.entryCount.toNat ≤ k → h.plaintextLength ≤ limit →
        inspectHowyenc1Metadata (bytes.take (statedHeaderLength bytes)) bytes.length h.mode h.keyEpoch h.username
          h.recognizerModelSha256 k limit = .ok h) ∧
    (∀ bytes key mode epoch u model h record, inspectHowyenc1 bytes = .ok h →
      decodeHowyenc1 gcm bytes key mode epoch u model = .ok record →
        h.recordGeneration = record.generation ∧ h.entryCount.toNat = record.entries.length ∧
          ∃ payload, encodeCanonicalPayload record = .ok payload ∧ h.plaintextLength = payload.length) ∧
    ∀ bytes u model record k, decodeHowypln1 bytes u model = .ok record → record.entries.length ≤ k →
      (0 < k ∧ k ≤ maxEntries) →
        ∃ i, inspectHowypln1Metadata (bytes.take (metadataPrefixLength u)) bytes.length u model k = .ok i ∧
          i.generation = record.generation ∧ i.entryCount.toNat = record.entries.length := by
  refine ⟨?_, ?_, ?_, ?_⟩
  · intro bytes mode epoch u model k limit h hi
    obtain ⟨-, -, hp, hw, htotal, -⟩ := inspectHowyenc1Metadata_eq_ok.mp hi
    exact inspect_of_metadata hp hw htotal
  · intro bytes k limit h hi hk hlimit hcount hplain
    obtain ⟨body, rfl, hw, hbody⟩ := inspectHowyenc1_eq_ok.mp hi
    have hlen := length_bytesOf hw
    rw [statedHeaderLength_bytesOf hw, List.take_left' hlen, inspectHowyenc1Metadata_eq_ok]
    refine ⟨hk, hlimit, rfl, hw, ?_, hcount, hplain, rfl, rfl, rfl, rfl⟩
    rw [List.length_append, hlen, hbody, Nat.add_assoc]
  · intro bytes key mode epoch u model h record hi hd
    obtain ⟨-, -, nonce, hb⟩ := decodeHowyenc1_eq_ok.mp hd
    rw [inspectHowyenc1_encoded hb, Except.ok.injEq] at hi
    subst hi
    exact ⟨rfl, entryCount_toNat record.length_entries, _, encodeCanonicalPayload_eq record, rfl⟩
  · intro bytes u model record k hd hn hk
    obtain ⟨rfl, rfl, hb⟩ := decodeHowypln1_eq_ok.mp hd
    exact ⟨_, inspectHowypln1Metadata_encoded hb hk.2 hn hk.1, rfl, entryCount_toNat record.length_entries⟩

theorem inspection_agrees_with_decoding_alice :
    ∃ bytes h, inspectHowyenc1 bytes = .ok h ∧ h.plaintextLength = 2091 ∧
      inspectHowyenc1Metadata (bytes.take (statedHeaderLength bytes)) bytes.length .aeadCached 1 alice
        (.filled 32 7) 1 2091 = .ok h ∧
      ∃ plain i, decodeHowypln1 plain alice (.filled 32 7) = .ok aliceRecord ∧
        inspectHowypln1Metadata (plain.take (metadataPrefixLength alice)) plain.length alice
          (.filled 32 7) 1 = .ok i := by
  have hb : encodeHowyenc1WithNonce copyCipher aliceRecord .aeadCached 1 (.filled 32 5)
      (.filled 12 9) = .ok (sealedBytes copyCipher (headerOf aliceRecord .aeadCached 1
        (.filled 12 9)) (.filled 32 5) (payloadBytes aliceRecord.entries)) :=
    encodeHowyenc1WithNonce_eq_ok.mpr ⟨by decide, rfl⟩
  have hi := inspectHowyenc1_encoded hb
  have hp : decodeHowypln1 _ alice (.filled 32 7) = .ok aliceRecord :=
    decodeHowypln1_eq_ok.mpr ⟨rfl, rfl, encodeHowypln1_eq aliceRecord⟩
  have hlength := length_payloadBytes_eq aliceRecord.entries
  obtain ⟨-, hmeta, -, hplain⟩ := inspection_agrees_with_decoding copyCipher
  obtain ⟨i, hinspect, -⟩ := hplain _ _ _ _ 1 hp (by decide) (by decide)
  have hlimit : 0 < 2091 ∧ 2091 ≤ maxPlaintextBytes := by decide
  have hinspected := hmeta _ 1 2091 _ hi (by decide) hlimit (by decide) hlength.le
  exact ⟨_, _, hi, hlength, hinspected, _, i, hp, hinspect⟩

end Howy.Storage.Inspection
