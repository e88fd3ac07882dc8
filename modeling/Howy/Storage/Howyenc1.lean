import Howy.Storage.Payload

/-! HOWYENC1 records: an authenticated public header, the encrypted canonical payload and its tag. -/

namespace Howy.Storage

open Library

def howyenc1Magic : Bytes := utf8Bytes "HOWYENC1"
def formatVersion : UInt16 := 1
def aes256GcmAlgorithm : UInt16 := 1
def howyenc1FixedHeader : ℕ := 88

/-- AES-256-GCM as an abstract cipher: what one key, nonce and header encrypt is what they decrypt,
nothing else is accepted, and the ciphertext is as long as the plaintext. -/
structure Aes256Gcm where
  encrypt : Aes256Key → GcmNonce → Bytes → Bytes → Bytes × GcmTag
  decrypt : Aes256Key → GcmNonce → Bytes → Bytes → GcmTag → Option Bytes
  decrypt_encrypt : ∀ key nonce aad plaintext,
    decrypt key nonce aad (encrypt key nonce aad plaintext).1 (encrypt key nonce aad plaintext).2 =
      some plaintext
  encrypt_of_decrypt : ∀ key nonce aad ciphertext tag plaintext,
    decrypt key nonce aad ciphertext tag = some plaintext →
      ∃ source, encrypt key nonce aad source = (ciphertext, tag)
  length_encrypt : ∀ key nonce aad plaintext, (encrypt key nonce aad plaintext).1.length = plaintext.length

lemma Aes256Gcm.encrypt_eq_of_decrypt (gcm : Aes256Gcm) {key : Aes256Key} {nonce : GcmNonce}
    {aad ciphertext plaintext : Bytes} {tag : GcmTag} (h : gcm.decrypt key nonce aad ciphertext tag =
      some plaintext) :
    gcm.encrypt key nonce aad plaintext = (ciphertext, tag) := by
  obtain ⟨source, hs⟩ := gcm.encrypt_of_decrypt _ _ _ _ _ _ h
  have hd := gcm.decrypt_encrypt key nonce aad source
  rw [hs] at hd
  rw [h, Option.some.injEq] at hd
  rw [hd, hs]

structure EncryptedHeader where
  mode : StorageMode
  keyEpoch : UInt64
  recordGeneration : UInt64
  plaintextLength : ℕ
  entryCount : UInt32
  recognizerModelSha256 : ModelDigest
  nonce : GcmNonce
  username : CanonicalUsername
  headerLength : ℕ
deriving DecidableEq

def headerBytes (mode : StorageMode) (headerLength : ℕ) (keyEpoch generation : UInt64)
    (plaintextLength : ℕ) (entryCount : UInt32) (model : ModelDigest) (nonce : GcmNonce)
    (username : CanonicalUsername) : Bytes :=
  howyenc1Magic ++ (leBytes 2 formatVersion.toNat ++ (leBytes 2 aes256GcmAlgorithm.toNat ++
    (mode.identifier :: 0 :: (leBytes 2 headerLength ++ (leBytes 8 keyEpoch.toNat ++
      (leBytes 8 generation.toNat ++ (leBytes 4 plaintextLength ++ (leBytes 4 entryCount.toNat ++
        (leBytes 2 embeddingDimension ++ (leBytes 2 username.bytes.length ++
          (model.val ++ (nonce.val ++ username.bytes))))))))))))

def encodeHowyenc1WithNonce (gcm : Aes256Gcm) (record : EnrollmentRecord) (mode : StorageMode)
    (keyEpoch : UInt64) (key : Aes256Key) (nonce : GcmNonce) : Except StorageError Bytes := do
  failIf (keyEpoch = 0) .invalidEpoch
  let payload ← encodeCanonicalPayload record
  let plaintextLength ← u32TryFrom payload.length (.limitExceeded "canonical plaintext")
  let entryCount ← u32TryFrom record.entries.length (.limitExceeded "entry count")
  let headerLength ← okOr (checkedAdd howyenc1FixedHeader record.username.bytes.length)
    (.integerOverflow "HOWYENC1 header length")
  failIf (2 ^ 16 ≤ headerLength) (.integerOverflow "HOWYENC1 header length")
  let header := headerBytes mode headerLength keyEpoch record.generation plaintextLength.toNat entryCount
    record.recognizerModelSha256 nonce record.username
  let (ciphertext, tag) := gcm.encrypt key nonce header payload
  let _ ← okOr ((checkedAdd headerLength ciphertext.length).bind (checkedAdd · gcmTagBytes))
    (.integerOverflow "HOWYENC1 total length")
  pure (header ++ (ciphertext ++ tag.val))

def readIdentification : Reader StorageMode := do
  let magic ← take "HOWYENC1" 8
  failIf (magic ≠ howyenc1Magic) (.invalidMagic "HOWYENC1")
  let version ← readU16 "HOWYENC1"
  failIf (version ≠ formatVersion) (.unsupportedVersion "HOWYENC1" version)
  let algorithm ← readU16 "HOWYENC1"
  failIf (algorithm ≠ aes256GcmAlgorithm) (.unsupportedAlgorithm algorithm)
  let modeByte ← readU8 "HOWYENC1"
  let mode ← liftM (StorageMode.tryFrom modeByte)
  let flags ← readU8 "HOWYENC1"
  failIf (flags ≠ 0) (.unknownFlags "HOWYENC1" flags.toUInt16)
  pure mode

structure HeaderNumbers where
  headerLength : ℕ
  keyEpoch : UInt64
  recordGeneration : UInt64
  plaintextLength : ℕ
  entryCount : UInt32
  usernameLength : ℕ

def readNumbers : Reader HeaderNumbers := do
  let headerLength ← readU16 "HOWYENC1"
  let keyEpoch ← readU64 "HOWYENC1"
  failIf (keyEpoch = 0) .invalidEpoch
  let recordGeneration ← readU64 "HOWYENC1"
  failIf (recordGeneration = 0) .invalidGeneration
  let plaintextLength ← readU32 "HOWYENC1"
  failIf (maxPlaintextBytes < plaintextLength.toNat) (.limitExceeded "HOWYENC1 plaintext")
  let entryCount ← readU32 "HOWYENC1"
  failIf (maxEntries < entryCount.toNat) (.limitExceeded "entry count")
  let embeddingDim ← readU16 "HOWYENC1"
  failIf (embeddingDim.toNat ≠ embeddingDimension) (.invalidEmbeddingDimension embeddingDim)
  let usernameLength ← readU16 "HOWYENC1"
  failIf (¬ (1 ≤ usernameLength.toNat ∧ usernameLength.toNat ≤ 64)) .invalidUsername
  pure ⟨headerLength.toNat, keyEpoch, recordGeneration, plaintextLength.toNat, entryCount,
    usernameLength.toNat⟩

def checkLengths (numbers : HeaderNumbers) (exactSourceLength : ℕ) : Except StorageError Unit := do
  let expectedHeaderLength ← okOr (checkedAdd howyenc1FixedHeader numbers.usernameLength)
    (.integerOverflow "HOWYENC1 header length")
  failIf (numbers.headerLength ≠ expectedHeaderLength) (.invalidLength "HOWYENC1")
  let totalLength ← okOr ((checkedAdd numbers.headerLength numbers.plaintextLength).bind
    (checkedAdd · gcmTagBytes)) (.integerOverflow "HOWYENC1 total length")
  failIf (exactSourceLength ≠ totalLength) (.invalidLength "HOWYENC1")
  let entryLengths ← okOr (checkedMul numbers.entryCount.toNat canonicalEntryFixedBytes)
    (.integerOverflow "HOWYENC1 entry lengths")
  let minimumPayloadLength ← okOr (checkedAdd canonicalPayloadFixedBytes entryLengths)
    (.integerOverflow "HOWYENC1 payload length")
  failIf (numbers.plaintextLength < minimumPayloadLength) (.invalidLength "HOWYENC1")

def howyenc1HeaderReader (exactSourceLength : ℕ) : Reader EncryptedHeader := do
  let mode ← readIdentification
  let numbers ← readNumbers
  let recognizerModelSha256 ← readArray "HOWYENC1" 32
  let nonce ← readArray "HOWYENC1" 12
  liftM (checkLengths numbers exactSourceLength)
  let usernameBytes ← take "HOWYENC1" numbers.usernameLength
  let name ← liftM (okOr (fromUtf8 usernameBytes) .invalidUsername)
  let username ← liftM (CanonicalUsername.new name)
  pure { mode, recognizerModelSha256, nonce, username,
         keyEpoch := numbers.keyEpoch, recordGeneration := numbers.recordGeneration,
         plaintextLength := numbers.plaintextLength, entryCount := numbers.entryCount,
         headerLength := numbers.headerLength }

def inspectHowyenc1HeaderPrefix (bytes : Bytes) (exactSourceLength : ℕ) :
    Except StorageError EncryptedHeader := do
  let (header, _) ← (howyenc1HeaderReader exactSourceLength).run bytes
  pure header

def inspectHowyenc1 (bytes : Bytes) : Except StorageError EncryptedHeader :=
  inspectHowyenc1HeaderPrefix bytes bytes.length

def getRange (bytes : Bytes) (start stop : ℕ) : Option Bytes :=
  if start ≤ stop ∧ stop ≤ bytes.length then some ((bytes.take stop).drop start) else none

def gcmTagTryFrom (bytes : Bytes) : Option GcmTag :=
  if h : bytes.length = 16 then some ⟨bytes, h⟩ else none

def decodeHowyenc1 (gcm : Aes256Gcm) (bytes : Bytes) (key : Aes256Key) (expectedMode : StorageMode)
    (expectedKeyEpoch : UInt64) (expectedUsername : CanonicalUsername) (expectedModel : ModelDigest) :
    Except StorageError EnrollmentRecord := do
  let header ← inspectHowyenc1 bytes
  failIf (header.mode ≠ expectedMode) (.bindingMismatch "storage mode")
  failIf (header.keyEpoch ≠ expectedKeyEpoch) (.bindingMismatch "key epoch")
  failIf (header.username ≠ expectedUsername) (.bindingMismatch "username")
  failIf (header.recognizerModelSha256 ≠ expectedModel) (.bindingMismatch "recognizer model")
  let ciphertextEnd ← okOr (checkedAdd header.headerLength header.plaintextLength)
    (.integerOverflow "HOWYENC1 ciphertext end")
  let ciphertext ← okOr (getRange bytes header.headerLength ciphertextEnd) (.invalidLength "HOWYENC1")
  let tagBytes ← okOr (getRange bytes ciphertextEnd bytes.length) (.invalidLength "HOWYENC1")
  let tag ← okOr (gcmTagTryFrom tagBytes) (.invalidLength "HOWYENC1")
  let aad ← okOr (getRange bytes 0 header.headerLength) (.invalidLength "HOWYENC1")
  let payload ← okOr (gcm.decrypt key header.nonce aad ciphertext tag) .authenticationFailed
  failIf (payload.length ≠ header.plaintextLength) (.invalidLength "HOWYENC1")
  let entries ← decodePayloadWithExpectedCount payload (some header.entryCount)
  EnrollmentRecord.new header.recordGeneration header.recognizerModelSha256 header.username entries

end Howy.Storage
