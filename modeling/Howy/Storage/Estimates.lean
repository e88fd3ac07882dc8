import Howy.Storage.Contracts
import Howy.Storage.Howyenc1

/-! How many plaintext bytes an operation may hold at once, from the shape of the records it touches. -/

namespace Howy.Storage

open Library

/-- `size_of::<EnrollmentEntry>()`: the identifier, the creation time, the label owner and the embedding. -/
def enrollmentEntrySize : ℕ := 16 + 8 + 16 + embeddingDimension * 4

def enrollmentIdSize : ℕ := 16
def labelOwnerSize : ℕ := 16

def invalid {α : Type} (x : Option α) (what : String) : BackendResult α :=
  match x with
  | some a => .ok a
  | none => .error (.invalidInput what)

lemma invalid_eq_ok {α : Type} {x : Option α} {what : String} {a : α} : invalid x what = .ok a ↔ x = some a := by
  cases x with
  | none | some b => simp [invalid]

def authModelAllocationBytes (entryCount labelBytes : ℕ) : BackendResult ℕ :=
  invalid (do
    let values ← checkedMul entryCount embeddingDimension
    let bytes ← checkedMul values 4
    let idBytes ← checkedMul entryCount enrollmentIdSize
    let bytes ← checkedAdd bytes idBytes
    let labelOwnerBytes ← checkedMul entryCount labelOwnerSize
    let bytes ← checkedAdd bytes labelOwnerBytes
    checkedAdd bytes labelBytes) "model byte length"

lemma authModelAllocationBytes_eq_ok {entryCount labelBytes bytes : ℕ}
    (h : authModelAllocationBytes entryCount labelBytes = .ok bytes) :
    bytes = entryCount * (embeddingDimension * 4 + enrollmentIdSize + labelOwnerSize) + labelBytes := by
  rw [authModelAllocationBytes, invalid_eq_ok] at h
  obtain ⟨values, hvalues, h⟩ := Option.bind_eq_some_iff.mp h
  obtain ⟨floats, hfloats, h⟩ := Option.bind_eq_some_iff.mp h
  obtain ⟨ids, hids, h⟩ := Option.bind_eq_some_iff.mp h
  obtain ⟨withIds, hwithIds, h⟩ := Option.bind_eq_some_iff.mp h
  obtain ⟨owners, howners, h⟩ := Option.bind_eq_some_iff.mp h
  obtain ⟨withOwners, hwithOwners, h⟩ := Option.bind_eq_some_iff.mp h
  simp only [checkedMul_eq_some, checkedAdd_eq_some] at hvalues hfloats hids hwithIds howners hwithOwners h
  rw [Nat.mul_add, Nat.mul_add, ← Nat.mul_assoc]
  omega

structure PlaintextAllocationEstimate where
  encodedPayloadBytes : ℕ
  aeadStagingBytes : ℕ
  sourceDecodedRecordBytes : ℕ
  decodedRecordBytes : ℕ
  flatAuthModelBytes : ℕ
  coldLoadPeakBytes : ℕ
  mutationPeakBytes : ℕ
  peakBytes : ℕ
deriving DecidableEq

namespace PlaintextAllocationEstimate

def fromPayloadShape (payloadBytes entryCount : ℕ) : BackendResult PlaintextAllocationEstimate := do
  failIf (maxPlaintextBytes < payloadBytes) (.invalidInput "payload byte length")
  failIf (maxEntries < entryCount) (.invalidInput "entry count")
  let fixedPayload ← invalid ((checkedMul entryCount canonicalEntryFixedBytes).bind
    (checkedAdd · canonicalPayloadFixedBytes)) "payload byte length"
  failIf (payloadBytes < fixedPayload) (.invalidInput "payload byte length")
  let labelBytes := payloadBytes - fixedPayload
  let decodedRecordBytes ← invalid ((checkedMul entryCount enrollmentEntrySize).bind
    (checkedAdd · labelBytes)) "record byte length"
  let flatAuthModelBytes ← authModelAllocationBytes entryCount labelBytes
  let aeadStagingBytes ← invalid (checkedAdd payloadBytes gcmTagBytes) "AEAD staging byte length"
  let decryptAndDecode ← invalid (checkedAdd aeadStagingBytes decodedRecordBytes) "plaintext cold-load byte length"
  let decodeAndFlatten ← invalid (checkedAdd decodedRecordBytes flatAuthModelBytes)
    "plaintext cold-load byte length"
  let mutationPeakBytes ← invalid (do
    let bytes ← checkedAdd decodedRecordBytes flatAuthModelBytes
    let bytes ← checkedAdd bytes payloadBytes
    checkedAdd bytes aeadStagingBytes) "plaintext peak byte length"
  pure {
    encodedPayloadBytes := payloadBytes, aeadStagingBytes, sourceDecodedRecordBytes := 0, decodedRecordBytes,
    flatAuthModelBytes, coldLoadPeakBytes := max decryptAndDecode decodeAndFlatten, mutationPeakBytes,
    peakBytes := mutationPeakBytes }

def forPlaintextLimits (maxPayloadBytes configuredMaxEntries : ℕ) :
    BackendResult PlaintextAllocationEstimate := do
  failIf (maxPlaintextBytes < maxPayloadBytes ∨ maxEntries < configuredMaxEntries)
    (.invalidInput "plaintext limits")
  let possibleEntries := (maxPayloadBytes - canonicalPayloadFixedBytes) / canonicalEntryFixedBytes
  fromPayloadShape maxPayloadBytes (min configuredMaxEntries possibleEntries)

def forEncryptedHeader (header : EncryptedHeader) : BackendResult PlaintextAllocationEstimate :=
  fromPayloadShape header.plaintextLength header.entryCount.toNat

def forRecord (record : EnrollmentRecord) : BackendResult PlaintextAllocationEstimate := do
  failIf (2 ^ 32 ≤ record.entries.length) (.invalidInput "entry count")
  let labels ← invalid
    (record.entries.foldlM (fun total entry => checkedAdd total (utf8Bytes entry.label).length) 0)
    "record byte length"
  let fixedEntries ← invalid (checkedMul record.entries.length canonicalEntryFixedBytes) "record byte length"
  let payloadBytes ← invalid ((checkedAdd canonicalPayloadFixedBytes fixedEntries).bind (checkedAdd · labels))
    "record byte length"
  fromPayloadShape payloadBytes record.entries.length

def forPayloadShape (payloadBytes entryCount : ℕ) : BackendResult PlaintextAllocationEstimate := do
  failIf (2 ^ 32 ≤ entryCount) (.invalidInput "entry count")
  fromPayloadShape payloadBytes entryCount

def withSource (estimate : PlaintextAllocationEstimate) (sourceBytes : ℕ) :
    BackendResult PlaintextAllocationEstimate := do
  let mutationPeakBytes ← invalid (checkedAdd estimate.mutationPeakBytes sourceBytes)
    "plaintext mutation byte length"
  pure { estimate with
    sourceDecodedRecordBytes := sourceBytes, mutationPeakBytes := mutationPeakBytes, peakBytes :=
      mutationPeakBytes }

def forAppendShape (current : Option EncryptedHeader) (newEntries newLabelBytes : ℕ) :
    BackendResult PlaintextAllocationEstimate := do
  failIf (newEntries = 0 ∨ maxEntries < newEntries) (.invalidInput "append entry count")
  let maximumLabels ← invalid (checkedMul newEntries maxLabelBytes) "append label bytes"
  failIf (maximumLabels < newLabelBytes) (.invalidInput "append label bytes")
  let entryCount ← invalid (checkedAdd (current.elim 0 (·.entryCount.toNat)) newEntries) "entry count"
  failIf (maxEntries < entryCount) (.invalidInput "entry count")
  let payloadBytes ← invalid (do
    let bytes ← checkedMul newEntries canonicalEntryFixedBytes
    let bytes ← checkedAdd bytes newLabelBytes
    checkedAdd bytes (current.elim canonicalPayloadFixedBytes (·.plaintextLength))) "payload byte length"
  let estimate ← fromPayloadShape payloadBytes entryCount
  match current with
  | none => pure estimate
  | some header =>
    let source ← forEncryptedHeader header
    estimate.withSource source.decodedRecordBytes

def forReplacementOfEncryptedHeader (current : EncryptedHeader) :
    BackendResult PlaintextAllocationEstimate := do
  let estimate ← forEncryptedHeader current
  estimate.withSource estimate.decodedRecordBytes

end PlaintextAllocationEstimate

structure AuthModel where
  generation : UInt64
  modelDigest : ModelDigest
  dimension : ℕ
  enrollmentIds : List EnrollmentId
  labels : List String
  flatEmbeddings : List UInt32
  plaintextBytes : ℕ
deriving DecidableEq

namespace AuthModel

def newExact (generation : UInt64) (modelDigest : ModelDigest) (dimension : ℕ) (enrollmentIds : List EnrollmentId)
    (labels : List String) (flatEmbeddings : List UInt32) : BackendResult AuthModel := do
  failIf (generation = absentGeneration) (.invalidInput "generation")
  failIf (dimension ≠ embeddingDimension) (.invalidInput "embedding dimension")
  failIf (enrollmentIds.length ≠ labels.length) (.invalidInput "model metadata count")
  failIf (maxEntries < enrollmentIds.length) (.invalidInput "entry count")
  let embeddingCount ← invalid (checkedMul enrollmentIds.length dimension) "embedding count"
  failIf (flatEmbeddings.length ≠ embeddingCount) (.invalidInput "flat embedding length")
  failIf (flatEmbeddings.any (fun value => !isFinite value) = true) (.invalidInput "non-finite embedding")
  failIf (labels.any (fun label => decide (maxLabelBytes < (utf8Bytes label).length)) = true)
    (.invalidInput "label")
  failIf (¬ enrollmentIds.Nodup) (.invalidInput "duplicate enrollment ID")
  let labelBytes ← invalid (labels.foldlM (fun total label => checkedAdd total (utf8Bytes label).length) 0)
    "model byte length"
  let plaintextBytes ← authModelAllocationBytes enrollmentIds.length labelBytes
  pure { generation, modelDigest, dimension, enrollmentIds, labels, flatEmbeddings, plaintextBytes }

def fromRecord (record : EnrollmentRecord) : BackendResult AuthModel := do
  let _ ← invalid (checkedMul record.entries.length embeddingDimension) "embedding count"
  newExact record.generation record.recognizerModelSha256 embeddingDimension
    (record.entries.map (·.enrollmentId)) (record.entries.map (·.label))
    (record.entries.flatMap (·.embedding.val))

end AuthModel

end Howy.Storage
