import Howy.Library.Bytes
import Howy.Library.Decoding

namespace Howy.Storage

open Library

abbrev Bytes := List UInt8

abbrev FixedArray (α : Type) (n : ℕ) := { l : List α // l.length = n }

def FixedArray.filled {α : Type} (n : ℕ) (a : α) : FixedArray α n := ⟨List.replicate n a, List.length_replicate⟩

def embeddingDimension : ℕ := 512
def maxEntries : ℕ := 1000
def maxLabelBytes : ℕ := 256
def maxPlaintextBytes : ℕ := 2621440
def gcmTagBytes : ℕ := 16
def canonicalPayloadFixedBytes : ℕ := 8
def canonicalEntryFixedBytes : ℕ := 16 + 8 + 2 + 2 + embeddingDimension * 4

abbrev Aes256Key := FixedArray UInt8 32
abbrev GcmNonce := FixedArray UInt8 12
abbrev GcmTag := FixedArray UInt8 16
abbrev ModelDigest := FixedArray UInt8 32

inductive StorageError where
  | invalidUsername
  | invalidMagic (format : String)
  | unsupportedVersion (format : String) (version : UInt16)
  | unsupportedAlgorithm (algorithm : UInt16)
  | unsupportedMode (mode : UInt8)
  | unknownFlags (format : String) (flags : UInt16)
  | invalidReserved (format : String)
  | invalidLength (format : String)
  | limitExceeded (field : String)
  | integerOverflow (what : String)
  | allocationFailed (what : String)
  | invalidGeneration
  | invalidEpoch
  | invalidEmbeddingDimension (dimension : UInt16)
  | entryCountMismatch
  | zeroEnrollmentId
  | duplicateEnrollmentId
  | invalidLabelUtf8
  | nonFiniteEmbedding
  | bindingMismatch (what : String)
  | authenticationFailed
  | randomSource (reason : String)
  | duplicateNonce
  | invalidNonceCeiling
  | nonceWriteLimitExceeded
  | generationOverflow
  | invalidLegacyRecord
deriving DecidableEq

def checkedAdd (a b : ℕ) : Option ℕ := if a + b < 2 ^ 64 then some (a + b) else none

def checkedMul (a b : ℕ) : Option ℕ := if a * b < 2 ^ 64 then some (a * b) else none

@[simp] lemma checkedAdd_eq_some {a b c : ℕ} : checkedAdd a b = some c ↔ a + b < 2 ^ 64 ∧ a + b = c := by
  simp [checkedAdd]

@[simp] lemma checkedMul_eq_some {a b c : ℕ} : checkedMul a b = some c ↔ a * b < 2 ^ 64 ∧ a * b = c := by
  simp [checkedMul]

def okOr {α : Type} (x : Option α) (e : StorageError) : Except StorageError α :=
  match x with
  | some a => .ok a
  | none => .error e

@[simp] lemma okOr_eq_ok {α : Type} {x : Option α} {e : StorageError} {a : α} : okOr x e = .ok a ↔ x = some a := by
  cases x with
  | none | some b => simp [okOr]

def isAsciiAlphanumeric (b : UInt8) : Bool :=
  (48 ≤ b && b ≤ 57) || (65 ≤ b && b ≤ 90) || (97 ≤ b && b ≤ 122)

def isCanonicalUsername (username : String) : Bool :=
  1 ≤ (utf8Bytes username).length && (utf8Bytes username).length ≤ 64 &&
    (utf8Bytes username).all fun b => isAsciiAlphanumeric b || b == 46 || b == 95 || b == 45

structure CanonicalUsername where
  name : String
  canonical : isCanonicalUsername name = true
deriving DecidableEq

namespace CanonicalUsername

def new (username : String) : Except StorageError CanonicalUsername :=
  if h : isCanonicalUsername username = true then .ok ⟨username, h⟩ else .error .invalidUsername

def bytes (u : CanonicalUsername) : Bytes := utf8Bytes u.name

@[simp] lemma new_eq_ok {username : String} {u : CanonicalUsername} :
    new username = .ok u ↔ u.name = username := by
  rcases u with ⟨name, hc⟩
  unfold new
  split
  · rw [Except.ok.injEq, mk.injEq]
    exact eq_comm
  rename_i h
  refine ⟨fun he => (by cases he), ?_⟩
  rintro rfl
  exact absurd hc h

lemma bytes_injective : Function.Injective bytes := by
  rintro ⟨a, ha⟩ ⟨b, hb⟩ h
  cases utf8Bytes_injective h
  rfl

lemma length_bytes (u : CanonicalUsername) : 1 ≤ u.bytes.length ∧ u.bytes.length ≤ 64 := by
  have h := u.canonical
  simp only [isCanonicalUsername, Bool.and_eq_true, decide_eq_true_eq] at h
  exact h.1

end CanonicalUsername

structure EnrollmentId where
  bytes : FixedArray UInt8 16
  nonzero : bytes ≠ FixedArray.filled 16 0
deriving DecidableEq

def EnrollmentId.new (bytes : FixedArray UInt8 16) : Except StorageError EnrollmentId :=
  if h : bytes = FixedArray.filled 16 0 then .error .zeroEnrollmentId else .ok ⟨bytes, h⟩

@[simp] lemma EnrollmentId.new_eq_ok {bytes : FixedArray UInt8 16} {id : EnrollmentId} :
    EnrollmentId.new bytes = .ok id ↔ id.bytes = bytes := by
  rcases id with ⟨b, hb⟩
  unfold EnrollmentId.new
  split
  next h =>
    refine ⟨fun he => (by cases he), ?_⟩
    rintro rfl
    exact absurd h hb
  · rw [Except.ok.injEq, EnrollmentId.mk.injEq]
    exact eq_comm

/-- An `f32` is kept as its bit pattern; it is finite unless all exponent bits are set. -/
def isFinite (bits : UInt32) : Bool := (bits >>> 23) &&& 0xff != 0xff

structure EnrollmentEntry where
  enrollmentId : EnrollmentId
  createdUnixSeconds : UInt64
  label : String
  embedding : FixedArray UInt32 embeddingDimension
  label_le : (utf8Bytes label).length ≤ maxLabelBytes
  finite : embedding.val.all isFinite = true
deriving DecidableEq

namespace EnrollmentEntry

def newZeroizingFields (enrollmentId : EnrollmentId) (createdUnixSeconds : UInt64) (label : String)
    (embedding : FixedArray UInt32 embeddingDimension) : Except StorageError EnrollmentEntry :=
  if hl : maxLabelBytes < (utf8Bytes label).length then .error (.limitExceeded "label")
  else if hf : embedding.val.all isFinite = true then
    .ok ⟨enrollmentId, createdUnixSeconds, label, embedding, Nat.le_of_not_lt hl, hf⟩
  else .error .nonFiniteEmbedding

@[simp] lemma newZeroizingFields_eq_ok {id : EnrollmentId} {created : UInt64} {label : String}
    {embedding : FixedArray UInt32 embeddingDimension} {e : EnrollmentEntry} :
    newZeroizingFields id created label embedding = .ok e ↔
      e.enrollmentId = id ∧ e.createdUnixSeconds = created ∧ e.label = label ∧ e.embedding = embedding := by
  rcases e with ⟨id', created', label', embedding', hl, hf⟩
  unfold newZeroizingFields
  constructor
  · intro h
    split at h
    · cases h
    split at h
    · cases h
      exact ⟨rfl, rfl, rfl, rfl⟩
    · cases h
  · rintro ⟨rfl, rfl, rfl, rfl⟩
    rw [dif_neg (Nat.not_lt.mpr hl), dif_pos hf]

end EnrollmentEntry

structure EnrollmentRecord where
  generation : UInt64
  recognizerModelSha256 : ModelDigest
  username : CanonicalUsername
  entries : List EnrollmentEntry
  generation_ne_zero : generation ≠ 0
  length_entries : entries.length ≤ maxEntries
  nodup_ids : (entries.map EnrollmentEntry.enrollmentId).Nodup
deriving DecidableEq

namespace EnrollmentRecord

def new (generation : UInt64) (recognizerModelSha256 : ModelDigest) (username : CanonicalUsername)
    (entries : List EnrollmentEntry) : Except StorageError EnrollmentRecord :=
  if hg : generation = 0 then .error .invalidGeneration
  else if hl : maxEntries < entries.length then .error (.limitExceeded "entry count")
  else if hd : (entries.map EnrollmentEntry.enrollmentId).Nodup then
    .ok ⟨generation, recognizerModelSha256, username, entries, hg, Nat.le_of_not_lt hl, hd⟩
  else .error .duplicateEnrollmentId

@[simp] lemma new_eq_ok {g : UInt64} {m : ModelDigest} {u : CanonicalUsername}
    {es : List EnrollmentEntry} {r : EnrollmentRecord} : new g m u es = .ok r ↔
      r.generation = g ∧ r.recognizerModelSha256 = m ∧ r.username = u ∧ r.entries = es := by
  rcases r with ⟨g', m', u', es', hg, hl, hd⟩
  unfold new
  constructor
  · intro h
    split at h
    · cases h
    split at h
    · cases h
    split at h
    · cases h
      exact ⟨rfl, rfl, rfl, rfl⟩
    · cases h
  · rintro ⟨rfl, rfl, rfl, rfl⟩
    rw [dif_neg hg, dif_neg (Nat.not_lt.mpr hl), dif_pos hd]

end EnrollmentRecord

inductive StorageMode where
  | aeadCached
  | aeadEphemeral
deriving DecidableEq

namespace StorageMode

def identifier : StorageMode → UInt8
  | aeadCached => 1
  | aeadEphemeral => 2

def tryFrom (value : UInt8) : Except StorageError StorageMode :=
  if value = 1 then .ok aeadCached
  else if value = 2 then .ok aeadEphemeral
  else .error (.unsupportedMode value)

@[simp] lemma tryFrom_eq_ok {value : UInt8} {mode : StorageMode} :
    tryFrom value = .ok mode ↔ value = mode.identifier := by
  unfold tryFrom
  constructor
  · intro h
    split at h
    · cases h
      assumption
    split at h
    · cases h
      assumption
    · cases h
  · rintro rfl
    cases mode with
    | aeadCached | aeadEphemeral => rfl

end StorageMode

end Howy.Storage
