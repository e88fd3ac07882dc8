import Howy.Storage.Backend
import Howy.Storage.Howypln1

/-! What a call of the Mode 0 backend computes from the files it has read. -/

namespace Howy.Storage.Plaintext

open Library Howypln1

structure PlaintextStorageLimits where
  maxEntries : ℕ
  maxRecordBytes : ℕ
  maxEntries_pos : 0 < maxEntries
  maxEntries_le : maxEntries ≤ Storage.maxEntries
  maxRecordBytes_pos : 0 < maxRecordBytes
  maxRecordBytes_le : maxRecordBytes ≤ Storage.maxPlaintextBytes

inductive LegacySourceEncoding where
  | bincodeThenJson
  | jsonOnly
deriving DecidableEq

inductive PlaintextRecordFormat where
  | howypln1
  | legacy
deriving DecidableEq

structure DecodedPlaintextRecord where
  record : EnrollmentRecord
  format : PlaintextRecordFormat
deriving DecidableEq

/-- What is fixed for the lifetime of a Mode 0 backend; the decoder of legacy sources is a parameter. -/
structure PlaintextStorageBackend where
  legacy : LegacySourceEncoding → Bytes → CanonicalUsername → ModelDigest → ℕ →
    Except StorageError EnrollmentRecord
  expectedOwner : ℕ
  recognizerModel : ModelDigest
  limits : PlaintextStorageLimits
  operationReservationBytes : ℕ
  cacheLimits : ModelCacheLimits

def mapStorageError : StorageError → StorageBackendError
  | .bindingMismatch "recognizer model" => .modelMismatch
  | .generationOverflow => .generationOverflow
  | .allocationFailed _ => .unavailable
  | _ => .corrupt

def mapMutationRecordError : StorageError → StorageBackendError
  | .generationOverflow => .generationOverflow
  | .allocationFailed _ => .unavailable
  | _ => .invalidInput "record"

variable (backend : PlaintextStorageBackend)

def decodePlaintextRecord (completeSourceBytes : Bytes) (sourceEncoding : LegacySourceEncoding)
    (expectedUsername : CanonicalUsername) : Except StorageError DecodedPlaintextRecord :=
  if howypln1Magic <+: completeSourceBytes then
    (⟨·, .howypln1⟩) <$> decodeHowypln1 completeSourceBytes expectedUsername backend.recognizerModel
  else
    (⟨·, .legacy⟩) <$> backend.legacy sourceEncoding completeSourceBytes expectedUsername backend.recognizerModel
      backend.limits.maxEntries

def isRecordFile (owner : ℕ) (file : FileNode) : Bool :=
  file.kind == .regular && file.uid == owner && file.mode == storageRecordMode

def readSource (file : FileNode) : BackendResult Bytes := do
  failIf (file.kind = .symlink) (.io .open .other)
  failIf (¬ isRecordFile backend.expectedOwner file) (.io .inspect .permissionDenied)
  failIf (file.contents.length = 0 ∨ backend.limits.maxRecordBytes < file.contents.length) .corrupt
  pure file.contents

/-- The `.bin` file decides when it exists; the `.json` file is only a fallback. -/
def loadRecord (u : CanonicalUsername) (bin json : Option FileNode) :
    BackendResult DecodedPlaintextRecord := do
  let (file, encoding) ← match bin, json with
    | some file, _ => pure (file, LegacySourceEncoding.bincodeThenJson)
    | none, some file => pure (file, LegacySourceEncoding.jsonOnly)
    | none, none => throw .absent
  let bytes ← readSource backend file
  (decodePlaintextRecord backend bytes encoding u).mapError mapStorageError

def nextMutationGeneration (loaded : DecodedPlaintextRecord) : BackendResult UInt64 :=
  match loaded.format with
  | .legacy => .ok 1
  | .howypln1 => (checkedNextGeneration loaded.record.generation).mapError mapStorageError

def prepareAppend (request : AppendRequest) (loaded : Option DecodedPlaintextRecord) :
    BackendResult (EnrollmentRecord × AuthModel) := do
  let currentGeneration := loaded.elim absentGeneration (·.record.generation)
  failIf (currentGeneration ≠ request.expectedGeneration) (.conflict currentGeneration)
  let entries := loaded.elim [] (·.record.entries)
  let total ← invalid (checkedAdd entries.length request.entries.length) "entry count"
  failIf (backend.limits.maxEntries < total) (.invalidInput "entry count")
  let generation ← loaded.elim (.ok 1) nextMutationGeneration
  let record ← (EnrollmentRecord.new generation backend.recognizerModel request.username
    (entries ++ request.entries)).mapError mapMutationRecordError
  let model ← AuthModel.fromRecord record
  pure (record, model)

def encodeRecord (record : EnrollmentRecord) : BackendResult Bytes := do
  let encoded ← (encodeHowypln1 record).mapError mapStorageError
  failIf (backend.limits.maxRecordBytes < encoded.length) (.invalidInput "record byte length")
  pure encoded

lemma loadRecord_bin {u : CanonicalUsername} {file : FileNode} {json : Option FileNode} {record : EnrollmentRecord}
    (hfile : isRecordFile backend.expectedOwner file)
    (hlen : file.contents.length ≤ backend.limits.maxRecordBytes)
    (hu : record.username = u) (hm : record.recognizerModelSha256 = backend.recognizerModel)
    (he : encodeHowypln1 record = .ok file.contents) :
    loadRecord backend u (some file) json = .ok ⟨record, .howypln1⟩ := by
  have hkind : file.kind ≠ .symlink := by
    simp only [isRecordFile, Bool.and_eq_true, beq_iff_eq] at hfile
    rw [hfile.1.1]
    decide
  have hmagic : howypln1Magic <+: file.contents := by
    rw [encodeHowypln1_eq, Except.ok.injEq] at he
    rw [← he, Howypln1.headerBytes]
    exact List.prefix_append _ _
  have hpos : file.contents.length ≠ 0 := by
    have := hmagic.length_le
    have h8 : howypln1Magic.length = 8 := by decide
    omega
  have hread : readSource backend file = .ok file.contents := by
    simp only [readSource, bind_eq_ok, failIf_eq_ok, pure_eq_ok]
    exact ⟨(), hkind, (), fun h => h hfile, (), by omega, trivial⟩
  have hdecode : decodePlaintextRecord backend file.contents .bincodeThenJson u = .ok ⟨record, .howypln1⟩ := by
    rw [decodePlaintextRecord, if_pos hmagic, decodeHowypln1_eq_ok.mpr ⟨hu, hm, he⟩]
    rfl
  simp only [loadRecord, pure_bind, hread, bind_eq_ok, mapError_eq_ok]
  exact ⟨_, rfl, hdecode⟩

end Howy.Storage.Plaintext
