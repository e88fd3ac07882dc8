import Howy.Storage.Howyenc1Exact
import Howy.Storage.Plaintext

/-! Mode 0 sources of every format, with the deserializers of the legacy ones as arbitrary partial functions. -/

namespace Howy.Storage.Legacy

open Library Howypln1 Howyenc1Exact
open Plaintext (LegacySourceEncoding PlaintextRecordFormat DecodedPlaintextRecord)

structure FaceModel where
  label : String
  created : UInt64
  embedding : List UInt32

structure UserModels where
  username : String
  models : List FaceModel

structure Externals where
  sha256 : Bytes → FixedArray UInt8 32
  bincode : Bytes → Option UserModels
  json : Bytes → Option UserModels

def legacyIdDomain : Bytes := utf8Bytes "howy-legacy-id-v1\x00"
def legacyGenerationDomain : Bytes := utf8Bytes "howy-legacy-generation-v1\x00"

def u16OrMax (n : ℕ) : UInt16 := UInt16.ofNat (min n 65535)

variable {digest : FixedArray UInt8 32}

lemma length_take_digest : (digest.val.take 16).length = 16 := by
  rw [List.length_take, digest.property]
  rfl

lemma length_set_last {id : FixedArray UInt8 16} : (id.val.set 15 1).length = 16 := by
  rw [List.length_set, id.property]

def legacyIdFromDigestPrefix (id : FixedArray UInt8 16) : Except StorageError EnrollmentId :=
  EnrollmentId.new (if id = .filled 16 0 then ⟨id.val.set 15 1, length_set_last⟩ else id)

/-- The first of the four little-endian words that is not zero. -/
def generationFromDigest (digest : FixedArray UInt8 32) : UInt64 :=
  (([0, 8, 16, 24].map fun i => UInt64.ofNat (leValue ((digest.val.drop i).take 8))).find? (· ≠ 0)).getD 1

/-- `hashed` is what the hasher was given so far. -/
structure LegacyGenerationHasher where
  hashed : Bytes
  remaining : ℕ

namespace LegacyGenerationHasher

def new (exactSourceLength maximumSourceLength : ℕ) : Except StorageError LegacyGenerationHasher := do
  failIf (maximumSourceLength < exactSourceLength) (.invalidLength "legacy source")
  pure ⟨legacyGenerationDomain ++ leBytes 8 exactSourceLength, exactSourceLength⟩

def update (h : LegacyGenerationHasher) (bytes : Bytes) : Except StorageError LegacyGenerationHasher := do
  failIf (2 ^ 64 ≤ bytes.length) (.integerOverflow "legacy source length")
  failIf (h.remaining < bytes.length) (.invalidLength "legacy source")
  pure ⟨h.hashed ++ bytes, h.remaining - bytes.length⟩

def finish (E : Externals) (h : LegacyGenerationHasher) : Except StorageError UInt64 := do
  failIf (h.remaining ≠ 0) (.invalidLength "legacy source")
  pure (generationFromDigest (E.sha256 h.hashed))

/-- `update` on the hasher in place: what was assigned before a failure stays. -/
def updateInPlace (bytes : Bytes) : EStateM StorageError LegacyGenerationHasher Unit := do
  failIf (2 ^ 64 ≤ bytes.length) (StorageError.integerOverflow "legacy source length")
  let h ← get
  failIf (h.remaining < bytes.length) (StorageError.invalidLength "legacy source")
  set { h with remaining := h.remaining - bytes.length }
  modify fun h => { h with hashed := h.hashed ++ bytes }

/-- A caller that passes the chunks on and stops at the first failure. -/
def stream (E : Externals) (exactSourceLength maximumSourceLength : ℕ) (chunks : List Bytes) :
    Except StorageError UInt64 := do
  let hasher ← new exactSourceLength maximumSourceLength
  let hasher ← chunks.foldlM update hasher
  hasher.finish E

end LegacyGenerationHasher

def tryFromEmbeddingVec (id : EnrollmentId) (created : UInt64) (label : String) (embedding : List UInt32) :
    Except StorageError EnrollmentEntry :=
  if h : embedding.length = embeddingDimension then
    EnrollmentEntry.newZeroizingFields id created label ⟨embedding, h⟩
  else .error (.invalidEmbeddingDimension (u16OrMax embedding.length))

section

variable (E : Externals)

def legacyGeneration (bytes : Bytes) : Except StorageError UInt64 := do
  failIf (2 ^ 64 ≤ bytes.length) (.integerOverflow "legacy source length")
  let hasher ← LegacyGenerationHasher.new bytes.length bytes.length
  let hasher ← hasher.update bytes
  hasher.finish E

def legacyEnrollmentId (username : CanonicalUsername) (ordinal : ℕ) (created : UInt64) (label : String)
    (embedding : List UInt32) : Except StorageError EnrollmentId := do
  failIf (maxLabelBytes < (utf8Bytes label).length) (.limitExceeded "label")
  failIf (embedding.length ≠ embeddingDimension) (.invalidEmbeddingDimension (u16OrMax embedding.length))
  failIf (embedding.any (fun value => !isFinite value) = true) .nonFiniteEmbedding
  let digest :=
    E.sha256 (legacyIdDomain ++ leBytes 2 username.bytes.length ++ username.bytes ++ leBytes 4 ordinal ++
    leBytes 8 created.toNat ++ leBytes 2 (utf8Bytes label).length ++ utf8Bytes label ++
    leBytes 2 embeddingDimension ++
    embedding.flatMap leU32)
  legacyIdFromDigestPrefix ⟨digest.val.take 16, length_take_digest⟩

def legacyEntries (username : CanonicalUsername) : ℕ → List FaceModel → Except StorageError (List EnrollmentEntry)
  | _, [] => pure []
  | ordinal, model :: models => do
    failIf (2 ^ 32 ≤ ordinal) (.integerOverflow "legacy entry ordinal")
    let id ← legacyEnrollmentId E username ordinal model.created model.label model.embedding
    let entry ← tryFromEmbeddingVec id model.created model.label model.embedding
    let entries ← legacyEntries username (ordinal + 1) models
    pure (entry :: entries)

def legacyModels (bytes : Bytes) : LegacySourceEncoding → Except StorageError UserModels
  | .bincodeThenJson => do
    failIf (2 ^ 64 ≤ bytes.length) (.integerOverflow "legacy source length")
    okOr (E.bincode bytes <|> E.json bytes) .invalidLegacyRecord
  | .jsonOnly => okOr (E.json bytes) .invalidLegacyRecord

def decodeLegacy (encoding : LegacySourceEncoding) (bytes : Bytes) (username : CanonicalUsername)
    (model : ModelDigest) (configuredMaxEntries : ℕ) : Except StorageError EnrollmentRecord := do
  failIf (configuredMaxEntries = 0 ∨ maxEntries < configuredMaxEntries) (.limitExceeded "entry count")
  let legacy ← legacyModels E bytes encoding
  failIf (legacy.username ≠ username.name) (.bindingMismatch "username")
  failIf (configuredMaxEntries < legacy.models.length ∨ maxEntries < legacy.models.length)
    (.limitExceeded "entry count")
  let generation ← legacyGeneration E bytes
  let entries ← legacyEntries E username 0 legacy.models
  EnrollmentRecord.new generation model username entries

def decodePlaintextRecord (bytes : Bytes) (encoding : LegacySourceEncoding) (username : CanonicalUsername)
    (model : ModelDigest) (configuredMaxEntries : ℕ) : Except StorageError DecodedPlaintextRecord :=
  if howypln1Magic <+: bytes then (⟨·, .howypln1⟩) <$> decodeHowypln1 bytes username model
  else (⟨·, .legacy⟩) <$> decodeLegacy E encoding bytes username model configuredMaxEntries

end

lemma backend_decodePlaintextRecord (E : Externals) (backend : Plaintext.PlaintextStorageBackend) (bytes : Bytes)
    (encoding : LegacySourceEncoding) (username : CanonicalUsername) :
    Plaintext.decodePlaintextRecord { backend with legacy := decodeLegacy E } bytes encoding username =
      decodePlaintextRecord E bytes encoding username backend.recognizerModel backend.limits.maxEntries := rfl

def content (entry : EnrollmentEntry) : String × UInt64 × List UInt32 :=
  (entry.label, entry.createdUnixSeconds, entry.embedding.val)

variable {E : Externals} {bytes : Bytes} {encoding : LegacySourceEncoding} {u : CanonicalUsername}
  {m : ModelDigest} {k : ℕ} {record : EnrollmentRecord}

lemma tryFromEmbeddingVec_eq_ok {id : EnrollmentId} {created : UInt64} {label : String} {embedding : List UInt32}
    {entry : EnrollmentEntry} (h : tryFromEmbeddingVec id created label embedding = .ok entry) :
    content entry = (label, created, embedding) := by
  unfold tryFromEmbeddingVec at h
  split at h
  · obtain ⟨-, hcreated, hlabel, hembedding⟩ := EnrollmentEntry.newZeroizingFields_eq_ok.mp h
    rw [content, hcreated, hlabel, hembedding]
  · cases h

lemma legacyEntries_eq_ok {ordinal : ℕ} {models : List FaceModel} {entries : List EnrollmentEntry}
    (h : legacyEntries E u ordinal models = .ok entries) :
    entries.map content = models.map fun model => (model.label, model.created, model.embedding) := by
  induction models generalizing ordinal entries with
  | nil =>
    cases h
    rfl
  | cons model models ih =>
    simp only [legacyEntries, bind_eq_ok, pure_eq_ok] at h
    obtain ⟨-, -, id, -, entry, hentry, rest, hrest, rfl⟩ := h
    rw [List.map_cons, List.map_cons, tryFromEmbeddingVec_eq_ok hentry, ih hrest]

lemma decodeLegacy_eq_ok (h : decodeLegacy E encoding bytes u m k = .ok record) :
    record.username = u ∧ record.recognizerModelSha256 = m ∧ record.entries.length ≤ k ∧
      ∃ legacy, legacyModels E bytes encoding = .ok legacy ∧ legacy.username = u.name ∧
        record.entries.map content = legacy.models.map fun model =>
        (model.label, model.created, model.embedding) := by
  simp only [decodeLegacy, bind_eq_ok, failIf_eq_ok, not_not, not_or, EnrollmentRecord.new_eq_ok] at h
  obtain ⟨-, -, legacy, hmodels, -, hname, -, ⟨hk, -⟩, _, -, entries, hentries, -, hm, hu, rfl⟩ := h
  have hcontent := legacyEntries_eq_ok hentries
  refine ⟨hu, hm, ?_, legacy, hmodels, hname, hcontent⟩
  have hlength := congrArg List.length hcontent
  rw [List.length_map, List.length_map] at hlength
  omega

lemma map_ok {α β ε : Type} {f : α → β} {x : Except ε α} {b : β} (h : f <$> x = .ok b) :
    ∃ a, x = .ok a ∧ f a = b := by
  cases x with
  | error e => cases h
  | ok a => exact ⟨a, rfl, Except.ok.inj h⟩

/-- The entry count a HOWYPLN1 source states itself, behind its username and the payload's version and flags. -/
def sourceEntryCount (bytes : Bytes) : ℕ :=
  let usernameLength := leValue ((bytes.drop 52).take 2)
  leValue ((bytes.drop (howypln1FixedHeader + usernameLength + 4)).take 4)

lemma leValue_field {before after : Bytes} {start w n : ℕ} (hbefore : before.length = start) (hn : n < 256 ^ w) :
    leValue (((before ++ (leBytes w n ++ after)).drop start).take w) = n := by
  rw [List.drop_left' hbefore, List.take_left' (length_leBytes w n), leValue_leBytes hn]

lemma sourceEntryCount_eq (h : encodeHowypln1 record = .ok bytes) :
    sourceEntryCount bytes = record.entries.length := by
  obtain ⟨g, model, u, entries, _, hentries, _⟩ := record
  let front :=
    howypln1Magic ++ leBytes 2 Storage.formatVersion.toNat ++ leBytes 2 0 ++ leBytes 8 g.toNat ++ model.val
  have hfront : front.length = 52 := by
    simp only [front, List.length_append, length_leBytes, model.property]
    rfl
  have hbytes : bytes = front ++ (leBytes 2 u.bytes.length ++ (u.bytes ++ Storage.payloadBytes entries)) := by
    rw [encodeHowypln1_eq, Except.ok.injEq] at h
    simp only [← h, front, Howypln1.headerBytes, List.append_assoc]
  have hname : u.bytes.length < 256 ^ 2 := u.length_bytes.2.trans_lt (by decide)
  rw [sourceEntryCount, hbytes, leValue_field hfront hname]
  let payloadFront := leBytes 2 Storage.payloadVersion.toNat ++ leBytes 2 0
  have hsplit : front ++ (leBytes 2 u.bytes.length ++ (u.bytes ++ Storage.payloadBytes entries)) =
      (front ++ leBytes 2 u.bytes.length ++ u.bytes ++ payloadFront) ++
        (leBytes 4 entries.length ++ entries.flatMap Storage.encodeEntry) := by
    simp only [payloadFront, Storage.payloadBytes, List.append_assoc]
  rw [hsplit]
  refine leValue_field ?_ (hentries.trans_lt (by decide))
  simp only [payloadFront, List.length_append, length_leBytes, hfront]
  rfl

theorem plaintext_decoding_bound (E : Externals) (bytes : Bytes) (encoding : LegacySourceEncoding)
    (u : CanonicalUsername) (m : ModelDigest) (k : ℕ) :
    (howypln1Magic <+: bytes → ∀ E' encoding' k', decodePlaintextRecord E' bytes encoding' u m k' =
      decodePlaintextRecord E bytes encoding u m k) ∧
    ∀ decoded, decodePlaintextRecord E bytes encoding u m k = .ok decoded →
      decoded.record.username = u ∧ decoded.record.recognizerModelSha256 = m ∧ decoded.record.generation ≠ 0 ∧
      (decoded.record.entries.map (·.enrollmentId)).Nodup ∧
      (∀ entry ∈ decoded.record.entries, entry.enrollmentId.bytes ≠ .filled 16 0) ∧
      (decoded.record.entries.length ≤ k ↔ ¬ howypln1Magic <+: bytes ∨ sourceEntryCount bytes ≤ k) ∧
      (howypln1Magic <+: bytes → decoded.format = .howypln1 ∧ encodeHowypln1 decoded.record = .ok bytes) ∧
      (¬ howypln1Magic <+: bytes → decoded.format = .legacy ∧ decoded.record.entries.length ≤ k ∧
        ∃ legacy, legacyModels E bytes encoding = .ok legacy ∧ legacy.username = u.name ∧
          decoded.record.entries.map content =
            legacy.models.map fun model => (model.label, model.created, model.embedding)) := by
  constructor
  · intro hmagic E' encoding' k'
    rw [decodePlaintextRecord, decodePlaintextRecord, if_pos hmagic, if_pos hmagic]
  intro decoded h
  unfold decodePlaintextRecord at h
  split at h
  · rename_i hmagic
    obtain ⟨record, hr, rfl⟩ := map_ok h
    obtain ⟨hu, hm, he⟩ := decodeHowypln1_eq_ok.mp hr
    exact ⟨hu, hm, record.generation_ne_zero, record.nodup_ids, fun entry _ => entry.enrollmentId.nonzero,
      by simp only [sourceEntryCount_eq he, hmagic, not_true_eq_false, false_or], fun _ => ⟨rfl, he⟩,
      fun hn => absurd hmagic hn⟩
  · rename_i hmagic
    obtain ⟨record, hr, rfl⟩ := map_ok h
    obtain ⟨hu, hm, hk, hcontent⟩ := decodeLegacy_eq_ok hr
    exact ⟨hu, hm, record.generation_ne_zero, record.nodup_ids, fun entry _ => entry.enrollmentId.nonzero,
      iff_of_true hk (.inl hmagic), fun hn => absurd hn hmagic, fun _ => ⟨rfl, hk, hcontent⟩⟩

def sampleExternals : Externals where
  sha256 _ := .filled 32 1
  bincode _ := none
  json _ := some ⟨"alice", [⟨"glasses", 7, List.replicate 512 0⟩]⟩

/-- A record whose HOWYPLN1 source states two entries. -/
def sampleRecord : EnrollmentRecord :=
  ⟨1, .filled 32 7, alice, [zeroEntry 1 glasses, zeroEntry 2 hat], aliceRecord.generation_ne_zero, by decide,
    by decide +kernel⟩

def sampleSource : Bytes :=
  Howypln1.headerBytes sampleRecord.generation sampleRecord.recognizerModelSha256 sampleRecord.username ++
    Storage.payloadBytes sampleRecord.entries

lemma encodeHowypln1_sample : encodeHowypln1 sampleRecord = .ok sampleSource := encodeHowypln1_eq sampleRecord

lemma decodePlaintextRecord_sample (k : ℕ) :
    decodePlaintextRecord sampleExternals sampleSource .bincodeThenJson alice (.filled 32 7) k =
      .ok ⟨sampleRecord, .howypln1⟩ := by
  have hdecoded : decodeHowypln1 sampleSource alice (.filled 32 7) = .ok sampleRecord :=
    decodeHowypln1_eq_ok.mpr ⟨rfl, rfl, encodeHowypln1_sample⟩
  have hmagic : howypln1Magic <+: sampleSource := List.prefix_append _ _
  rw [decodePlaintextRecord, if_pos hmagic, hdecoded]
  rfl

theorem plaintext_decoding_bound_sample :
    (∃ decoded, decodePlaintextRecord sampleExternals [91] .bincodeThenJson alice (.filled 32 7) 1 =
        .ok decoded ∧ decoded.format = .legacy ∧
      decoded.record.entries.map content = [("glasses", 7, List.replicate 512 0)]) ∧
    ∃ decoded, decodePlaintextRecord sampleExternals sampleSource .bincodeThenJson alice (.filled 32 7) 2 =
      .ok decoded ∧ sourceEntryCount sampleSource ≤ 2 ∧ decoded.record.entries.length ≤ 2 := by
  constructor
  · have hsome : (decodePlaintextRecord sampleExternals [91] .bincodeThenJson alice (.filled 32 7) 1).isOk =
        true := by decide +kernel
    obtain ⟨decoded, hd⟩ := exists_of_isOk hsome
    obtain ⟨-, -, -, -, -, -, -, hlegacy⟩ := (plaintext_decoding_bound sampleExternals _ _ _ _ _).2 decoded hd
    obtain ⟨hformat, -, legacy, hmodels, -, hcontent⟩ := hlegacy (by decide)
    cases hmodels
    exact ⟨decoded, hd, hformat, hcontent⟩
  · have hd := decodePlaintextRecord_sample 2
    have hcount : sourceEntryCount sampleSource ≤ 2 := (sourceEntryCount_eq encodeHowypln1_sample).le
    obtain ⟨-, -, -, -, -, hbound, -⟩ := (plaintext_decoding_bound sampleExternals _ _ _ _ _).2 _ hd
    exact ⟨_, hd, hcount, hbound.mpr (.inr hcount)⟩

/-- The limit is not compared with the entries of a HOWYPLN1 source. -/
theorem howypln1_source_over_limit :
    encodeHowypln1 sampleRecord = .ok sampleSource ∧ sampleRecord.entries.length = 2 ∧
      decodePlaintextRecord sampleExternals sampleSource .bincodeThenJson alice (.filled 32 7) 1 =
        .ok ⟨sampleRecord, .howypln1⟩ :=
  ⟨encodeHowypln1_sample, rfl, decodePlaintextRecord_sample 1⟩

open LegacyGenerationHasher

lemma updateInPlace_run (h : LegacyGenerationHasher) (bytes : Bytes) :
    (∃ h', h.update bytes = .ok h' ∧ (updateInPlace bytes).run h = .ok () h') ∨
      ∃ e, h.update bytes = .error e ∧ (updateInPlace bytes).run h = .error e h := by
  unfold updateInPlace update failIf
  by_cases hr : h.remaining < bytes.length
  · split
    · exact .inr ⟨_, rfl, rfl⟩
    · exact .inr ⟨_, rfl, by simp [hr]⟩
  · split
    · exact .inr ⟨_, rfl, rfl⟩
    · exact .inl ⟨_, rfl, by simp [hr]⟩

lemma updates_eq_ok {chunks : List Bytes} {h h' : LegacyGenerationHasher} (hr : h.remaining < 2 ^ 64) :
    chunks.foldlM update h = .ok h' ↔ chunks.flatten.length ≤ h.remaining ∧
      h' = ⟨h.hashed ++ chunks.flatten, h.remaining - chunks.flatten.length⟩ := by
  induction chunks generalizing h with
  | nil =>
    rw [List.foldlM_nil, pure_eq_ok, List.flatten_nil]
    simp [eq_comm]
  | cons chunk chunks ih =>
    simp only [List.foldlM_cons, update, bind_eq_ok, failIf_eq_ok, pure_eq_ok, not_le, not_lt, exists_const,
      List.flatten_cons, List.length_append]
    constructor
    · rintro ⟨_, ⟨-, hle, rfl⟩, h⟩
      obtain ⟨hrest, rfl⟩ := (ih ((Nat.sub_le ..).trans_lt hr)).mp h
      exact ⟨by dsimp only at hrest; omega, by rw [List.append_assoc, Nat.sub_sub]⟩
    · rintro ⟨hle, rfl⟩
      refine ⟨_, ⟨by omega, by omega, rfl⟩, (ih ((Nat.sub_le ..).trans_lt hr)).mpr ⟨by dsimp only; omega, ?_⟩⟩
      rw [List.append_assoc, Nat.sub_sub]

lemma generationFromDigest_ne_zero : generationFromDigest digest ≠ 0 := by
  unfold generationFromDigest
  generalize List.map _ _ = words
  cases h : words.find? (· ≠ 0) with
  | none => decide
  | some word => simpa using List.find?_some h

lemma stream_eq_ok {n : ℕ} {g : UInt64} (chunks : List Bytes) (hk : k < 2 ^ 64) (hn : n ≤ k) :
    stream E n k chunks = .ok g ↔ n = chunks.flatten.length ∧
      generationFromDigest (E.sha256 (legacyGenerationDomain ++ leBytes 8 n ++ chunks.flatten)) = g := by
  simp only [stream, new, LegacyGenerationHasher.finish, bind_eq_ok, failIf_eq_ok, pure_eq_ok, not_lt,
    not_not, exists_const]
  constructor
  · rintro ⟨_, ⟨-, rfl⟩, _, hu, hzero, hg⟩
    obtain ⟨hle, rfl⟩ := (updates_eq_ok (hn.trans_lt hk)).mp hu
    exact ⟨le_antisymm (Nat.sub_eq_zero_iff_le.mp hzero) hle, hg⟩
  · rintro ⟨hlen, hg⟩
    exact ⟨_, ⟨hn, rfl⟩, _, (updates_eq_ok (hn.trans_lt hk)).mpr ⟨hlen.ge, rfl⟩, Nat.sub_eq_zero_of_le hlen.le, hg⟩

lemma legacyGeneration_eq_stream {s : Bytes} (h : s.length < 2 ^ 64) :
    legacyGeneration E s = stream E s.length s.length [s] := by
  simp only [legacyGeneration, stream, failIf, if_neg (not_le.mpr h), pure_bind, List.foldlM_cons, List.foldlM_nil,
    bind_pure]

theorem streamed_legacy_generation (E : Externals) (s : Bytes) (n max : UInt64) (hn : n ≤ max)
    (chunks : List Bytes) (hs : chunks.flatten = s) :
    ((∃ g, stream E n.toNat max.toNat chunks = .ok g) ↔ n.toNat = s.length) ∧
    (∀ g, stream E n.toNat max.toNat chunks = .ok g → legacyGeneration E s = .ok g ∧ g ≠ 0) ∧
    ∀ h bytes e h', (updateInPlace bytes).run h = .error e h' → h' = h := by
  subst hs
  have hstream {g} := stream_eq_ok (E := E) (g := g) chunks max.toNat_lt (UInt64.le_iff_toNat_le.mp hn)
  refine ⟨⟨fun ⟨g, hg⟩ => (hstream.mp hg).1, fun hlen => ⟨_, hstream.mpr ⟨hlen, rfl⟩⟩⟩, fun g hg => ?_,
    fun h bytes e h' he => ?_⟩
  · obtain ⟨hlen, rfl⟩ := hstream.mp hg
    have hlt := n.toNat_lt
    refine ⟨?_, generationFromDigest_ne_zero⟩
    rw [hlen] at hlt
    rw [legacyGeneration_eq_stream hlt, stream_eq_ok _ hlt le_rfl, hlen]
    simp
  · rcases updateInPlace_run h bytes with ⟨_, -, hrun⟩ | ⟨_, -, hrun⟩
    · cases hrun.symm.trans he
    · cases hrun.symm.trans he
      rfl

theorem streamed_legacy_generation_sample :
    (∃ g, stream sampleExternals 3 4 [[1], [], [2, 3]] = .ok g) ∧
      ¬ ∃ g, stream sampleExternals 4 4 [[1], [], [2, 3]] = .ok g :=
  ⟨(streamed_legacy_generation sampleExternals [1, 2, 3] 3 4 (by decide) [[1], [], [2, 3]] rfl).1.mpr rfl,
    (streamed_legacy_generation sampleExternals [1, 2, 3] 4 4 (by decide) [[1], [], [2, 3]] rfl).1.not.mpr
    (by decide)⟩

end Howy.Storage.Legacy
