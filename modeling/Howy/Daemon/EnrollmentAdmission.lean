import Howy.Daemon.Batch
import Howy.Daemon.Usability
import Howy.Storage.Mode1Requests

/-! How the server admits a batch enrollment before it has seen an image, next to the append that the images end
in. -/

namespace Howy.Daemon.EnrollmentAdmission

open Library Storage Howyenc1Exact Budget Mode1 Usability

variable {n : ℕ} {found : Option EnrollmentRecord} {permit : BudgetPermit}

lemma pos_of_entryCount (h : ¬ (n = 0 ∨ maxEntries < n)) : 0 < n := Nat.pos_of_ne_zero fun h0 => h (.inl h0)

lemma le_of_entryCount (h : ¬ (n = 0 ∨ maxEntries < n)) : n ≤ maxEntries := Nat.le_of_not_lt fun hn => h (.inr hn)

lemma le_of_labelBytes {bytes : ℕ} (h : ¬ n * maxLabelBytes < bytes) : bytes ≤ n * maxLabelBytes :=
  Nat.le_of_not_lt h

/-- `AppendAdmissionShape::new`; with so few entries the product does not overflow. -/
def AppendAdmissionShape.new (maxNewEntries maxNewLabelBytes : ℕ) : BackendResult AppendAdmissionShape :=
  if he : maxNewEntries = 0 ∨ maxEntries < maxNewEntries then .error (.invalidInput "admitted append entry count")
  else if hl : maxNewEntries * maxLabelBytes < maxNewLabelBytes then
    .error (.invalidInput "admitted append label bytes")
  else .ok ⟨maxNewEntries, maxNewLabelBytes, pos_of_entryCount he, le_of_entryCount he, le_of_labelBytes hl⟩

def enrollmentPlaintextBytes (entryCapacity labelBytes transientEmbeddings : ℕ) : BackendResult ℕ := do
  let retained ← invalid (checkedMul entryCapacity (min (enrollmentEntrySize + labelBytes) (2 ^ 64 - 1)))
    "enrollment plaintext bytes"
  let transient ← invalid ((checkedMul transientEmbeddings embeddingDimension).bind (checkedMul · 4))
    "enrollment plaintext bytes"
  invalid (checkedAdd retained transient) "enrollment plaintext bytes"

def batchEnrollmentPlaintextBytes (labelBytes : ℕ) : BackendResult ℕ := do
  let bytes ← enrollmentPlaintextBytes maxBatchFiles labelBytes 1
  invalid ((checkedAdd bytes maxBatchTotalEncodedBytes).bind (checkedAdd · maxBatchDecodedBytesPerFile))
    "batch reservation"

inductive Refusal where
  | labelTooLong
  | storage (e : StorageBackendError)
deriving DecidableEq

structure Admitted where
  username : CanonicalUsername
  initial : UInt64 × ℕ
  admission : EnrollmentAdmission
deriving DecidableEq

def storageRefusal {α : Type} (x : BackendResult α) : Except Refusal α := x.mapError .storage

@[simp] lemma storageRefusal_eq_ok {α : Type} {x : BackendResult α} {a : α} :
    storageRefusal x = .ok a ↔ x = .ok a := mapError_eq_ok

variable (backend : Mode1StorageBackend) (budget : PlaintextBudget) (u : CanonicalUsername)
  (active : Option FileNode)

def listMetadata : BackendResult MetadataList :=
  (Mode1StorageBackend.loadRecord backend budget u active).map fun loaded => MetadataList.fromRecord loaded.record

def currentStorageState : BackendResult (UInt64 × ℕ) :=
  match listMetadata backend budget u active with
  | .ok list => .ok (list.generation, list.entries.length)
  | .error .absent => .ok (absentGeneration, 0)
  | .error e => .error e

def reserveEnrollment (operationBytes plaintextBytes : ℕ) : BackendResult EnrollmentAdmission :=
  match (budget.reserveEnrollment operationBytes plaintextBytes).2 with
  | .refused e => .error e
  | _ => .ok ⟨⟨operationBytes, true⟩, ⟨plaintextBytes, true⟩⟩

/-- `admit_enrollment`, with nothing that fails, an empty cache and no other admission of this user. -/
def admitEnrollment (plaintextBytes : ℕ) (shape : AppendAdmissionShape) :
    BackendResult EnrollmentAdmission := do
  let inspected ← inspectNode backend u active
  let estimate ← admittedAppendEstimate backend inspected shape
  reserveEnrollment budget estimate.mutationPeakBytes plaintextBytes

def withEnrollmentAdmission (label : String) (plaintextBytes : ℕ) (shape : AppendAdmissionShape) :
    Except Refusal Admitted := do
  failIf (maxLabelBytes < (utf8Bytes label).length) .labelTooLong
  let initial ← storageRefusal (currentStorageState backend budget u active)
  let admission ← storageRefusal (admitEnrollment backend budget u active plaintextBytes shape)
  pure ⟨u, initial, admission⟩

/-- `handle_batch_enrollment_with` up to the call of `execute`. -/
def handleBatchEnrollmentWith (label : String) : Except Refusal Admitted := do
  let batchPlaintextBytes ← storageRefusal (batchEnrollmentPlaintextBytes (utf8Bytes label).length)
  let maximumLabelBytes ← storageRefusal
    (invalid (checkedMul (utf8Bytes label).length maxBatchFiles) "label bytes")
  let shape ← storageRefusal (AppendAdmissionShape.new maxBatchFiles maximumLabelBytes)
  withEnrollmentAdmission backend budget u active label batchPlaintextBytes shape

def loadOptional (inspected : Option InspectedRecord) (permit : BudgetPermit) :
    BackendResult (Option EnrollmentRecord) :=
  match inspected with
  | none => .ok none
  | some inspected => do
    let loaded ← decryptFile backend u inspected.file inspected.header permit
    pure (some loaded.record)

def prepareAppend (request : AppendRequest) (inspected : Option InspectedRecord) (operation : BudgetPermit) :
    BackendResult EnrollmentRecord := do
  let estimate ← appendEstimate backend inspected request.entries
  failIf (operation.owned = false ∨ operation.bytes < estimate.mutationPeakBytes)
    (.invalidInput "append operation reservation")
  let loaded ← loadOptional backend request.username inspected operation
  failIf (loaded.elim absentGeneration (·.generation) ≠ request.expectedGeneration)
    (.conflict (loaded.elim absentGeneration (·.generation)))
  let total ← invalid (checkedAdd (entriesOf loaded).length request.entries.length) "entry count"
  failIf (backend.limits.maxEntries < total) (.invalidInput "entry count")
  let generation ← loaded.elim (.ok 1) fun record =>
    (checkedNextGeneration record.generation).mapError mapStorageError
  let record ← (EnrollmentRecord.new generation backend.recognizerModel request.username
    (entriesOf loaded ++ request.entries)).mapError mapMutationRecordError
  let _ ← AuthModel.fromRecord record
  pure record

def planAppend (request : AppendRequest) : BackendResult EnrollmentRecord := do
  let inspected ← inspectNode backend request.username active
  failIf (inspectedGeneration inspected ≠ request.expectedGeneration) (.conflict (inspectedGeneration inspected))
  let estimate ← appendEstimate backend inspected request.entries
  let operation ← reserveOperation budget estimate.mutationPeakBytes
  prepareAppend backend request inspected operation

def sealRecord (record : EnrollmentRecord) (nonce : GcmNonce) : BackendResult Bytes := do
  let bytes ← (encodeHowyenc1WithNonce backend.gcm record .aeadCached backend.keyEpoch backend.key nonce).mapError
    mapWriteStorageError
  failIf (howyenc1MaxRecordBytes < bytes.length) (.invalidInput "record byte length")
  pure bytes

def append (request : AppendRequest) (nonce : GcmNonce) : BackendResult (EnrollmentRecord × Bytes) := do
  let record ← planAppend backend budget active request
  let bytes ← sealRecord backend record nonce
  pure (record, bytes)

def currentRecord : Option EnrollmentRecord := active.bind (recordIn backend u)

def batchBytes (labelBytes : ℕ) : ℕ :=
  maxBatchFiles * (enrollmentEntrySize + labelBytes) + embeddingDimension * 4 + maxBatchTotalEncodedBytes +
    maxBatchDecodedBytesPerFile

structure RoomForBatch (label : String) : Prop where
  entries : (entriesOf (currentRecord backend u active)).length + maxBatchFiles ≤ backend.limits.maxEntries
  payload : 8 + 2076 * ((entriesOf (currentRecord backend u active)).length + maxBatchFiles) +
    (labelBytes (entriesOf (currentRecord backend u active)) + maxBatchFiles * (utf8Bytes label).length) ≤
      backend.limits.maxPlaintextBytes
  memory : appendPeakBytes (entriesOf (currentRecord backend u active)) maxBatchFiles
      (maxBatchFiles * (utf8Bytes label).length) + batchBytes (utf8Bytes label).length ≤ budget.limit

section

variable {backend budget u active} {label : String} {request : AppendRequest} {nonce : GcmNonce}
  {record : EnrollmentRecord} {bytes : Bytes}

structure Unused (budget : PlaintextBudget) : Prop where
  used : budget.used = 0
  limit_lt : budget.limit < 2 ^ 64

lemma Unused.reserveOperation (h : Unused budget) :
    reserveOperation budget n = .ok permit ↔ n ≠ 0 ∧ n ≤ budget.limit ∧ permit = ⟨n, true⟩ := by
  rw [Daemon.reserveOperation, PlaintextBudget.reserve]
  by_cases hn : n = 0
  · simp [PlaintextBudget.reserveFor, hn]
  rw [reserveFor_unused h.used h.limit_lt hn]
  by_cases hle : budget.limit < n
  · simp [hle]
  · simp [hle, hn, Nat.le_of_not_lt hle, eq_comm]

lemma Unused.reserveEnrollment (h : Unused budget) {m : ℕ} (hn : n ≠ 0) (hm : m ≠ 0) :
    (∃ admission, reserveEnrollment budget n m = .ok admission) ↔ n + m ≤ budget.limit := by
  have hlimit := h.limit_lt
  rw [EnrollmentAdmission.reserveEnrollment, PlaintextBudget.reserveEnrollment, if_neg (by omega), checkedAdd]
  by_cases hlt : n + m < 2 ^ 64
  · simp only [hlt, if_true]
    rw [reserveFor_unused h.used h.limit_lt (by omega)]
    by_cases hle : budget.limit < n + m
    · simp [hle]
    · simp [hle, Nat.le_of_not_lt hle]
  · have hle : ¬ n + m ≤ budget.limit := by omega
    simp only [hlt, if_false, hle, iff_false, not_exists]
    intro _ h
    cases h

inductive Found (backend : Mode1StorageBackend) (limit : ℕ) (u : CanonicalUsername) :
    Option FileNode → Option EnrollmentRecord → Prop where
  | absent : Found backend limit u none none
  | present {file : FileNode} {header : EncryptedHeader} {record : EnrollmentRecord}
      (inspects : Inspects backend u file header) (holds : recordIn backend u file = some record)
      (fits : coldBytes record.entries.length (labelBytes record.entries) ≤ limit) :
      Found backend limit u (some file) (some record)

lemma found_of_append (h : Unused budget) (happend : append backend budget active request nonce =
    .ok (record, bytes)) : Found backend budget.limit request.username active
    (currentRecord backend request.username active) := by
  simp only [append, planAppend, prepareAppend, bind_eq_ok, h.reserveOperation] at happend
  obtain ⟨_, ⟨inspected, hinspect, -, -, estimate, -, _, ⟨-, hlimit, rfl⟩, -, -, -, -, loaded, hload, -⟩, -⟩ :=
    happend
  obtain ⟨rfl, rfl⟩ | ⟨file, header, rfl, hi, rfl⟩ := (inspectNode_eq_ok backend).mp hinspect
  · exact .absent
  simp only [loadOptional, bind_eq_ok, pure_eq_ok] at hload
  obtain ⟨loaded, hdecrypt, rfl⟩ := hload
  have hr : recordIn backend request.username file = some loaded.record := decryptFile_eq_ok backend hdecrypt
  obtain ⟨nonce', rfl⟩ := header_eq backend hi hr
  simp only [decryptFile, inspectedRecord, forEncryptedHeader_eq, ok_bind, bind_eq_ok, failIf_eq_ok, not_or,
    not_lt] at hdecrypt
  obtain ⟨-, ⟨-, hcold⟩, -⟩ := hdecrypt
  rw [currentRecord, Option.bind_some, hr]
  exact .present hi hr (hcold.trans hlimit)

lemma Found.inspected (h : Found backend budget.limit u active found) :
    ∃ inspected nonce, inspectNode backend u active = .ok inspected ∧
      inspected.map (·.header) = found.map (headerOf · .aeadCached backend.keyEpoch nonce) := by
  cases h with
  | absent => exact ⟨none, .filled 12 0, rfl, rfl⟩
  | present hi hr hcold =>
    obtain ⟨nonce, rfl⟩ := header_eq backend hi hr
    exact ⟨_, nonce, (inspectNode_eq_ok backend).mpr (.inr ⟨_, _, rfl, hi, rfl⟩), rfl⟩

lemma decryptFile_present {file : FileNode} (hr : recordIn backend u file = some record) (howned : permit.owned)
    (hcold : coldBytes record.entries.length (labelBytes record.entries) ≤ permit.bytes) :
    decryptFile backend u file (headerOf record .aeadCached backend.keyEpoch nonce) permit =
    .ok ⟨record, permit⟩ := by
  obtain ⟨rfl, hmodel, hseals⟩ := (recordIn_eq_some backend).mp hr
  have hdecode : decodeHowyenc1 backend.gcm file.contents backend.key .aeadCached backend.keyEpoch record.username
      backend.recognizerModel = .ok record := decodeHowyenc1_eq_ok.mpr ⟨rfl, hmodel, hseals⟩
  simp only [decryptFile, forEncryptedHeader_eq, ok_bind, bind_eq_ok, failIf_eq_ok, mapError_eq_ok]
  refine ⟨(), ?_, record, hdecode, rfl⟩
  rintro (h | h)
  · rw [howned] at h
    cases h
  · exact absurd h (Nat.not_lt.mpr hcold)

lemma coldBytes_ne_zero {count labels : ℕ} : coldBytes count labels ≠ 0 := by
  rw [coldBytes]
  omega

lemma Found.currentStorageState (hunused : Unused budget) (h : Found backend budget.limit u active found) :
    ∃ initial, currentStorageState backend budget u active = .ok initial := by
  cases h with
  | absent => exact ⟨_, rfl⟩
  | @present file header record hi hr hcold =>
    obtain ⟨nonce, rfl⟩ := header_eq backend hi hr
    have hinspect : inspectNode backend u (some file) = .ok (some _) :=
      (inspectNode_eq_ok backend).mpr (.inr ⟨_, _, rfl, hi, rfl⟩)
    have hreserve : reserveOperation budget (coldBytes record.entries.length (labelBytes record.entries)) =
        .ok ⟨coldBytes record.entries.length (labelBytes record.entries), true⟩ :=
      hunused.reserveOperation.mpr ⟨coldBytes_ne_zero, hcold, rfl⟩
    have hlist : listMetadata backend budget u (some file) = .ok (MetadataList.fromRecord record) := by
      rw [listMetadata, Mode1StorageBackend.loadRecord, hinspect, ok_bind]
      simp only [inspectedRecord, forEncryptedHeader_eq, ok_bind]
      rw [show (shapeEstimate record.entries.length (labelBytes record.entries)).coldLoadPeakBytes =
        coldBytes record.entries.length (labelBytes record.entries) from rfl, hreserve, ok_bind,
        decryptFile_present hr rfl le_rfl]
      rfl
    rw [EnrollmentAdmission.currentStorageState, hlist]
    exact ⟨_, rfl⟩

def batchShape (label : String) (hl : (utf8Bytes label).length ≤ maxLabelBytes) : AppendAdmissionShape where
  maxNewEntries := maxBatchFiles
  maxNewLabelBytes := maxBatchFiles * (utf8Bytes label).length
  maxNewEntries_pos := by decide
  maxNewEntries_le := by decide
  maxNewLabelBytes_le := Nat.mul_le_mul_left _ hl

lemma batchEnrollmentPlaintextBytes_eq (hn : n ≤ maxLabelBytes) :
    batchEnrollmentPlaintextBytes n = .ok (batchBytes n) := by
  have h₁ : maxLabelBytes = 256 := rfl
  have h₂ : maxBatchFiles = 256 := rfl
  have h₃ : enrollmentEntrySize = 2088 := rfl
  have h₄ : embeddingDimension = 512 := rfl
  have h₅ : maxBatchTotalEncodedBytes = 67108864 := rfl
  have h₆ : maxBatchDecodedBytesPerFile = 33554432 := rfl
  have hmin : min (2088 + n) (2 ^ 64 - 1) = 2088 + n := by omega
  simp only [batchEnrollmentPlaintextBytes, enrollmentPlaintextBytes, bind_eq_ok, invalid_eq_ok,
    Option.bind_eq_some_iff, checkedMul_eq_some, checkedAdd_eq_some, h₂, h₃, h₄, h₅, h₆, hmin, batchBytes]
  exact ⟨_, ⟨_, ⟨by omega, rfl⟩, _, ⟨_, ⟨by omega, rfl⟩, by omega, rfl⟩, by omega, rfl⟩, _,
    ⟨by omega, rfl⟩, by omega, by omega⟩

lemma admittedAppendEstimate_iff {inspected : Option InspectedRecord}
    (hheader : inspected.map (·.header) = found.map (headerOf · .aeadCached backend.keyEpoch nonce))
    (hl : (utf8Bytes label).length ≤ maxLabelBytes) {peak : ℕ} :
    (∃ estimate, admittedAppendEstimate backend inspected (batchShape label hl) = .ok estimate ∧
        estimate.mutationPeakBytes = peak) ↔
      (entriesOf found).length + maxBatchFiles ≤ backend.limits.maxEntries ∧
      8 + 2076 * ((entriesOf found).length + maxBatchFiles) +
        (labelBytes (entriesOf found) + maxBatchFiles * (utf8Bytes label).length) ≤
        backend.limits.maxPlaintextBytes ∧
      appendPeakBytes (entriesOf found) maxBatchFiles (maxBatchFiles * (utf8Bytes label).length) = peak := by
  have hcount : inspected.elim 0 (·.header.entryCount.toNat) = (entriesOf found).length := by
    rw [← elim_entryCount found .aeadCached backend.keyEpoch nonce, ← hheader]
    cases inspected <;> rfl
  have hentries := backend.limits.maxEntries_le
  have hbytes := backend.limits.maxPlaintextBytes_le
  have hmax : Storage.maxEntries = 1000 := rfl
  have hmax' : Storage.maxPlaintextBytes = 2621440 := rfl
  simp only [admittedAppendEstimate, bind_eq_ok, failIf_eq_ok, pure_eq_ok, not_or, not_lt, hheader, hcount]
  constructor
  · rintro ⟨_, ⟨estimate, hshape, _, ⟨hfull, hpayload⟩, rfl⟩, rfl⟩
    have hencoded := encoded_forAppendShape hshape
    rw [elim_plaintextLength, show canonicalEntryFixedBytes = 2076 from rfl] at hencoded
    obtain rfl := Except.ok.inj (hshape.symm.trans (forAppendShape_eq found .aeadCached backend.keyEpoch nonce
      (by decide : maxBatchFiles ≠ 0) (Nat.mul_le_mul_left maxBatchFiles hl) (by omega) (by omega)))
    exact ⟨hfull, hpayload, rfl⟩
  · rintro ⟨hfull, hpayload, rfl⟩
    have hshape := forAppendShape_eq found .aeadCached backend.keyEpoch nonce (by decide : maxBatchFiles ≠ 0)
      (Nat.mul_le_mul_left maxBatchFiles hl) (by omega) (by omega)
    exact ⟨_, ⟨_, hshape, (), ⟨hfull, hpayload⟩, rfl⟩, rfl⟩

lemma admitEnrollment_iff (hunused : Unused budget)
    (h : Found backend budget.limit u active (currentRecord backend u active))
    (hl : (utf8Bytes label).length ≤ maxLabelBytes) :
    (∃ admission, admitEnrollment backend budget u active (batchBytes (utf8Bytes label).length)
      (batchShape label hl) = .ok admission) ↔ RoomForBatch backend budget u active label := by
  obtain ⟨inspected, nonce, hinspect, hheader⟩ := h.inspected
  have hpeak : ∀ entries labels, appendPeakBytes entries maxBatchFiles labels ≠ 0 := by
    intro entries labels
    rw [appendPeakBytes]
    omega
  have hbatch : batchBytes (utf8Bytes label).length ≠ 0 := by
    have : maxBatchTotalEncodedBytes = 67108864 := rfl
    rw [batchBytes]
    omega
  constructor
  · rintro ⟨admission, hadmit⟩
    rw [admitEnrollment, hinspect, ok_bind, bind_eq_ok] at hadmit
    obtain ⟨estimate, hestimate, hreserve⟩ := hadmit
    obtain ⟨hfull, hpayload, hmutation⟩ := (admittedAppendEstimate_iff hheader hl).mp ⟨estimate, hestimate, rfl⟩
    rw [← hmutation] at hreserve
    exact ⟨hfull, hpayload, (hunused.reserveEnrollment (hpeak _ _) hbatch).mp ⟨_, hreserve⟩⟩
  · rintro ⟨hfull, hpayload, hmemory⟩
    obtain ⟨estimate, hestimate, hmutation⟩ := (admittedAppendEstimate_iff hheader hl).mpr ⟨hfull, hpayload, rfl⟩
    obtain ⟨admission, hreserve⟩ := (hunused.reserveEnrollment (hpeak _ _) hbatch).mpr hmemory
    refine ⟨admission, ?_⟩
    rw [admitEnrollment, hinspect, ok_bind, bind_eq_ok]
    exact ⟨estimate, hestimate, hmutation ▸ hreserve⟩

lemma shape_new_eq (hl : (utf8Bytes label).length ≤ maxLabelBytes) :
    AppendAdmissionShape.new maxBatchFiles (maxBatchFiles * (utf8Bytes label).length) =
    .ok (batchShape label hl) := by
  have hle : maxBatchFiles * (utf8Bytes label).length ≤ maxBatchFiles * maxLabelBytes := Nat.mul_le_mul_left _ hl
  rw [AppendAdmissionShape.new, dif_neg (by decide), dif_neg (by omega)]
  rfl

end

/-- When the images could be appended, the server admits them exactly if it has room for the largest batch. -/
theorem batch_admitted_iff_room_for_batch (backend : Mode1StorageBackend) (budget : PlaintextBudget)
    (active : Option FileNode) (label : String) (request : AppendRequest) (nonce : GcmNonce)
    (result : EnrollmentRecord × Bytes) (hlimit : budget.limit < 2 ^ 64) (hunused : budget.used = 0)
    (hlabel : ∀ entry ∈ request.entries, entry.label = label)
    (happend : append backend budget active request nonce = .ok result) :
    (∃ admitted, handleBatchEnrollmentWith backend budget request.username active label = .ok admitted) ↔
      RoomForBatch backend budget request.username active label := by
  have hidle : Unused budget := ⟨hunused, hlimit⟩
  have hfound := found_of_append hidle happend
  obtain ⟨initial, hinitial⟩ := hfound.currentStorageState hidle
  have hl : (utf8Bytes label).length ≤ maxLabelBytes := by
    obtain ⟨entry, hentry⟩ := List.exists_mem_of_ne_nil _ request.entries_ne_nil
    exact hlabel entry hentry ▸ entry.label_le
  have hbound : maxLabelBytes = 256 := rfl
  have hfiles : maxBatchFiles = 256 := rfl
  have hmul : checkedMul (utf8Bytes label).length maxBatchFiles =
      some (maxBatchFiles * (utf8Bytes label).length) :=
    checkedMul_eq_some.mpr ⟨by rw [hfiles]; omega, Nat.mul_comm _ _⟩
  rw [← admitEnrollment_iff hidle hfound hl]
  simp only [handleBatchEnrollmentWith, withEnrollmentAdmission, bind_eq_ok, storageRefusal_eq_ok, invalid_eq_ok,
    failIf_eq_ok, pure_eq_ok, batchEnrollmentPlaintextBytes_eq hl, hmul, hinitial, Except.ok.injEq,
    Option.some.injEq]
  constructor
  · rintro ⟨_, _, rfl, _, rfl, shape, hshape, _, -, _, rfl, admission, hadmit, -⟩
    obtain rfl : batchShape label hl = shape := Except.ok.inj ((shape_new_eq hl).symm.trans hshape)
    exact ⟨admission, hadmit⟩
  · rintro ⟨admission, hadmit⟩
    exact ⟨_, _, rfl, _, rfl, _, shape_new_eq hl, (), Nat.not_lt.mpr hl, _, rfl, admission, hadmit, rfl⟩

def sampleEntry : EnrollmentEntry := zeroEntry 0 ⟨"", by decide⟩

def sampleRequest : AppendRequest := ⟨shortName, absentGeneration, [sampleEntry], by simp⟩

def backendFor (maxEntries : ℕ) (h0 : 0 < maxEntries) (hle : maxEntries ≤ Storage.maxEntries) :
    Mode1StorageBackend where
  gcm := sampleExternals.gcm
  key := .filled 32 5
  keyEpoch := 1
  keyEpoch_ne_zero := aliceRecord.generation_ne_zero
  recognizerModel := .filled 32 7
  expectedOwner := productionOwner
  limits := ⟨maxEntries, 2621440, h0, hle, by decide, by decide⟩
  cacheLimits := ⟨32, 33554432, by decide, by decide, by decide, by decide⟩
  backendIdentity := .filled 32 1

theorem batch_admitted_iff_room_for_batch_first_image :
    ∃ admitted, handleBatchEnrollmentWith (backendFor 1000 (by decide) le_rfl) (opened 268435456)
      shortName none "" = .ok admitted := by
  obtain ⟨result, happend⟩ : ∃ result, append (backendFor 1000 (by decide) le_rfl) (opened 268435456)
      none sampleRequest (.filled 12 0) = .ok result := by
    apply exists_of_isOk
    decide +kernel
  exact (batch_admitted_iff_room_for_batch _ _ none "" sampleRequest _ result (by decide) rfl
    (by simp [sampleRequest, sampleEntry, zeroEntry]) happend).mpr ⟨by decide, by decide, by decide⟩

/-- With a hundred entries allowed, a user without any cannot enroll a batch of one image, though an append would
do. -/
theorem batch_of_one_refused :
    (∃ result, append (backendFor 100 (by decide) (by decide)) (opened 268435456) none sampleRequest
      (.filled 12 0) = .ok result) ∧
    handleBatchEnrollmentWith (backendFor 100 (by decide) (by decide)) (opened 268435456) shortName none "" =
      .error (.storage (.invalidInput "record shape")) := by
  refine ⟨?_, by decide +kernel⟩
  apply exists_of_isOk
  decide +kernel

end Howy.Daemon.EnrollmentAdmission
