import Howy.Storage.Howyenc1Exact
import Howy.Storage.Mode1Reading

namespace Howy.Storage.Mode1

open Library Howyenc1Exact

variable {D : Type} (backend : Mode1StorageBackend) {e : StorageBackendError} {node : Option FileNode}
  {permit : BudgetPermit} {headerPrefix bytes : Bytes}

def inspectFile (u : CanonicalUsername) (file : FileNode) : BackendResult InspectedRecord := do
  let exactLength ← recordFileLength backend file
  let fixed ← slice file 0 howyenc1FixedHeader
  failIf (¬ (1 ≤ leValue ((fixed.drop 42).take 2) ∧ leValue ((fixed.drop 42).take 2) ≤ 64)) .corrupt
  let username ← slice file howyenc1FixedHeader (leValue ((fixed.drop 42).take 2))
  let header ← inspectMetadata backend (fixed ++ username) exactLength u
  pure ⟨file, header, exactLength, fixed ++ username⟩

def inspectNode (u : CanonicalUsername) : Option FileNode → BackendResult (Option InspectedRecord)
  | none => .ok none
  | some file => if file.kind = .symlink then .error (.io .open .other) else some <$> inspectFile backend u file

def Calm (A : Choice → Prop) (cancellable : Bool) (mayFail : Prop) : Prop :=
  mayFail ∨ cancellable = false ∧ ∀ c, A c → c.FaultFree

variable {A : Choice → Prop} {P : Shared D → Prop} {mayFail : Prop} {cancellable : Bool} {α : Type}
  {x : BackendResult α}

lemma reports_refuseIf {p : Prop} [Decidable p] : Reports A P mayFail (failIf p e) (refuseIf p e : Op D Unit) := by
  by_cases h : p
  · simp only [refuseIf, failIf, h]
    exact finds_throw
  · simp only [refuseIf, failIf, h]
    exact finds_pure

lemma reports_tryReserve (hcalm : Calm A cancellable mayFail) :
    Reports A P mayFail (.ok ()) (tryReserve e : Op D Unit) := by
  apply finds_query
  intro c s hc _
  rcases hcalm with hm | ⟨-, hA⟩
  · by_cases h : c.exhausted
    · exact .inr ⟨e, hm, by rw [h, if_pos rfl]⟩
    · exact .inl (if_neg h)
  · exact .inl (by rw [(hA c hc).exhausted]; rfl)

lemma reports_isCancelled (hc : cancellable = false) :
    Reports A P mayFail (.ok false) (isCancelled cancellable : Op D Bool) := by
  subst hc
  exact finds_query fun c s _ _ => .inl rfl

section

variable (hcalm : Calm A cancellable mayFail)

include hcalm

lemma reports_checkCancelled : Reports A P mayFail (.ok ()) (checkCancelled cancellable : Op D Unit) := by
  rcases hcalm with hm | ⟨hc, -⟩
  · intro c s x s' hA hs hf
    simp only [Option.some.injEq] at hf
    obtain ⟨rfl, rfl⟩ := hf
    refine ⟨rfl, hs, ?_⟩
    cases h : cancellable && c.cancelled with
    | false => exact .inl rfl
    | true => exact .inr ⟨_, hm, rfl⟩
  · exact (reports_isCancelled hc).ok_bind finds_pure

lemma reports_reading {operation : IoOperation} : Reports A P mayFail x (reading operation x : Op D α) := by
  apply finds_query
  intro c s hc _
  rcases hcalm with hm | ⟨-, hA⟩
  · cases hh : c.hook .filesystem with
    | some e => exact .inr ⟨e, hm, rfl⟩
    | none =>
      cases hf : c.fault with
      | some fault => exact .inr ⟨_, hm, rfl⟩
      | none => exact .inl rfl
  · rw [(hA c hc).fault, (hA c hc).hook]
    exact .inl rfl

lemma reports_readExact {file : FileNode} {offset amount : ℕ} :
    Reports A P mayFail (slice file offset amount) (readExact cancellable file offset amount : Op D Bytes) :=
  (reports_checkCancelled hcalm).ok_bind (reports_reading hcalm)

lemma reports_hook {point : BackendHookPoint} : Reports A P mayFail (.ok ()) (hook point : Op D Unit) := by
  apply within_action
  intro c s hc hs
  rcases hcalm with hm | ⟨-, hA⟩
  · cases hh : c.hook point with
    | some e => exact ⟨rfl, hs, .inr ⟨e, hm, rfl⟩⟩
    | none => exact ⟨rfl, hs, .inl rfl⟩
  · rw [(hA c hc).hook]
    exact ⟨rfl, hs, .inl rfl⟩

def openNode : Option FileNode → Except IoKind FileNode
  | none => .error .notFound
  | some file => if file.kind = .symlink then .error .other else .ok file

lemma within_openRecord {look : D → Option FileNode} : Within A Eq (fun s => look s.disk = node)
      (OnResult (fun v => v = openNode node ∨ mayFail ∧ ∃ kind, kind ≠ .notFound ∧ v = .error kind) fun _ => False)
      (openRecord look).run := by
  apply within_query (fun _ => rfl)
  intro c s hc hs
  rw [hs]
  rcases hcalm with hm | ⟨-, hA⟩
  · cases hh : c.hook .filesystem with
    | some e => exact .inr ⟨hm, _, by decide, rfl⟩
    | none =>
      cases hf : c.fault with
      | some fault => cases fault <;> exact .inr ⟨hm, _, by decide, rfl⟩
      | none =>
        cases node with
        | none => exact .inl rfl
        | some file => by_cases hk : file.kind = .symlink <;> simp [openNode, hk, OnResult]
  · rw [(hA c hc).fault, (hA c hc).hook]
    cases node with
    | none => exact .inl rfl
    | some file => by_cases hk : file.kind = .symlink <;> simp [openNode, hk, OnResult]

lemma reports_inspectNamedRecord (look : D → Option FileNode) (u : CanonicalUsername) :
    Reports A (fun s => look s.disk = node) mayFail (inspectNode backend u node)
      (inspectNamedRecord backend look u cancellable) := by
  apply Within.bindE
  · apply Within.weaken (within_openRecord hcalm)
    intro r hr
    cases r with
    | ok v => exact hr
    | error e => exact hr.elim
  · rintro v (rfl | ⟨hm, kind, hk, rfl⟩)
    · cases node with
      | none => exact .inl rfl
      | some file =>
        by_cases hk : file.kind = .symlink
        · rw [openNode, inspectNode, hk]
          exact .inl rfl
        · simp only [openNode, inspectNode, hk, inspectFile, map_bind]
          refine (reports_reading hcalm).bind fun exactLength _ => ?_
          refine (reports_readExact hcalm).bind fun fixed _ => ?_
          refine reports_refuseIf.bind fun _ _ => ?_
          refine (reports_tryReserve hcalm).ok_bind ?_
          refine (reports_readExact hcalm).bind fun username _ => ?_
          exact finds_fromExcept.bind fun header _ => finds_pure
    · cases kind with
      | notFound => exact absurd rfl hk
      | permissionDenied | alreadyExists | other => exact .inr ⟨_, hm, rfl⟩

end

structure Inspects (u : CanonicalUsername) (file : FileNode) (header : EncryptedHeader) : Prop where
  isRecordFile : isRecordFile backend.expectedOwner file = true
  inspected : inspectHowyenc1 file.contents = .ok header
  entryCount_le : header.entryCount.toNat ≤ backend.limits.maxEntries
  plaintextLength_le : header.plaintextLength ≤ backend.limits.maxPlaintextBytes
  mode : header.mode = .aeadCached
  keyEpoch : header.keyEpoch = backend.keyEpoch
  username : header.username = u
  model : header.recognizerModelSha256 = backend.recognizerModel

def inspectedRecord (file : FileNode) (header : EncryptedHeader) : InspectedRecord :=
  ⟨file, header, file.contents.length, file.contents.take header.headerLength⟩

lemma usernameField_bytesOf (h : EncryptedHeader) (body : Bytes) :
    ((bytesOf h ++ body).drop 42).take 2 = leBytes 2 h.username.bytes.length := by
  exact List.take_left' (length_leBytes 2 _)

variable {file : FileNode} {u : CanonicalUsername} {header : EncryptedHeader}

lemma slice_eq_ok {offset amount : ℕ} : slice file offset amount = .ok bytes ↔
      offset + amount ≤ file.contents.length ∧ (file.contents.drop offset).take amount = bytes := by
  rw [slice]
  split
  · simp only [reduceCtorEq, false_iff]
    omega
  · rw [Except.ok.injEq, iff_and_self]
    omega

variable {total : ℕ} {h : EncryptedHeader}

lemma inspectHeaderPrefix_eq_ok :
    inspectHowyenc1HeaderPrefix bytes total = .ok h ↔ ∃ rest, bytes = bytesOf h ++ rest ∧ WellFormed h ∧
      total = h.headerLength + h.plaintextLength + gcmTagBytes := by
  simp only [inspectHowyenc1HeaderPrefix, bind_eq_ok, pure_eq_ok, Prod.exists]
  constructor
  · rintro ⟨_, rest, hr, rfl⟩
    exact ⟨rest, accepts_howyenc1HeaderReader.mp hr⟩
  · rintro ⟨rest, hr⟩
    exact ⟨h, rest, accepts_howyenc1HeaderReader.mpr hr, rfl⟩

lemma recordFileLength_eq_ok {n : ℕ} :
    recordFileLength backend file = .ok n ↔ isRecordFile backend.expectedOwner file ∧
      n = file.contents.length ∧ howyenc1FixedHeader + 1 + 16 ≤ n ∧
      n ≤ howyenc1FixedHeader + 64 + backend.limits.maxPlaintextBytes + 16 := by
  have hl := backend.limits.maxPlaintextBytes_le
  have hm : maxPlaintextBytes < 2 ^ 32 := by decide
  have hf : howyenc1FixedHeader = 88 := rfl
  have hmax : invalid (do
      let bytes ← checkedAdd howyenc1FixedHeader 64
      let bytes ← checkedAdd bytes backend.limits.maxPlaintextBytes
      checkedAdd bytes 16) "record byte limit" =
        .ok (howyenc1FixedHeader + 64 + backend.limits.maxPlaintextBytes + 16) := by
    rw [checkedAdd, if_pos (by omega), Option.bind_eq_bind, Option.bind_some, checkedAdd, if_pos (by omega),
      Option.bind_some, checkedAdd, if_pos (by omega)]
    rfl
  simp only [recordFileLength, bind_eq_ok, failIf_eq_ok, pure_eq_ok, hmax, Except.ok.injEq]
  constructor
  · rintro ⟨_, hr, _, rfl, _, hlen, rfl⟩
    rw [not_not] at hr
    exact ⟨hr, rfl, by omega, by omega⟩
  · rintro ⟨hr, rfl, hlow, hhigh⟩
    exact ⟨⟨⟩, not_not.mpr hr, _, rfl, ⟨⟩, by omega, rfl⟩

lemma inspectHowyenc1Metadata_eq_ok {mode : StorageMode} {epoch : UInt64} {model : ModelDigest} {k limit : ℕ} :
    inspectHowyenc1Metadata headerPrefix total mode epoch u model k limit = .ok h ↔
      (0 < k ∧ k ≤ maxEntries) ∧ (0 < limit ∧ limit ≤ maxPlaintextBytes) ∧
      headerPrefix = bytesOf h ∧ WellFormed h ∧
      total = h.headerLength + h.plaintextLength + gcmTagBytes ∧ h.entryCount.toNat ≤ k ∧
      h.plaintextLength ≤ limit ∧ h.mode = mode ∧ h.keyEpoch = epoch ∧ h.username = u ∧
      h.recognizerModelSha256 = model := by
  simp only [inspectHowyenc1Metadata, bind_eq_ok, failIf_eq_ok, pure_eq_ok, inspectHeaderPrefix_eq_ok, not_not]
  constructor
  · rintro ⟨_, -, _, hk, _, hlimit, _, ⟨rest, rfl, hw, htotal⟩, _, hlen, _, hcount, _, hplain, _,
      hmode, _, hepoch, _, hname, _, hmodel, rfl⟩
    rw [List.length_append, length_bytesOf hw] at hlen
    have hrest : rest = [] := List.length_eq_zero_iff.mp (by omega)
    rw [hrest, List.append_nil]
    exact ⟨by omega, by omega, rfl, hw, htotal, by omega, by omega, hmode, hepoch, hname, hmodel⟩
  · rintro ⟨hk, hlimit, rfl, hw, htotal, hcount, hplain, hmode, hepoch, hname, hmodel⟩
    have hlen := length_bytesOf hw
    have hl := hw.headerLength_eq
    have hn := h.username.length_bytes
    refine ⟨⟨⟩, ?_, ⟨⟩, by omega, ⟨⟩, by omega, h, ⟨[], by rw [List.append_nil], hw, htotal⟩,
      ⟨⟩, hlen, ⟨⟩, by omega, ⟨⟩, by omega, ⟨⟩, hmode, ⟨⟩, hepoch, ⟨⟩, hname, ⟨⟩, hmodel, rfl⟩
    rw [hlen, howyenc1MaxInspectionBytes]
    omega

lemma inspectMetadata_eq_ok :
    inspectMetadata backend headerPrefix total u = .ok h ↔ headerPrefix = bytesOf h ∧ WellFormed h ∧
      total = h.headerLength + h.plaintextLength + gcmTagBytes ∧ h.entryCount.toNat ≤ backend.limits.maxEntries ∧
      h.plaintextLength ≤ backend.limits.maxPlaintextBytes ∧ h.mode = .aeadCached ∧ h.keyEpoch = backend.keyEpoch ∧
      h.username = u ∧ h.recognizerModelSha256 = backend.recognizerModel := by
  rw [inspectMetadata, mapError_eq_ok, inspectHowyenc1Metadata_eq_ok,
    and_iff_right ⟨backend.limits.maxEntries_pos, backend.limits.maxEntries_le⟩,
    and_iff_right ⟨backend.limits.maxPlaintextBytes_pos, backend.limits.maxPlaintextBytes_le⟩]

lemma inspectFile_eq_ok {i : InspectedRecord} : inspectFile backend u file = .ok i ↔
      ∃ header, Inspects backend u file header ∧ i = inspectedRecord file header := by
  have hf : howyenc1FixedHeader = 88 := rfl
  simp only [inspectFile, bind_eq_ok, failIf_eq_ok, pure_eq_ok, recordFileLength_eq_ok, slice_eq_ok,
    inspectMetadata_eq_ok, not_not, List.drop_zero, Nat.zero_add]
  constructor
  · rintro ⟨_, ⟨hr, rfl, -, -⟩, fixed, ⟨hfixed, rfl⟩, _, -, name, ⟨hname', rfl⟩, h, ⟨hinit, hw, htotal, hcount,
      hplain, hmode, hepoch, hname, hmodel⟩, rfl⟩
    have hlen := length_bytesOf hw
    rw [← List.take_add] at hinit ⊢
    -- the two reads together are the first `headerLength` bytes of the file
    have hn := congrArg List.length hinit
    rw [List.length_take, Nat.min_eq_left hname', hlen] at hn
    rw [hn] at hinit ⊢
    have hbytes : file.contents = bytesOf h ++ file.contents.drop h.headerLength := by
      rw [← hinit, List.take_append_drop]
    have hbody : (file.contents.drop h.headerLength).length = h.plaintextLength + gcmTagBytes := by
      rw [List.length_drop]
      omega
    exact ⟨h, ⟨hr, inspectHowyenc1_eq_ok.mpr ⟨_, hbytes, hw, hbody⟩, hcount, hplain, hmode, hepoch,
      hname, hmodel⟩, rfl⟩
  · rintro ⟨h, hi, rfl⟩
    obtain ⟨body, hbytes, hw, hbody⟩ := inspectHowyenc1_eq_ok.mp hi.inspected
    have hlen := length_bytesOf hw
    have hl := hw.headerLength_eq
    obtain ⟨hpos, hle⟩ := h.username.length_bytes
    have htotal : file.contents.length = h.headerLength + h.plaintextLength + gcmTagBytes := by
      rw [hbytes, List.length_append]
      omega
    have hg : gcmTagBytes = 16 := rfl
    have hfield : leValue (((file.contents.take howyenc1FixedHeader).drop 42).take 2) =
        h.username.bytes.length := by
      rw [List.drop_take, List.take_take, hbytes, Nat.min_eq_left (by rw [hf]; decide), usernameField_bytesOf,
        leValue_leBytes (by omega)]
    have hplain := hi.plaintextLength_le
    refine ⟨_, ⟨hi.isRecordFile, rfl, by omega, by omega⟩, _, ⟨by omega, rfl⟩, ⟨⟩, ?_, _, ⟨?_, rfl⟩, h,
      ⟨?_, hw, htotal, hi.entryCount_le, hplain, hi.mode, hi.keyEpoch, hi.username, hi.model⟩, ?_⟩
    · rw [hfield]
      exact ⟨hpos, hle⟩
    · omega
    · rw [hfield, ← List.take_add, ← hl, hbytes]
      exact List.take_left' hlen
    · rw [hfield, ← List.take_add, ← hl]
      rfl

lemma reports_readCompleteRecord (hcalm : Calm A cancellable mayFail) (hi : Inspects backend u file header) :
    Reports A P mayFail (.ok file.contents)
      (readCompleteRecord (inspectedRecord file header) cancellable : Op D Bytes) := by
  obtain ⟨body, hbytes, hw, hbody⟩ := inspectHowyenc1_eq_ok.mp hi.inspected
  have hlen := length_bytesOf hw
  have htotal := congrArg List.length hbytes
  rw [List.length_append, hlen] at htotal
  have htake : file.contents.take header.headerLength = bytesOf header := by
    rw [hbytes]
    exact List.take_left' hlen
  have hrest : slice file (inspectedRecord file header).headerPrefix.length
      ((inspectedRecord file header).exactLength - header.headerLength) = .ok body := by
    rw [slice_eq_ok, inspectedRecord, htake, hlen]
    refine ⟨by dsimp only; omega, ?_⟩
    rw [htotal, hbytes, List.drop_left' hlen, Nat.add_sub_cancel_left, List.take_length]
  have hall : (inspectedRecord file header).headerPrefix ++ body = file.contents := by
    rw [inspectedRecord, htake, ← hbytes]
  refine (reports_tryReserve hcalm).ok_bind ?_
  refine .ok_bind (hrest ▸ reports_readExact hcalm) ?_
  refine (reports_checkCancelled hcalm).ok_bind ?_
  have hexact : ¬ (inspectedRecord file header).exactLength < (inspectedRecord file header).file.contents.length :=
    lt_irrefl _
  rw [if_neg hexact]
  refine (reports_reading hcalm).ok_bind ?_
  refine (reports_checkCancelled hcalm).ok_bind ?_
  rw [hall]
  refine .ok_bind (a := header) ?_ ?_
  · rw [hi.inspected]
    exact finds_fromExcept
  refine .ok_bind (a := ()) ?_ finds_pure
  simp only [refuseIf, inspectedRecord, ne_eq, not_true_eq_false]
  exact finds_pure

def decryptFile (u : CanonicalUsername) (file : FileNode) (header : EncryptedHeader) (permit : BudgetPermit) :
    BackendResult LoadedRecord := do
  let estimate ← PlaintextAllocationEstimate.forEncryptedHeader header
  failIf (permit.owned = false ∨ permit.bytes < estimate.coldLoadPeakBytes)
    (.invalidInput "decrypt operation reservation")
  let record ← (decodeHowyenc1 backend.gcm file.contents backend.key .aeadCached backend.keyEpoch u
    backend.recognizerModel).mapError mapStorageError
  pure ⟨record, permit⟩

lemma reports_decryptInspected (hcalm : Calm A cancellable mayFail) (hi : Inspects backend u file header) :
    Reports A P mayFail (decryptFile backend u file header permit)
      (decryptInspected backend (inspectedRecord file header) u permit cancellable : Op D LoadedRecord) := by
  refine finds_fromExcept.bind fun estimate _ => ?_
  refine reports_refuseIf.bind fun _ _ => ?_
  refine (reports_readCompleteRecord backend hcalm hi).ok_bind ?_
  refine (reports_checkCancelled hcalm).ok_bind ?_
  refine (reports_hook hcalm).ok_bind ?_
  refine (reports_hook hcalm).ok_bind ?_
  refine finds_fromExcept.bind fun record _ => ?_
  exact (reports_checkCancelled hcalm).ok_bind finds_pure

def recordIn (u : CanonicalUsername) (file : FileNode) : Option EnrollmentRecord :=
  (decodeHowyenc1 backend.gcm file.contents backend.key .aeadCached backend.keyEpoch u
    backend.recognizerModel).toOption

lemma decryptFile_eq_ok
    {loaded : LoadedRecord} (h : decryptFile backend u file header permit = .ok loaded) :
    recordIn backend u file = some loaded.record := by
  simp only [decryptFile, bind_eq_ok, mapError_eq_ok, pure_eq_ok] at h
  obtain ⟨_, -, _, -, record, hrecord, rfl⟩ := h
  rw [recordIn, hrecord]
  rfl

end Howy.Storage.Mode1
