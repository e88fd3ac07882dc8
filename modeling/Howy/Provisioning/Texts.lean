import Howy.Library.Checks
import Howy.Storage.Records
import Mathlib.Data.List.Infix

/-! Names, digests and paths in provisioning documents. -/

namespace Howy.Provisioning

open Library Storage

inductive ProvisioningContractError where
  | limitExceeded (field : String)
  | invalidJson
  | invalidSchema (field : String)
  | invalidTransition
  | invalidNamespaceInventory
deriving DecidableEq

def ProvisioningContractError.text : ProvisioningContractError → String
  | limitExceeded field => "provisioning input exceeds the " ++ field ++ " limit"
  | invalidJson => "invalid provisioning JSON"
  | invalidSchema field => "invalid provisioning schema: " ++ field
  | invalidTransition => "invalid provisioning transition"
  | invalidNamespaceInventory => "namespace inventory is not canonical"

abbrev Check := Except ProvisioningContractError Unit

def maxTransactionIdBytes : ℕ := 64
def maxPathBytes : ℕ := 4096
def maxNamespaceNameBytes : ℕ := 255
def sha256HexBytes : ℕ := 64
def securityJournalDirectory : String := "/var/lib"

def isLowerHexByte (b : UInt8) : Bool :=
  (decide (48 ≤ b) && decide (b ≤ 57)) || (decide (97 ≤ b) && decide (b ≤ 102))

def isSafeByte (b : UInt8) : Bool := isAsciiAlphanumeric b || b == 46 || b == 95 || b == 45

def isLowerHex (value : String) (exactLen : ℕ) : Bool :=
  (utf8Bytes value).length == exactLen && (utf8Bytes value).all isLowerHexByte

def hexDigit (n : ℕ) : Char := Char.ofNat (if n < 10 then 48 + n else 87 + n)

def hexEncode (bytes : Bytes) : String :=
  String.ofList (bytes.flatMap fun b => [hexDigit (b.toNat / 16), hexDigit (b.toNat % 16)])

def hexByte (n : ℕ) : UInt8 := if n < 10 then 48 + n.toUInt8 else 87 + n.toUInt8

lemma hexByte_spec : ∀ n < 16, hexDigit n = Char.ofNat (hexByte n).toNat ∧ isLowerHexByte (hexByte n) ∧
    hexByte n < 128 := by
  decide

lemma hexEncode_eq (bytes : Bytes) : hexEncode bytes = String.ofList
    ((bytes.flatMap fun b => [hexByte (b.toNat / 16), hexByte (b.toNat % 16)]).map fun b =>
      Char.ofNat b.toNat) := by
  rw [List.map_flatMap]
  refine congrArg String.ofList (List.flatMap_congr fun b _ => ?_)
  have hb := b.toNat_lt
  rw [(hexByte_spec _ (by omega)).1, (hexByte_spec _ (Nat.mod_lt _ (by decide))).1, List.map_cons, List.map_cons,
    List.map_nil]

lemma isLowerHex_hexEncode (bytes : Bytes) : isLowerHex (hexEncode bytes) (2 * bytes.length) := by
  have hdigits : ∀ d ∈ bytes.flatMap fun b => [hexByte (b.toNat / 16), hexByte (b.toNat % 16)],
      isLowerHexByte d ∧ d < 128 := by
    intro d hd
    obtain ⟨b, -, hd⟩ := List.mem_flatMap.mp hd
    have hb := b.toNat_lt
    rcases List.mem_pair.mp hd with rfl | rfl
    · exact (hexByte_spec _ (by omega)).2
    · exact (hexByte_spec _ (Nat.mod_lt _ (by decide))).2
  rw [isLowerHex, hexEncode_eq, utf8Bytes_ofList fun d hd => (hdigits d hd).2, Bool.and_eq_true, beq_iff_eq,
    List.all_eq_true]
  refine ⟨?_, fun d hd => (hdigits d hd).1⟩
  simp [mul_comm]

def hexValue (b : UInt8) : Except ProvisioningContractError UInt8 :=
  if 48 ≤ b ∧ b ≤ 57 then .ok (b - 48)
  else if 97 ≤ b ∧ b ≤ 102 then .ok (b - 97 + 10)
  else .error (.invalidSchema "hex bytes")

def hexPairs : Bytes → Except ProvisioningContractError Bytes
  | high :: low :: rest => do
    let high ← hexValue high
    let low ← hexValue low
    let rest ← hexPairs rest
    return (high <<< 4 ||| low) :: rest
  | _ => .ok []

def hexDecode (value : String) : Except ProvisioningContractError Bytes := do
  require ((utf8Bytes value).length % 2 = 0 ∧ isLowerHex value (utf8Bytes value).length)
    (.invalidSchema "hex bytes")
  hexPairs (utf8Bytes value)

lemma hexValue_spec {b : UInt8} : ((hexValue b).toBool = isLowerHexByte b) ∧
    ∀ x ∈ (hexValue b).toOption, hexByte x.toNat = b ∧ x.toNat < 16 := by
  have hall : ∀ n < 256, ((hexValue (UInt8.ofNat n)).toBool = isLowerHexByte (UInt8.ofNat n)) ∧
      ∀ x ∈ (hexValue (UInt8.ofNat n)).toOption, hexByte x.toNat = UInt8.ofNat n ∧
      x.toNat < 16 := by decide +kernel
  simpa using hall b.toNat b.toNat_lt

lemma hexNibbles {x y : UInt8} (hx : x.toNat < 16) (hy : y.toNat < 16) :
    (x <<< 4 ||| y).toNat / 16 = x.toNat ∧ (x <<< 4 ||| y).toNat % 16 = y.toNat := by
  have hall : ∀ m < 16, ∀ n < 16, (UInt8.ofNat m <<< 4 ||| UInt8.ofNat n).toNat / 16 = m ∧
      (UInt8.ofNat m <<< 4 ||| UInt8.ofNat n).toNat % 16 = n := by decide +kernel
  simpa using hall x.toNat hx y.toNat hy

lemma hexPairs_eq_ok {bytes : Bytes} {digest : Bytes} (heven : bytes.length % 2 = 0)
    (h : hexPairs bytes = .ok digest) :
    bytes = digest.flatMap fun b => [hexByte (b.toNat / 16), hexByte (b.toNat % 16)] := by
  induction bytes using hexPairs.induct generalizing digest with
  | case1 high low rest ih =>
    simp only [hexPairs, bind_eq_ok, pure_eq_ok] at h
    obtain ⟨x, hx, y, hy, ds, hds, rfl⟩ := h
    obtain ⟨hhigh, hx16⟩ := hexValue_spec.2 x (by rw [hx]; rfl)
    obtain ⟨hlow, hy16⟩ := hexValue_spec.2 y (by rw [hy]; rfl)
    obtain ⟨hdiv, hmod⟩ := hexNibbles hx16 hy16
    rw [List.flatMap_cons, hdiv, hmod, hhigh, hlow, ← ih ((Nat.add_mod_right _ 2).symm.trans heven) hds]
    rfl
  | case2 bytes hnot =>
    rcases bytes with _ | ⟨high, _ | ⟨low, rest⟩⟩
    · cases h
      rfl
    · cases heven
    · exact absurd rfl (hnot high low rest)

lemma exists_hexPairs {bytes : Bytes} (h : ∀ b ∈ bytes, isLowerHexByte b) :
    ∃ digest, hexPairs bytes = .ok digest := by
  have hvalue (b : UInt8) (hb : isLowerHexByte b) : ∃ x, hexValue b = .ok x := by
    have hb' := hexValue_spec.1.trans hb
    cases hx : hexValue b with
    | ok x => exact ⟨x, rfl⟩
    | error e => rw [hx] at hb'; cases hb'
  induction bytes using hexPairs.induct with
  | case1 high low rest ih =>
    obtain ⟨hhigh, hlow, hrest⟩ : isLowerHexByte high ∧ isLowerHexByte low ∧ ∀ b ∈ rest, isLowerHexByte b := by
      simpa using h
    obtain ⟨x, hx⟩ := hvalue high hhigh
    obtain ⟨y, hy⟩ := hvalue low hlow
    obtain ⟨digest, hdigest⟩ := ih hrest
    exact ⟨_, by rw [hexPairs, hx, hy, hdigest]; rfl⟩
  | case2 bytes hnot => exact ⟨[], by rw [hexPairs]; exact hnot⟩

lemma exists_hexDecode {v : String} {n : ℕ} (heven : n % 2 = 0) (h : isLowerHex v n) :
    ∃ digest, hexDecode v = .ok digest := by
  obtain ⟨hlength, hall⟩ : (utf8Bytes v).length = n ∧ (utf8Bytes v).all isLowerHexByte := by
    simpa [isLowerHex] using h
  obtain ⟨digest, hdigest⟩ := exists_hexPairs (List.all_eq_true.mp hall)
  refine ⟨digest, ?_⟩
  rw [hexDecode, then_eq_ok, require_eq_ok, isLowerHex, hall, hlength]
  exact ⟨⟨heven, by simp⟩, hdigest⟩

lemma utf8Bytes_of_hexDecode {v : String} {digest : Bytes} (h : hexDecode v = .ok digest) :
    utf8Bytes v = digest.flatMap fun b => [hexByte (b.toNat / 16), hexByte (b.toNat % 16)] := by
  rw [hexDecode, then_eq_ok, require_eq_ok] at h
  exact hexPairs_eq_ok h.1.1 h.2

structure Sha256Digest where
  value : String
deriving DecidableEq

def Sha256Digest.validate (digest : Sha256Digest) : Check :=
  require (isLowerHex digest.value sha256HexBytes) (.invalidSchema "sha256")

abbrev Sha256 := Bytes → FixedArray UInt8 32

def Sha256Digest.fromBytes (sha256 : Sha256) (bytes : Bytes) : Sha256Digest := ⟨hexEncode (sha256 bytes).val⟩

structure ExactBytes where
  value : String
deriving DecidableEq

def ExactBytes.decode (bytes : ExactBytes) : Except ProvisioningContractError Bytes := hexDecode bytes.value

def ExactBytes.byteLen (bytes : ExactBytes) : ℕ := (utf8Bytes bytes.value).length / 2

def ExactBytes.validateMax (bytes : ExactBytes) (maximum : ℕ) (field : String) : Check := do
  require ((utf8Bytes bytes.value).length % 2 = 0 ∧ isLowerHex bytes.value (utf8Bytes bytes.value).length)
    (.invalidSchema field)
  require (bytes.byteLen ≤ maximum) (.limitExceeded field)

def validateSafeName (value : String) (maximum : ℕ) (field : String) : Check :=
  require ((utf8Bytes value ≠ [] ∧ (utf8Bytes value).length ≤ maximum) ∧ (utf8Bytes value).all isSafeByte)
    (.invalidSchema field)

def validateTransactionIdV1 (value : String) (field : String) : Check := do
  require ((utf8Bytes value).take 4 = utf8Bytes "txn-") (.invalidSchema field)
  let suffix := (utf8Bytes value).drop 4
  require (((utf8Bytes value).length ≤ maxTransactionIdBytes ∧ suffix.length = 32) ∧ suffix.all isLowerHexByte)
    (.invalidSchema field)

inductive Component where
  | rootDir
  | curDir
  | parentDir
  | normal (name : Bytes)
deriving DecidableEq

def segments (path : Bytes) : List Bytes := path.splitOn 47

def segmentComponent (segment : Bytes) : Option Component :=
  if segment = [] ∨ segment = [46] then none
  else if segment = [46, 46] then some .parentDir
  else some (.normal segment)

def components (path : Bytes) : List Component :=
  match segments path with
  | [] :: rest => (if path = [] then [] else [.rootDir]) ++ rest.filterMap segmentComponent
  | first :: rest => (if first = [46] then [.curDir] else []) ++ (first :: rest).filterMap segmentComponent
  | [] => []

def isAbsolute (path : Bytes) : Bool := path.head? == some 47

def vanishes (segment : Bytes) : Bool := segment == [] || segment == [46]

def parent (path : Bytes) : Option Bytes :=
  match ((segments path).tail.reverse).dropWhile vanishes with
  | [] => none
  | _ :: rest => some (47 :: List.intercalate [47] (rest.dropWhile vanishes).reverse)

lemma isAbsolute_of_parent {path directory : Bytes} (h : parent path = some directory) : isAbsolute directory := by
  rw [parent] at h
  split at h
  · cases h
  · cases h
    rfl

def fileName (path : Bytes) : Option Bytes :=
  match (components path).getLast? with
  | some (.normal name) => some name
  | _ => none

def join (directory name : Bytes) : Bytes :=
  directory ++ (if directory.getLast? = some 47 then [] else [47]) ++ name

def samePath (left right : Bytes) : Bool := components left == components right

def validateAbsolutePath (value : String) (field : String) : Check := do
  require ((utf8Bytes value ≠ [] ∧ (utf8Bytes value).length ≤ maxPathBytes) ∧ 0 ∉ utf8Bytes value)
    (.invalidSchema field)
  require ((isAbsolute (utf8Bytes value) ∧
    (components (utf8Bytes value)).all fun c => c != .curDir && c != .parentDir) ∧
    ¬ [47, 47] <:+: utf8Bytes value) (.invalidSchema field)

def canonicalAtomicStagingPath (transactionId targetPath : String) (bytesSha256 : Sha256Digest) :
    Except ProvisioningContractError Bytes := do
  validateTransactionIdV1 transactionId "atomic transaction id"
  validateAbsolutePath targetPath "atomic target path"
  bytesSha256.validate
  match parent (utf8Bytes targetPath) with
  | none => .error (.invalidSchema "atomic target parent")
  | some directory =>
    match fileName (utf8Bytes targetPath) with
    | none => .error (.invalidSchema "atomic target basename")
    | some basename => do
      require ((basename ≠ [] ∧ basename.length ≤ 128) ∧ basename.all isSafeByte)
        (.invalidSchema "atomic target basename")
      let stageName :=
        utf8Bytes ".howy-" ++ utf8Bytes transactionId ++ utf8Bytes "-" ++ basename ++ utf8Bytes "-" ++
        utf8Bytes bytesSha256.value ++ utf8Bytes ".stage"
      require (stageName.length ≤ maxNamespaceNameBytes) (.limitExceeded "atomic staging basename")
      return join directory stageName

variable {n e : Bytes} {value : String} {b : UInt8}

lemma segments_append (e : Bytes) (h : 47 ∉ n) : segments (e ++ 47 :: n) = segments e ++ [n] := by
  have hsingle : n.splitOn 47 = [n] :=
    List.splitOnP_eq_singleton fun b hb => beq_eq_false_iff_ne.mpr fun he => h (he ▸ hb)
  have happend := List.splitOnP_append_cons (p := fun b : UInt8 => b == 47) e n (beq_self_eq_true 47)
  exact happend.trans (congrArg (segments e ++ ·) hsingle)

lemma segments_ne_nil (path : Bytes) : segments path ≠ [] := List.splitOnP_ne_nil _ _

lemma components_append (he : e ≠ []) (h : 47 ∉ n) (hn : segmentComponent n = some (.normal n)) :
    components (e ++ 47 :: n) = components e ++ [.normal n] := by
  have hsegments := segments_append e h
  obtain ⟨first, rest, hfirst⟩ := List.exists_cons_of_ne_nil (segments_ne_nil e)
  rw [hfirst, List.cons_append] at hsegments
  rw [components, components, hsegments, hfirst]
  cases first with
  | nil => simp [he, hn, List.filterMap_append]
  | cons b bs =>
    simp only [← List.cons_append, List.filterMap_append, List.filterMap_cons_some hn, List.append_assoc]
    rfl

lemma parent_append (h : 47 ∉ n) (hn : vanishes n = false) : parent (e ++ 47 :: n) =
      some (47 :: List.intercalate [47] (((segments e).tail.reverse).dropWhile vanishes).reverse) := by
  have hreverse : (segments (e ++ 47 :: n)).tail.reverse = n :: (segments e).tail.reverse := by
    rw [segments_append e h, List.tail_append_of_ne_nil (segments_ne_nil e), List.reverse_append]
    rfl
  rw [parent, hreverse, List.dropWhile_cons_of_neg (by rw [hn]; exact Bool.false_ne_true)]

lemma fileName_append (h : 47 ∉ n) (hn : segmentComponent n = some (.normal n)) :
    fileName (e ++ 47 :: n) = some n := by
  obtain ⟨first, rest, hsegments⟩ := List.exists_cons_of_ne_nil (segments_ne_nil e)
  have hall : segments (e ++ 47 :: n) = first :: (rest ++ [n]) := by
    rw [segments_append e h, hsegments, List.cons_append]
  have hlast : (components (e ++ 47 :: n)).getLast? = some (.normal n) := by
    rw [components, hall]
    split
    next heq =>
      cases heq
      rw [List.filterMap_append, ← List.append_assoc, List.filterMap_cons_some hn]
      exact List.getLast?_concat
    next heq =>
      cases heq
      rw [← List.cons_append]
      rw [List.filterMap_append, ← List.append_assoc, List.filterMap_cons_some hn]
      exact List.getLast?_concat
    next heq =>
      cases heq
  rw [fileName, hlast]

lemma fileName_join {d : Bytes} (h : 47 ∉ n) (hn : segmentComponent n = some (.normal n)) :
    fileName (join d n) = some n := by
  rw [join]
  split
  next hd =>
    obtain ⟨e, rfl⟩ := List.getLast?_eq_some_iff.mp hd
    rw [List.append_nil, List.append_assoc]
    exact fileName_append h hn
  · rw [List.append_assoc]
    exact fileName_append h hn

lemma notMem_of_isLowerHex {n : ℕ} (h : isLowerHex value n)
    (hb : isLowerHexByte b = false) : b ∉ utf8Bytes value := by
  intro hmem
  rw [isLowerHex, Bool.and_eq_true, List.all_eq_true] at h
  rw [h.2 b hmem] at hb
  cases hb

lemma notMem_of_validateTransactionIdV1 {field : String}
    (h : validateTransactionIdV1 value field = .ok ()) (hb : isLowerHexByte b = false)
    (hfixed : b ∉ utf8Bytes "txn-") :
    b ∉ utf8Bytes value := by
  simp only [validateTransactionIdV1, then_eq_ok, require_eq_ok, List.all_eq_true] at h
  obtain ⟨htake, -, hdrop⟩ := h
  intro hmem
  rw [← List.take_append_drop 4 (utf8Bytes value), List.mem_append, htake] at hmem
  rcases hmem with hmem | hmem
  · exact hfixed hmem
  · rw [hdrop b hmem] at hb
    cases hb

lemma segmentComponent_of_length (h : 2 < n.length) : segmentComponent n = some (.normal n) := by
  have hvanish : ¬ (n = [] ∨ n = [46]) := by
    rintro (rfl | rfl)
    · exact absurd h (by decide)
    · exact absurd h (by decide)
  have hparent : n ≠ [46, 46] := by
    rintro rfl
    exact absurd h (by decide)
  rw [segmentComponent, if_neg hvanish, if_neg hparent]

lemma canonicalAtomicStagingPath_eq_ok {transactionId targetPath : String} {digest : Sha256Digest} {stage : Bytes}
    (h : canonicalAtomicStagingPath transactionId targetPath digest = .ok stage) :
    ∃ name stageName, fileName (utf8Bytes targetPath) = some name ∧ 0 ∉ name ∧ fileName stage = some stageName ∧
      name.length < stageName.length := by
  simp only [canonicalAtomicStagingPath, then_eq_ok] at h
  obtain ⟨hid, -, hdigest, h⟩ := h
  split at h
  · cases h
  split at h
  · cases h
  rename_i hdirectory basename hbasename
  simp only [then_eq_ok, require_eq_ok, List.all_eq_true] at h
  obtain ⟨⟨-, hsafe⟩, -, h⟩ := h
  cases h
  refine ⟨basename, _, hbasename, fun hb => absurd (hsafe 0 hb) (by decide), fileName_join ?_ ?_, ?_⟩
  · have hslash : 47 ∉ basename := fun hb => absurd (hsafe 47 hb) (by decide)
    have hhex : 47 ∉ utf8Bytes digest.value := notMem_of_isLowerHex (require_eq_ok.mp hdigest) (by decide)
    have hname : 47 ∉ utf8Bytes transactionId := notMem_of_validateTransactionIdV1 hid (by decide) (by decide)
    have hfixed : 47 ∉ utf8Bytes ".howy-" ∧ 47 ∉ utf8Bytes "-" ∧ 47 ∉ utf8Bytes ".stage" := by decide
    simp [hslash, hhex, hname, hfixed]
  · apply segmentComponent_of_length
    simp only [List.length_append]
    have : (utf8Bytes ".howy-").length = 6 := by decide
    omega
  · simp only [List.length_append]
    have : (utf8Bytes "-").length = 1 := by decide
    omega

def canonicalJournalStagingPath (transactionId : String) : Except ProvisioningContractError String := do
  validateTransactionIdV1 transactionId "journal transaction id"
  return securityJournalDirectory ++ "/.howy-" ++ transactionId ++ "-transaction-v1.json-journal.stage"

def validateJournalStagingPath (transactionId path : String) : Check := do
  let canonical ← canonicalJournalStagingPath transactionId
  require (path = canonical) (.invalidSchema "journal staging path")

end Howy.Provisioning
