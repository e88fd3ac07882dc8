import Howy.Library.Framing
import Howy.Provisioning.Objects
import Howy.Storage.Mode1Names

/-! The bytes a namespace fingerprint is made of, for any directory and any entries. -/

namespace Howy.Daemon.Fingerprints

open Library Storage Mode1 Provisioning

def maxNamespaceEntries : ℕ := 1000
def maxNamespaceCiphertextBytes : ℕ := 2621440
def maxNamespaceTotalBytes : ℕ := 1073741824
def namespaceDomain : Bytes := utf8Bytes "HOWNAMESPACE-v1" ++ [0]

def fileTypeCode : NodeKind → UInt8
  | .regular => 1
  | .directory => 2
  | .symlink => 3
  | .other => 4

def classificationCode : NamespaceEntryClassification → UInt8
  | .authoritative _ => 1
  | .temporary => 2
  | .staged => 3
  | .clear => 4
  | .rollback => 5
  | .symlink => 6
  | .directory => 7
  | .hardlink => 8
  | .nonUtf8 => 9
  | .unknown => 10

structure NamespaceDirectoryMetadata where
  path : String
  uid : UInt32
  gid : UInt32
  mode : UInt32
  nlink : UInt64

structure NamespaceFingerprintEntry where
  name : Name
  fileType : NodeKind
  uid : UInt32
  gid : UInt32
  mode : UInt32
  nlink : UInt64
  size : UInt64
  ciphertextSha256 : Sha256Digest
  classification : NamespaceEntryClassification

structure NamespaceInventoryV1 where
  directory : NamespaceDirectoryMetadata
  entries : List NamespaceFingerprintEntry

def addSize (total : ℕ) (entry : NamespaceFingerprintEntry) : Except ProvisioningContractError ℕ :=
  match checkedAdd total entry.size.toNat with
  | none => .error (.limitExceeded "namespace ciphertext bytes")
  | some total => .ok total

def validateEntries : ℕ → List NamespaceFingerprintEntry → Check
  | _, [] => .ok ()
  | total, entry :: entries => do
    failIf (entry.name = [] ∨ maxNamespaceNameBytes < entry.name.length) (.limitExceeded "namespace entry name")
    entry.ciphertextSha256.validate
    failIf (maxNamespaceCiphertextBytes < entry.size.toNat) (.limitExceeded "namespace entry bytes")
    let total ← addSize total entry
    failIf (maxNamespaceTotalBytes < total) (.limitExceeded "namespace ciphertext bytes")
    failIf (classifyMode1NamespaceEntry entry.name entry.fileType entry.nlink.toNat ≠ entry.classification)
      .invalidNamespaceInventory
    validateEntries total entries

def validateInventory (inventory : NamespaceInventoryV1) : Check := do
  validateAbsolutePath inventory.directory.path "namespace path"
  failIf (maxNamespaceEntries < inventory.entries.length) (.limitExceeded "namespace entry count")
  validateEntries 0 inventory.entries
  failIf (¬ (inventory.entries.map (·.name)).Nodup) .invalidNamespaceInventory

abbrev Field := UInt8 × Bytes

def frames (fields : List Field) : Bytes := fields.flatMap fun field => frame field.1 field.2

def u64Field (tag : UInt8) (value : ℕ) : Field := (tag, leBytes 8 value)

def directoryFields (directory : NamespaceDirectoryMetadata) : List Field :=
  [(1, utf8Bytes directory.path), (2, utf8Bytes "root-owned-mode0700-no-follow-v1"),
    u64Field 3 directory.uid.toNat,
    u64Field 4 directory.gid.toNat, u64Field 5 directory.mode.toNat, u64Field 6 directory.nlink.toNat]

def entryFields (entry : NamespaceFingerprintEntry) (digest : Bytes) : List Field :=
  [(16, utf8Bytes "entry"), (17, entry.name), (18, [fileTypeCode entry.fileType]), u64Field 19 entry.uid.toNat,
    u64Field 20 entry.gid.toNat, u64Field 21 entry.mode.toNat, u64Field 22 entry.nlink.toNat,
    u64Field 23 entry.size.toNat, (24, digest), (25, [classificationCode entry.classification])]

def encodeEntries : ℕ → List NamespaceFingerprintEntry → Except ProvisioningContractError (List Field × ℕ)
  | total, [] => .ok ([], total)
  | total, entry :: entries => do
    let total ← addSize total entry
    let digest ← hexDecode entry.ciphertextSha256.value
    let (fields, total) ← encodeEntries total entries
    return (entryFields entry digest ++ fields, total)

def sorted (entries : List NamespaceFingerprintEntry) : List NamespaceFingerprintEntry :=
  entries.mergeSort fun left right => decide (left.name ≤ right.name)

def encodeNamespaceFingerprintFrame (inventory : NamespaceInventoryV1) :
    Except ProvisioningContractError Bytes := do
  validateInventory inventory
  let (fields, totalBytes) ← encodeEntries 0 (sorted inventory.entries)
  return namespaceDomain ++ frames (directoryFields inventory.directory ++ fields ++
    [u64Field 32 inventory.entries.length, u64Field 33 totalBytes])

structure NamespaceFingerprintV1 where
  sha256 : Sha256Digest
  entryCount : ℕ
  ciphertextBytes : ℕ
deriving DecidableEq

def NamespaceFingerprintV1.validate (fingerprint : NamespaceFingerprintV1) : Check :=
  failIf (maxNamespaceEntries < fingerprint.entryCount ∨ maxNamespaceTotalBytes < fingerprint.ciphertextBytes ∨
    fingerprint.entryCount * maxNamespaceCiphertextBytes < fingerprint.ciphertextBytes ∨
    ¬ (fingerprint.entryCount = 0 ↔ fingerprint.ciphertextBytes = 0))
    (.invalidSchema "namespace fingerprint totals")

def namespaceFingerprint (sha256 : Sha256) (inventory : NamespaceInventoryV1) :
    Except ProvisioningContractError NamespaceFingerprintV1 := do
  let bytes ← encodeNamespaceFingerprintFrame inventory
  let ciphertextBytes ← inventory.entries.foldlM addSize 0
  let fingerprint : NamespaceFingerprintV1 :=
    ⟨Sha256Digest.fromBytes sha256 bytes, inventory.entries.length, ciphertextBytes⟩
  fingerprint.validate
  pure fingerprint

def sizes (entries : List NamespaceFingerprintEntry) : ℕ := (entries.map (·.size.toNat)).sum

structure Sound (entry : NamespaceFingerprintEntry) : Prop where
  name : entry.name ≠ [] ∧ entry.name.length ≤ maxNamespaceNameBytes
  digest : isLowerHex entry.ciphertextSha256.value sha256HexBytes = true
  size : entry.size.toNat ≤ maxNamespaceCiphertextBytes
  classification : classifyMode1NamespaceEntry entry.name entry.fileType entry.nlink.toNat = entry.classification

variable {entry : NamespaceFingerprintEntry} {entries : List NamespaceFingerprintEntry} {total : ℕ}

lemma addSize_then {β : Type} {f : ℕ → Except ProvisioningContractError β} {r : β} :
    (addSize total entry >>= f) = .ok r ↔
    total + entry.size.toNat < 2 ^ 64 ∧ f (total + entry.size.toNat) = .ok r := by
  by_cases h : total + entry.size.toNat < 2 ^ 64
  · rw [addSize, checkedAdd, if_pos h, ok_bind, and_iff_right h]
  · rw [addSize, checkedAdd, if_neg h]
    exact iff_of_false (fun he => by cases he) fun hlt => h hlt.1

lemma validateEntries_eq_ok (h : total ≤ maxNamespaceTotalBytes) : validateEntries total entries = .ok () ↔
    (∀ entry ∈ entries, Sound entry) ∧ total + sizes entries ≤ maxNamespaceTotalBytes := by
  induction entries generalizing total with
  | nil => simpa [validateEntries, sizes] using h
  | cons entry entries ih =>
    have hstep : sizes (entry :: entries) = entry.size.toNat + sizes entries := rfl
    simp only [validateEntries, then_eq_ok, addSize_then, failIf_eq_ok, Sha256Digest.validate, require_eq_ok,
      List.forall_mem_cons, hstep, not_or, not_lt, not_not]
    constructor
    · rintro ⟨hname, hdigest, hsize, _, htotal, hclass, hrest⟩
      obtain ⟨hsound, hsum⟩ := (ih htotal).mp hrest
      exact ⟨⟨⟨hname, hdigest, hsize, hclass⟩, hsound⟩, by omega⟩
    · rintro ⟨⟨⟨hname, hdigest, hsize, hclass⟩, hsound⟩, hsum⟩
      have htotal : total + entry.size.toNat ≤ maxNamespaceTotalBytes := by omega
      have hbound : maxNamespaceTotalBytes < 2 ^ 64 := by decide
      exact ⟨hname, hdigest, hsize, by omega, htotal, hclass, (ih htotal).mpr ⟨hsound, by omega⟩⟩

structure Accepted (inventory : NamespaceInventoryV1) : Prop where
  path : validateAbsolutePath inventory.directory.path "namespace path" = .ok ()
  count : inventory.entries.length ≤ maxNamespaceEntries
  sound : ∀ entry ∈ inventory.entries, Sound entry
  sizes : sizes inventory.entries ≤ maxNamespaceTotalBytes
  names : (inventory.entries.map (·.name)).Nodup

variable {a b : NamespaceInventoryV1}

lemma validateInventory_eq_ok : validateInventory a = .ok () ↔ Accepted a := by
  simp only [validateInventory, then_eq_ok, failIf_eq_ok, not_lt, not_not,
    validateEntries_eq_ok (Nat.zero_le _), Nat.zero_add]
  refine ⟨?_, fun h => ⟨h.path, h.count, ⟨h.sound, h.sizes⟩, h.names⟩⟩
  rintro ⟨hpath, hcount, ⟨hsound, hsizes⟩, hnames⟩
  exact ⟨hpath, hcount, hsound, hsizes, hnames⟩

lemma Accepted.of_perm (h : Accepted a) (hp : entries.Perm a.entries) : Accepted ⟨a.directory, entries⟩ where
  path := h.path
  count := hp.length_eq.trans_le h.count
  sound entry he := h.sound entry (hp.mem_iff.mp he)
  sizes := (hp.map _).sum_eq.trans_le h.sizes
  names := (hp.map _).nodup_iff.mpr h.names

lemma perm_sorted (entries : List NamespaceFingerprintEntry) : (sorted entries).Perm entries :=
  List.mergeSort_perm _ _

def fields (entry : NamespaceFingerprintEntry) : List Field :=
  entryFields entry ((hexDecode entry.ciphertextSha256.value).toOption.getD [])

lemma encodeEntries_eq (hsound : ∀ entry ∈ entries, Sound entry)
    (h : total + sizes entries ≤ maxNamespaceTotalBytes) :
    encodeEntries total entries = .ok (entries.flatMap fields, total + sizes entries) := by
  induction entries generalizing total with
  | nil => rfl
  | cons entry entries ih =>
    rw [List.forall_mem_cons] at hsound
    have hstep : sizes (entry :: entries) = entry.size.toNat + sizes entries := rfl
    have hbound : maxNamespaceTotalBytes < 2 ^ 64 := by decide
    obtain ⟨digest, hdigest⟩ := exists_hexDecode rfl hsound.1.digest
    rw [encodeEntries, addSize_then, hdigest, ok_bind, ih hsound.2 (by omega), ok_bind, hstep,
      ← Nat.add_assoc, List.flatMap_cons, fields, hdigest]
    exact ⟨by omega, rfl⟩

def inventoryFields (a : NamespaceInventoryV1) : List Field :=
  directoryFields a.directory ++ (sorted a.entries).flatMap fields ++
    [u64Field 32 a.entries.length, u64Field 33 (sizes a.entries)]

lemma encode_eq (h : Accepted a) :
    encodeNamespaceFingerprintFrame a = .ok (namespaceDomain ++ frames (inventoryFields a)) := by
  have hp := perm_sorted a.entries
  have hsizes : sizes (sorted a.entries) = sizes a.entries := (hp.map _).sum_eq
  rw [encodeNamespaceFingerprintFrame, validateInventory_eq_ok.mpr h, ok_bind,
    encodeEntries_eq (fun entry he => h.sound entry (hp.mem_iff.mp he)) (by have := h.sizes; omega),
    ok_bind, hsizes,
    Nat.zero_add]
  rfl

lemma sorted_eq_of_perm (h : Accepted a) (hp : entries.Perm a.entries) : sorted entries = sorted a.entries := by
  refine List.Perm.eq_of_pairwise ?_ (pairwise_mergeSort NamespaceFingerprintEntry.name _)
    (pairwise_mergeSort NamespaceFingerprintEntry.name _)
    ((perm_sorted _).trans (hp.trans (perm_sorted _).symm))
  intro x y hx hy hxy hyx
  exact List.inj_on_of_nodup_map h.names (hp.mem_iff.mp ((perm_sorted _).mem_iff.mp hx))
    ((perm_sorted _).mem_iff.mp hy) (List.le_antisymm hxy hyx)

lemma fileTypeCode_injective : Function.Injective fileTypeCode := by
  rintro (_ | _ | _ | _) (_ | _ | _ | _) h <;> first | rfl | cases h

lemma fields_injOn : Set.InjOn fields {entry | Sound entry} := by
  rintro x hx y hy h
  obtain ⟨dx, hdx⟩ := exists_hexDecode rfl hx.digest
  obtain ⟨dy, hdy⟩ := exists_hexDecode rfl hy.digest
  simp only [fields, entryFields, u64Field, hdx, hdy, Except.toOption, Option.getD_some,
    List.cons.injEq, Prod.mk.injEq,
    leBytes_uint64_inj, leBytes_uint32_inj, fileTypeCode_injective.eq_iff, true_and, and_true] at h
  obtain ⟨hname, htype, huid, hgid, hmode, hnlink, hsize, hdigest, -⟩ := h
  have hvalue := (utf8Bytes_of_hexDecode hdx).trans (hdigest ▸ (utf8Bytes_of_hexDecode hdy).symm)
  rw [utf8Bytes_injective.eq_iff] at hvalue
  have hclass := hx.classification
  rw [hname, htype, hnlink, hy.classification] at hclass
  rcases x with ⟨_, _, _, _, _, _, _, ⟨_⟩, _⟩
  rcases y with ⟨_, _, _, _, _, _, _, ⟨_⟩, _⟩
  simp_all

lemma separates_frame : Separates (fun field : Field => frame field.1 field.2)
    {field | field.2.length < 2 ^ 64} := by
  rintro ⟨t, v⟩ hv ⟨t', v'⟩ hv' x y h
  obtain ⟨rfl, hrest⟩ := List.cons.inj h
  obtain ⟨rfl, rfl⟩ := separates_leBytes v hv v' hv' x y hrest
  exact ⟨rfl, rfl⟩

lemma length_fields_le (h : Accepted a) : ∀ field ∈ inventoryFields a, field.2.length ≤ maxPathBytes := by
  have hu64 (tag : UInt8) (value : ℕ) : (u64Field tag value).2.length ≤ maxPathBytes := by
    rw [u64Field, length_leBytes]
    decide
  rw [inventoryFields, List.forall_mem_append, List.forall_mem_append, List.forall_mem_flatMap]
  refine ⟨⟨?_, fun entry he => ?_⟩, by simp [hu64]⟩
  · have hpath := (require_eq_ok.mp (then_eq_ok.mp h.path).1).1.2
    simp only [directoryFields, List.forall_mem_cons, hu64, hpath, List.not_mem_nil, false_imp_iff, implies_true]
    decide
  · have hsound := h.sound entry ((perm_sorted _).mem_iff.mp he)
    have hname := hsound.name.2.trans (show maxNamespaceNameBytes ≤ maxPathBytes by decide)
    obtain ⟨digest, hdigest⟩ := exists_hexDecode rfl hsound.digest
    have hlength : digest.length ≤ maxPathBytes := by
      have hhex : (utf8Bytes entry.ciphertextSha256.value).length = 64 :=
        eq_of_beq (Bool.and_eq_true_iff.mp hsound.digest).1
      have hcount : 64 = digest.length * 2 := by
        simpa [List.length_flatMap, hhex] using congrArg List.length (utf8Bytes_of_hexDecode hdigest)
      rw [maxPathBytes]
      omega
    simp only [fields, entryFields, hdigest, Except.toOption, Option.getD_some, List.forall_mem_cons,
      hu64, hname, hlength, List.length_singleton, List.not_mem_nil, false_imp_iff, implies_true,
      true_and, and_true]
    decide

/-- The frame of an accepted inventory does not depend on the order of its entries and determines everything in
it. -/
theorem fingerprint_frame_canonical (a : NamespaceInventoryV1) (ha : validateInventory a = .ok ()) :
    (∃ frame, encodeNamespaceFingerprintFrame a = .ok frame) ∧
    (∀ entries, entries.Perm a.entries →
      encodeNamespaceFingerprintFrame ⟨a.directory, entries⟩ = encodeNamespaceFingerprintFrame a) ∧
    ∀ b, validateInventory b = .ok () → encodeNamespaceFingerprintFrame a = encodeNamespaceFingerprintFrame b →
      a.directory = b.directory ∧ a.entries.Perm b.entries := by
  rw [validateInventory_eq_ok] at ha
  refine ⟨⟨_, encode_eq ha⟩, fun entries hp => ?_, fun b hb h => ?_⟩
  · rw [encode_eq ha, encode_eq (ha.of_perm hp), inventoryFields, inventoryFields, sorted_eq_of_perm ha hp,
      hp.length_eq, show sizes entries = sizes a.entries from (hp.map _).sum_eq]
  · rw [validateInventory_eq_ok] at hb
    rw [encode_eq ha, encode_eq hb, Except.ok.injEq, List.append_cancel_left_eq] at h
    have hfits {c : NamespaceInventoryV1} (hc : Accepted c) := fun field hf =>
      (length_fields_le hc field hf).trans_lt (show maxPathBytes < 2 ^ 64 by decide)
    have hfields := separates_frame.flatMap_inj (fun _ h => by cases h) (hfits ha) (hfits hb) h
    obtain ⟨hleft, -⟩ := List.append_inj' hfields rfl
    obtain ⟨hdirectory, hentries⟩ := List.append_inj hleft rfl
    refine ⟨?_, ?_⟩
    · simp only [directoryFields, u64Field, List.cons.injEq, Prod.mk.injEq, leBytes_uint64_inj, leBytes_uint32_inj,
        utf8Bytes_injective.eq_iff, true_and, and_true] at hdirectory
      cases ha : a.directory; cases hb : b.directory; simp_all
    · have hsep : Separates fields {entry | Sound entry} := separates_of_length fields_injOn (n := 10) fun _ => rfl
      have hsorted := hsep.flatMap_inj (fun _ h => by cases h)
        (fun entry he => ha.sound entry ((perm_sorted _).mem_iff.mp he))
        (fun entry he => hb.sound entry ((perm_sorted _).mem_iff.mp he)) hentries
      exact (perm_sorted _).symm.trans (hsorted ▸ perm_sorted _)

def sampleEntry (name : Name) : NamespaceFingerprintEntry :=
  ⟨name, .regular, 0, 0, 0o600, 1, 3,
    ⟨"0123456789abcdef0123456789abcdef0123456789abcdef0123456789abcdef"⟩, .nonUtf8⟩

def sampleInventory (names : List Name) : NamespaceInventoryV1 := ⟨⟨"/n", 0, 0, 0o700, 2⟩, names.map sampleEntry⟩

theorem fingerprint_frame_canonical_two : validateInventory (sampleInventory [[255], [254, 1]]) = .ok () ∧
    encodeNamespaceFingerprintFrame (sampleInventory [[254, 1], [255]]) =
      encodeNamespaceFingerprintFrame (sampleInventory [[255], [254, 1]]) :=
  have h : validateInventory (sampleInventory [[255], [254, 1]]) = .ok () := by decide +kernel
  ⟨h, (fingerprint_frame_canonical _ h).2.1 _ (List.Perm.swap _ _ _)⟩

end Howy.Daemon.Fingerprints
