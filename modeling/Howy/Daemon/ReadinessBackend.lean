import Howy.Daemon.Readiness
import Howy.Daemon.Usability
import Howy.Library.Sightings
import Howy.Storage.Mode1Crash

namespace Howy.Daemon.ReadinessBackend

open Library Storage Howyenc1Exact Budget Mode1 Mode1Crash Provisioning Usability Fingerprints

structure Derived (externals : Externals) (security : SecurityConfig) (key : Aes256Key) (digest : ModelDigest)
    (backend : Mode1StorageBackend) (budget : PlaintextBudget) : Prop where
  gcm : backend.gcm = externals.gcm
  key : backend.key = key
  keyEpoch : backend.keyEpoch = security.keyEpoch
  model : backend.recognizerModel = digest
  owner : backend.expectedOwner = productionOwner
  maxEntries : backend.limits.maxEntries = security.maxEmbeddingsPerUser.toNat
  maxPlaintextBytes : backend.limits.maxPlaintextBytes = security.maxRecordBytes.toNat
  budget : budget = opened security.maxPlaintextBytes.toNat

lemma exists_derived {externals : Externals} {config : HowyConfig} {key : Aes256Key} {digest : ModelDigest}
    {backendIdentity : FixedArray UInt8 32} (hv : Validated config.security)
    (hmode : config.security.embeddingMode = .aeadCached) :
    ∃ backend budget, initializeStorageBackend externals config (some digest) (.mode1 key backendIdentity) =
      .ok (.mode1 backend, budget) ∧ Derived externals config.security key digest backend budget := by
  obtain ⟨built, hinit, hb, hgcm, hkey, hepoch, hmodel⟩ := exists_initialize_mode1 hv hmode
  exact ⟨built, _, hinit, hgcm, hkey, hepoch, hmodel, hb.owner, hb.maxEntries, hb.maxPlaintextBytes, rfl⟩

variable {sha256 : Sha256} {ns : Namespace} {inventory : StrongInventory} {node : DirectoryNode}
  {remaining total : ℕ} {α : Type}

structure Recorded (ns : Namespace) (record : AuthoritativeRecord) : Prop where
  lookup : ns.files.lookup record.name = some record.file
  entry : entryClass record.name record.file = .authoritative record.username
  isRecordFile : isRecordFile productionOwner record.file = true

lemma Recorded.name_eq {record : AuthoritativeRecord} (h : Recorded ns record) :
    record.name = filename record.username :=
  classifyName_eq_authoritative.mp (classifyName_of_entryClass h.entry (by simp))

lemma inventoryEntry_eq_ok {name : Name} {visited : Inventoried}
    (h : inventoryEntry sha256 ns total name = .ok visited) (ha : isAuthoritative visited.entry.classification) :
    ∃ record, visited.record = some record ∧ record.name = name ∧ Recorded ns record := by
  rw [inventoryEntry, then_eq_ok] at h
  obtain ⟨-, h⟩ := h
  cases hnode : ns.files.lookup name with
  | none =>
    rw [hnode] at h
    cases h
  | some node =>
    rw [hnode] at h
    cases hclass : classifyMode1NamespaceEntry name node.kind node.nlink with
    | authoritative u =>
      simp only [hclass, failIf_eq_ok, bind_eq_ok, pure_eq_ok, not_or, not_not] at h
      obtain ⟨_, ⟨hkind, huid, -, hmode, hnlink, -⟩, _, -, rfl⟩ := h
      refine ⟨_, rfl, rfl, hnode, hclass, ?_⟩
      simp [isRecordFile, hkind, huid, hmode, hnlink]
    | _ =>
      simp only [hclass, pure_eq_ok] at h
      subst h
      cases ha

lemma inventoryNames_eq_ok {names : List Name} {entries : List NamespaceFingerprintEntry}
    {records : List AuthoritativeRecord} (h : inventoryNames sha256 ns remaining total names =
      .ok (entries, records))
    (ha : ∀ entry ∈ entries, isAuthoritative entry.classification) :
    records.map (·.name) = names ∧ (∀ record ∈ records, Recorded ns record) ∧ names.length ≤ remaining := by
  induction names generalizing remaining total entries records with
  | nil =>
    cases remaining <;>
    · cases h
      exact ⟨rfl, by simp, Nat.zero_le _⟩
  | cons name names ih =>
    cases remaining with
    | zero => cases h
    | succ remaining =>
      simp only [inventoryNames, bind_eq_ok, pure_eq_ok, Prod.exists] at h
      obtain ⟨visited, hvisited, entries', records', hrest, rfl, rfl⟩ := h
      obtain ⟨record, hrecord, hname, hr⟩ := inventoryEntry_eq_ok hvisited (ha _ List.mem_cons_self)
      obtain ⟨hnames, hrecords, hlength⟩ := ih hrest fun entry he => ha entry (List.mem_cons_of_mem _ he)
      rw [hrecord]
      refine ⟨?_, ?_, Nat.succ_le_succ hlength⟩
      · rw [Option.toList_some, List.singleton_append, List.map_cons, hnames, hname]
      · rw [Option.toList_some, List.singleton_append, List.forall_mem_cons]
        exact ⟨hr, hrecords⟩

lemma validateAncestor_eq_ok (h : validateAncestor node = .ok ()) :
    node.isDirectory ∧ node.uid = productionOwner := by
  simp only [validateAncestor, failIf_eq_ok, not_or, not_not] at h
  exact ⟨h.1, h.2.1⟩

structure Inventory (ns : Namespace) (inventory : StrongInventory) : Prop where
  ancestors : ∀ node ∈ ns.ancestors, node.isDirectory = true
  parent : ns.parent.isDirectory = true ∧ ns.parent.uid = productionOwner
  directory : ns.directory.isDirectory = true ∧ ns.directory.uid = productionOwner ∧ ns.directory.mode = 0o700
  names : (inventory.records.map (·.name)).Perm ns.files.keys
  records : ∀ record ∈ inventory.records, Recorded ns record
  length_le : ns.files.keys.length ≤ maxNamespaceEntries

lemma inventory_of_ok {order : ListingOrder} (h : inventoryMode1Namespace sha256 ns order = .ok inventory)
    (hready : validateReadinessInventory inventory.logical = .ok ()) : Inventory ns inventory := by
  simp only [inventoryMode1Namespace, openAbsoluteDirectoryNoFollow, bind_eq_ok, failIf_eq_ok,
    pure_eq_ok, Prod.exists, not_or, not_not] at h
  obtain ⟨_, ⟨⟨⟩, hancestors, ⟨⟩, hparent, -, -, rfl⟩, -, hdirectory, entries, records, hnames, rfl⟩ := h
  rw [checkAll_eq_ok] at hancestors
  simp only [validateReadinessInventory, then_eq_ok, failIf_eq_ok, List.any_eq_true, not_exists, not_and] at hready
  obtain ⟨-, -, hentries⟩ := hready
  have ha : ∀ entry ∈ entries, isAuthoritative entry.classification := by
    intro entry he
    have := hentries entry (List.mem_mergeSort.mpr he)
    simp only [Bool.or_eq_true, not_or] at this
    simpa using this.1.1.1.1.1
  obtain ⟨hkeys, hrecords, hlength⟩ := inventoryNames_eq_ok hnames ha
  have hperm := order.property ns.files.keys
  refine ⟨fun node hn => (validateAncestor_eq_ok (hancestors node hn)).1, validateAncestor_eq_ok hparent,
    ⟨hdirectory.1, hdirectory.2.1, hdirectory.2.2.2.1⟩, ?_,
    fun record hr => hrecords record (List.mem_mergeSort.mp hr),
    hperm.length_eq ▸ hlength⟩
  rw [← hkeys] at hperm
  exact ((List.mergeSort_perm _ _).map _).trans hperm

variable {statuses : List OuterRecordStatus} {externals : Externals} {config : HowyConfig} {key : Aes256Key}
  {digest : ModelDigest} {backend : Mode1StorageBackend} {budget : PlaintextBudget} {record : EnrollmentRecord}

structure Readable (backend : Mode1StorageBackend) (budget : PlaintextBudget) (u : CanonicalUsername)
    (file : FileNode) (header : EncryptedHeader) (record : EnrollmentRecord) : Prop where
  inspects : Inspects backend u file header
  reserved : ∃ estimate permit, PlaintextAllocationEstimate.forEncryptedHeader header = .ok estimate ∧
    reserveOperation budget estimate.coldLoadPeakBytes = .ok permit
  decoded : decodeHowyenc1 backend.gcm file.contents backend.key .aeadCached backend.keyEpoch u
    backend.recognizerModel = .ok record

lemma readable_of_verified (hd : Derived externals config.security key digest backend budget)
    {source : AuthoritativeRecord} (hs : Recorded ns source)
    (h : verifyAuthoritativeRecord externals.gcm config key digest
      (opened config.security.maxPlaintextBytes.toNat) source =
      .ok record) : ∃ header, Readable backend budget source.username source.file header record := by
  simp only [verifyAuthoritativeRecord, bind_eq_ok, mapError_eq_ok] at h
  obtain ⟨header, hheader, header', hmeta, estimate, hestimate, permit, hpermit, hdecoded⟩ := h
  rw [← hd.keyEpoch, ← hd.model, ← hd.maxEntries, ← hd.maxPlaintextBytes] at hmeta
  obtain ⟨hbytes, hw, htotal, hcount, hplain, hmode, hepoch, hname, hmodel⟩ :=
    (inspectMetadata_eq_ok backend).mp (mapError_eq_ok.mpr hmeta)
  -- both inspections read the same header off the file
  have hsame : inspectHowyenc1 source.file.contents = .ok header' := by
    refine inspectHowyenc1_eq_ok.mpr ⟨source.file.contents.drop header.headerLength, ?_, hw, ?_⟩
    · rw [← hbytes, List.take_append_drop]
    have hlen := congrArg List.length hbytes
    rw [length_bytesOf hw, List.length_take] at hlen
    rw [List.length_drop]
    omega
  rw [hheader, Except.ok.injEq] at hsame
  subst hsame
  refine ⟨header, ⟨hd.owner ▸ hs.isRecordFile, hheader, hcount, hplain, hmode, hepoch, hname, hmodel⟩,
    ⟨estimate, permit, hestimate, hd.budget ▸ hpermit⟩, ?_⟩
  rw [hd.gcm, hd.key, hd.keyEpoch, hd.model]
  exact hdecoded

lemma reserveOperation_bytes {bytes : ℕ} {permit : BudgetPermit} (h : reserveOperation budget bytes = .ok permit) :
    permit = ⟨bytes, true⟩ := by
  rw [Daemon.reserveOperation] at h
  split at h
  · cases h
  · exact (Except.ok.inj h).symm

variable {u : CanonicalUsername} {file : FileNode} {header : EncryptedHeader}

lemma Readable.generation (h : Readable backend budget u file header record) :
    header.recordGeneration = record.generation := by
  have hr : recordIn backend u file = some record := by
    rw [recordIn, h.decoded]
    rfl
  obtain ⟨nonce, rfl⟩ := header_eq backend h.inspects hr
  rfl

lemma Readable.loadRecord (h : Readable backend budget u file header record) :
    ∃ permit, Mode1StorageBackend.loadRecord backend budget u (some file) = .ok ⟨record, permit⟩ := by
  obtain ⟨estimate, permit, hestimate, hpermit⟩ := h.reserved
  have hi : inspectNode backend u (some file) = .ok (some (inspectedRecord file header)) :=
    (inspectNode_eq_ok backend).mpr (.inr ⟨file, header, rfl, h.inspects, rfl⟩)
  obtain rfl := reserveOperation_bytes hpermit
  refine ⟨⟨estimate.coldLoadPeakBytes, true⟩, ?_⟩
  rw [Mode1StorageBackend.loadRecord, hi]
  simp only [ok_bind, inspectedRecord, hestimate, hpermit, decryptFile, h.decoded]
  rw [bind_eq_ok]
  exact ⟨(), failIf_eq_ok.mpr (by simp), rfl⟩

variable {s : Shared Directory}

structure Listed (backend : Mode1StorageBackend) (d : Directory) (status : OuterRecordStatus) : Prop where
  found : ∃ file header, d.lookup (filename status.username) = some file ∧
    entryClass (filename status.username) file = .authoritative status.username ∧
    Inspects backend status.username file header ∧ status.classification = .candidate header.recordGeneration

lemma sure_inspectDirectory {operation : IoOperation} :
    Sure Choice.FaultFree (action (onDirectory operation .ok)) s () := by
  apply sure_action
  intro c hc
  rw [onDirectory, hc.fault]

lemma sure_inspectRecord
    (hfile : s.disk.lookup (filename u) = some file) (hi : Inspects backend u file header) :
    Sure Choice.FaultFree (captured (inspectRecord backend activeFile u false)) s
      (.ok (some (inspectedRecord file header))) := by
  have hcalm : Calm Choice.FaultFree false False := .inr ⟨rfl, fun _ hc => hc⟩
  have hreports : Reports Choice.FaultFree (fun s => activeFile s.disk u = some file) False
      (inspectNode backend u (some file)) (inspectRecord backend activeFile u false) :=
    (reports_checkCancelled hcalm).ok_bind (reports_inspectNamedRecord backend hcalm (activeFile · u) u)
  rw [(inspectNode_eq_ok backend).mpr (.inr ⟨file, header, rfl, hi, rfl⟩)] at hreports
  exact answers_bind (answers_of_finds hreports (fun _ he => he) Mode1.plain_inspectRecord.unblocked hfile) rfl

lemma sure_scanEntry {status : OuterRecordStatus} (h : Listed backend s.disk status) :
    Sure Choice.FaultFree (scanEntry backend (filename status.username)) s ⟨[status], false⟩ := by
  obtain ⟨file, header, hfile, hclass, hi, hstatus⟩ := h.found
  obtain ⟨u, classification⟩ := status
  subst hstatus
  have hmetadata : Sure Choice.FaultFree (namespaceEntryMetadata (filename u)) s file := by
    refine .bind (sure_query fun c hc => ?_) (sure_inspectDirectory.bind sure_pure)
    rw [hc.fault, hfile]
  refine hmetadata.bind ?_
  rw [show classifyMode1NamespaceEntry _ file.kind file.nlink = _ from hclass]
  refine (sure_inspectRecord hfile hi).bind ((sure_fromExcept rfl).bind ?_)
  exact .bind (a := ()) (sure_query fun c hc => by rw [hc.exhausted]; rfl) sure_pure

lemma sure_scanNames
    (h : ∀ status ∈ statuses, Listed backend s.disk status) (hlength : statuses.length ≤ remaining) :
    Sure Choice.FaultFree (scanNames backend remaining (statuses.map (filename ·.username))) s
    ⟨statuses, false⟩ := by
  induction statuses generalizing remaining with
  | nil => cases remaining <;> exact sure_inspectDirectory.bind sure_pure
  | cons status statuses ih =>
    cases remaining with
    | zero => exact absurd hlength (Nat.not_succ_le_zero _)
    | succ remaining =>
      refine sure_inspectDirectory.bind ((sure_scanEntry (h _ List.mem_cons_self)).bind ?_)
      exact (ih (fun x hx => h x (List.mem_cons_of_mem _ hx)) (Nat.le_of_succ_le_succ hlength)).bind sure_pure

instance : Std.Total statusLe := ⟨fun a b => String.le_total a.username.name b.username.name⟩

instance : IsTrans OuterRecordStatus statusLe := ⟨fun _ _ _ => String.le_trans⟩

lemma insertionSort_eq_of_perm {l l' : List OuterRecordStatus} (hp : l.Perm l')
    (hn : (l'.map (·.username)).Nodup) : l.insertionSort statusLe = l'.insertionSort statusLe := by
  have hl := List.perm_insertionSort statusLe l
  have hl' := List.perm_insertionSort statusLe l'
  refine List.Perm.eq_of_pairwise ?_ (List.pairwise_insertionSort statusLe l)
    (List.pairwise_insertionSort statusLe l') ((hl.trans hp).trans hl'.symm)
  intro a b ha hb hab hba
  have hname : a.username = b.username := by
    obtain ⟨⟨name, canonical⟩, classification⟩ := a
    obtain ⟨⟨name', canonical'⟩, classification'⟩ := b
    obtain rfl : name = name' := String.le_antisymm hab hba
    rfl
  exact List.inj_on_of_nodup_map hn ((hl.trans hp).mem_iff.mp ha) (hl'.mem_iff.mp hb) hname

lemma sure_scanOuterHeaders (h : ∀ status ∈ statuses, Listed backend s.disk status)
    (hkeys : (statuses.map (filename ·.username)).Perm s.disk.keys)
    (hlength : statuses.length ≤ maxMode1NamespaceEntries) :
    Sure Choice.FaultFree (scanOuterHeaders backend) s (statuses.insertionSort statusLe) := by
  have hnodup : (statuses.map (·.username)).Nodup := by
    refine List.Nodup.of_map filename ?_
    rw [List.map_map]
    exact hkeys.nodup_iff.mpr s.disk.nodupKeys
  refine .bind (a := ()) (sure_action fun c hc => ?_) (sure_inspectDirectory.bind ?_)
  · rw [hc.hook]
  -- the order in which the names are listed is the choice of this step
  intro c hc
  obtain ⟨found, hnames, hperm⟩ : ∃ found : List OuterRecordStatus,
      c.order.val s.disk.keys = found.map (filename ·.username) ∧ found.Perm statuses := by
    have hlisted := (c.order.property s.disk.keys).trans hkeys.symm
    exact (congrFun₂ (List.eq_map_comp_perm fun status : OuterRecordStatus => filename status.username)
      _ _).mpr hlisted
  refine ⟨.ok (found.map (filename ·.username)), ?_, ?_⟩
  · simp [hc.fault, hnames]
  have hfound : Sure Choice.FaultFree
      (scanNames backend maxMode1NamespaceEntries (found.map (filename ·.username))) s ⟨found, false⟩ :=
    sure_scanNames (fun status hs => h status (hperm.mem_iff.mp hs)) (hperm.length_eq ▸ hlength)
  rw [← insertionSort_eq_of_perm hperm hnodup]
  exact hfound.bind sure_pure

variable {gcm : Aes256Gcm} {order : ListingOrder}
  {resolveRecognizer : Except ReadinessError StrongRecognizerBinding}
  {result : ReadinessResult} {records : List (CanonicalUsername × EnrollmentRecord)}

lemma verified_of_ok (hresolve : ∀ binding, resolveRecognizer = .ok binding → binding.digest = digest)
    (h : verifyMode1Namespace sha256 gcm config key ns order resolveRecognizer = .ok (result, records)) :
    config.security.embeddingMode = .aeadCached ∧ ∃ inventory, Inventory ns inventory ∧
      List.Forall₂ (fun source p => p.1 = source.username ∧ verifyAuthoritativeRecord gcm config key digest
        (opened config.security.maxPlaintextBytes.toNat) source = .ok p.2) inventory.records records := by
  simp only [verifyMode1Namespace, bind_eq_ok, failIf_eq_ok, not_or, not_not] at h
  obtain ⟨_, ⟨hmode, -⟩, inventory, hinventory, fingerprint, -, ⟨⟩, hready, h⟩ := h
  refine ⟨hmode, inventory, inventory_of_ok hinventory (mapError_eq_ok.mp hready), ?_⟩
  split at h
  next hempty =>
    simp only [bind_eq_ok, pure_eq_ok] at h
    obtain ⟨_, -, -, rfl⟩ := h
    rw [hempty]
    exact .nil
  · simp only [bind_eq_ok, pure_eq_ok, mapError_eq_ok, plaintextBudget_eq_ok, mapM_eq_ok] at h
    obtain ⟨binding, hbinding, _, ⟨-, rfl⟩, _, hrecords, _, -, -, rfl⟩ := h
    refine hrecords.imp fun source p hp => ?_
    rw [map_eq_pure_bind, bind_eq_ok] at hp
    obtain ⟨record, hrecord, hp⟩ := hp
    rw [pure_eq_ok] at hp
    subst hp
    exact ⟨rfl, hresolve binding hbinding ▸ hrecord⟩

lemma openDirectoryNoFollow_eq_ok {above : List DirectoryNode}
    (habove : ∀ x ∈ above, x.isDirectory) (hnode : node.isDirectory) (huid : node.uid = productionOwner) :
    openDirectoryNoFollow above node = .ok { node with mode := 0o700 } := by
  simp only [openDirectoryNoFollow, validateDirectory, then_eq_ok, failIf_eq_ok, pure_eq_ok, List.all_append,
    List.all_eq_true.mpr habove, List.all_cons, List.all_nil, hnode, huid]
  decide

lemma openStorageRoot_eq_ok (h : Inventory ns inventory) : openStorageRoot ns = .ok ns.directory := by
  obtain ⟨hd, huid, hmode⟩ := h.directory
  have hparent := openDirectoryNoFollow_eq_ok h.ancestors h.parent.1 h.parent.2
  have habove : ∀ x ∈ ns.ancestors ++ [{ ns.parent with mode := 0o700 }], x.isDirectory := by
    intro x hx
    rcases List.mem_append.mp hx with hx | hx
    · exact h.ancestors x hx
    · rw [List.mem_singleton.mp hx]
      exact h.parent.1
  have hfixed : { ns.directory with mode := 0o700 } = ns.directory := by rw [← hmode]
  rw [openStorageRoot, hparent, ok_bind, openDirectoryNoFollow_eq_ok habove hd huid, hfixed]
  simp only [validateDirectory, then_eq_ok, ok_bind, pure_eq_ok, h.parent, hd, huid, hmode]
  decide

def candidate (p : CanonicalUsername × EnrollmentRecord) : OuterRecordStatus := ⟨p.1, .candidate p.2.generation⟩

lemma forM_readiness_eq_ok (h : ∀ status ∈ statuses, readiness status = .ok ()) :
    statuses.forM readiness = .ok () := by
  induction statuses with
  | nil => rfl
  | cons status statuses ih =>
    obtain ⟨hs, hrest⟩ := List.forall_mem_cons.mp h
    change (readiness status >>= fun _ => statuses.forM readiness) = _
    rw [hs, ok_bind, ih hrest]

lemma served_of_verified {sources : List AuthoritativeRecord}
    (hd : Derived externals config.security key digest backend budget) (hsources : ∀ source ∈ sources,
      Recorded ns source)
    (h : List.Forall₂ (fun source p => p.1 = source.username ∧ verifyAuthoritativeRecord externals.gcm
      config key digest (opened config.security.maxPlaintextBytes.toNat) source = .ok p.2) sources records) :
    sources.map (·.name) = records.map (filename ·.1) ∧ ∀ p ∈ records, ∃ file header,
      ns.files.lookup (filename p.1) = some file ∧ entryClass (filename p.1) file = .authoritative p.1 ∧
        Readable backend budget p.1 file header p.2 := by
  induction h with
  | nil => exact ⟨rfl, by simp⟩
  | @cons source p sources records hp _ ih =>
    obtain ⟨hs, hsources⟩ := List.forall_mem_cons.mp hsources
    obtain ⟨hnames, hrecords⟩ := ih hsources
    obtain ⟨u, record⟩ := p
    obtain ⟨rfl, hverified⟩ := hp
    obtain ⟨header, hreadable⟩ := readable_of_verified hd hs hverified
    have hname := hs.name_eq
    refine ⟨by rw [List.map_cons, List.map_cons, hnames, hname], List.forall_mem_cons.mpr ⟨?_, hrecords⟩⟩
    rw [← hname]
    exact ⟨source.file, header, hs.lookup, hs.entry, hreadable⟩

/-- A namespace that passes the check with a validated configuration is served by the backend of that
configuration. -/
theorem readiness_predicts_backend (sha256 : Sha256) (externals : Externals) (config : HowyConfig)
    (key : Aes256Key) (backendIdentity : FixedArray UInt8 32) (digest : ModelDigest) (ns : Namespace)
    (order : ListingOrder)
    (resolveRecognizer : Except ReadinessError StrongRecognizerBinding) (hvalid : config.validate = .ok ())
    (hresolve : ∀ binding, resolveRecognizer = .ok binding → binding.digest = digest) (result : ReadinessResult)
    (records : List (CanonicalUsername × EnrollmentRecord))
    (h : verifyMode1Namespace sha256 externals.gcm config key ns order resolveRecognizer = .ok (result, records)) :
    ∃ backend budget,
      initializeStorageBackend externals config (some digest) (.mode1 key backendIdentity) =
      .ok (.mode1 backend, budget) ∧
      openStorageRoot ns = .ok ns.directory ∧
      Answers Choice.FaultFree { disk := ns.files } (.ok ()) (newWithSources backend).run ∧
      Answers Choice.FaultFree { disk := ns.files } (.ok ((records.map candidate).insertionSort statusLe))
        (scanOuterHeaders backend).run ∧
      (records.map (filename ·.1)).Perm ns.files.keys ∧
      ∀ p ∈ records, ∃ permit, Mode1StorageBackend.loadRecord backend budget p.1 (ns.files.lookup (filename p.1)) =
        .ok ⟨p.2, permit⟩ := by
  obtain ⟨hmode, inventory, hinventory, hverified⟩ := verified_of_ok hresolve h
  obtain ⟨backend, budget, hinit, hd⟩ :=
    exists_derived (validated_of_validate hvalid) hmode
  obtain ⟨hnames, hserved⟩ := served_of_verified hd hinventory.records hverified
  have hkeys := hnames ▸ hinventory.names
  have hlisted : ∀ status ∈ records.map candidate, Listed backend ns.files status := by
    intro status hs
    obtain ⟨p, hp, rfl⟩ := List.mem_map.mp hs
    obtain ⟨file, header, hfile, hclass, hreadable⟩ := hserved p hp
    exact ⟨file, header, hfile, hclass, hreadable.inspects, by rw [candidate, hreadable.generation]⟩
  have hscan : Sure Choice.FaultFree (scanOuterHeaders backend) { disk := ns.files }
      ((records.map candidate).insertionSort statusLe) := by
    refine sure_scanOuterHeaders hlisted ?_ ?_
    · rw [List.map_map]
      exact hkeys
    · have hlength := hkeys.length_eq
      rw [List.length_map] at hlength ⊢
      exact hlength.trans_le (hinventory.length_le.trans (by decide))
  have hready : ((records.map candidate).insertionSort statusLe).forM readiness = .ok () := by
    refine forM_readiness_eq_ok fun status hs => ?_
    obtain ⟨p, -, rfl⟩ := List.mem_map.mp ((List.mem_insertionSort _).mp hs)
    rfl
  refine ⟨backend, budget, hinit, openStorageRoot_eq_ok hinventory, ?_, hscan, hkeys, fun p hp => ?_⟩
  · refine Sure.bind hscan ?_
    rw [hready]
    exact sure_fromExcept rfl
  · obtain ⟨file, header, hfile, -, hreadable⟩ := hserved p hp
    rw [hfile]
    exact hreadable.loadRecord

def zeroSha256 : Sha256 := fun _ => .filled 32 0

def bareRecord : EnrollmentRecord :=
  ⟨1, .filled 32 7, alice, [], aliceRecord.generation_ne_zero, Nat.zero_le _, List.Pairwise.nil⟩

def bareBytes : Bytes :=
  match encodeHowyenc1WithNonce copyCipher bareRecord .aeadCached 1 (.filled 32 5) (.filled 12 9) with
  | .ok bytes => bytes
  | .error _ => []

def namespaceWith (files : Directory) : Namespace where
  ancestors := [⟨true, 0, 0, 0o755, 2⟩, ⟨true, 0, 0, 0o755, 2⟩]
  parent := ⟨true, 0, 0, 0o755, 2⟩
  directory := ⟨true, 0, 0, 0o700, 2⟩
  files := files
  gid := fun _ => 0

def recognizerBinding : StrongRecognizerBinding :=
  ⟨.filled 32 7, ⟨"/usr/share/howy/recognizer.onnx", Sha256Digest.fromBytes zeroSha256 []⟩⟩

def readyConfig : HowyConfig := configWith .aeadCached 100 2621440 67108864 32 33554432

def bareNamespace : Namespace :=
  namespaceWith ((∅ : Directory).insert (filename alice) (recordNode productionOwner bareBytes))

lemma exists_of_toOption_map {β ε : Type} {x : Except ε (α × β)} {b : β} (h : x.toOption.map (·.2) = some b) :
    ∃ a, x = .ok (a, b) := by
  cases x with
  | error e => cases h
  | ok p => exact ⟨p.1, congrArg Except.ok (Prod.ext rfl (Option.some.inj h))⟩

theorem readiness_predicts_backend_alice :
    ∃ result, verifyMode1Namespace zeroSha256 copyCipher readyConfig (.filled 32 5) bareNamespace
        ⟨id, List.Perm.refl⟩ (.ok recognizerBinding) = .ok (result, [(alice, bareRecord)]) ∧
      ∃ backend budget, initializeStorageBackend sampleExternals readyConfig (some (.filled 32 7))
          (.mode1 (.filled 32 5) (.filled 32 1)) = .ok (.mode1 backend, budget) ∧
        Answers Choice.FaultFree { disk := bareNamespace.files } (.ok [⟨alice, .candidate 1⟩])
          (scanOuterHeaders backend).run ∧
        ∃ permit, Mode1StorageBackend.loadRecord backend budget alice
          (bareNamespace.files.lookup (filename alice)) = .ok ⟨bareRecord, permit⟩ := by
  obtain ⟨result, hverified⟩ := exists_of_toOption_map (x := verifyMode1Namespace zeroSha256 copyCipher readyConfig
    (.filled 32 5) bareNamespace ⟨id, List.Perm.refl⟩ (.ok recognizerBinding)) (b := [(alice, bareRecord)])
    (by decide +kernel)
  obtain ⟨backend, budget, hinit, -, -, hscan, -, hload⟩ :=
    readiness_predicts_backend zeroSha256 sampleExternals readyConfig
    (.filled 32 5) (.filled 32 1) (.filled 32 7) bareNamespace ⟨id, List.Perm.refl⟩
    (.ok recognizerBinding) (by decide +kernel) (by rintro _ ⟨⟩; rfl) result _ hverified
  exact ⟨result, hverified, backend, budget, hinit, hscan, hload _ List.mem_cons_self⟩

/-- The check never looks at the cache limits: with none it accepts an empty namespace on which no backend
starts. -/
theorem readiness_ignores_cache_limits :
    ∃ result, verifyMode1Namespace zeroSha256 copyCipher (configWith .aeadCached 100 2621440 67108864 0 33554432)
        (.filled 32 5) (namespaceWith ∅) ⟨id, List.Perm.refl⟩ (.ok recognizerBinding) = .ok (result, []) ∧
      initializeStorageBackend sampleExternals (configWith .aeadCached 100 2621440 67108864 0 33554432)
          (some (.filled 32 7)) (.mode1 (.filled 32 5) (.filled 32 1)) =
        .error ⟨"invalid mode 1 cache limits", some (.invalidInput "cache user limit")⟩ := by
  obtain ⟨result, hverified⟩ := exists_of_toOption_map (x := verifyMode1Namespace zeroSha256 copyCipher
    (configWith .aeadCached 100 2621440 67108864 0 33554432) (.filled 32 5) (namespaceWith ∅)
    ⟨id, List.Perm.refl⟩ (.ok recognizerBinding)) (b := []) (by decide +kernel)
  exact ⟨result, hverified, rfl⟩

end Howy.Daemon.ReadinessBackend
