import Howy.Bridge.Ownership

namespace Howy.Bridge

open Library

variable {α β : Type} {B : ConfigBridge} {path : Path} {maximum : ℕ} {transactionId : Option String}
  {manifest : StashManifest} {state : GenerationState} {message context : String} {node : Node}

abbrev Looks (p : Op α) : Prop := Reads (fun _ _ => True) p

variable {x : Except BridgeError α} {directory : Directory}

lemma looks_fromExcept : Looks (fromExcept x) := reads_fromExcept.weaken fun _ _ _ => trivial

lemma reads_refuse {R : World → α → Prop} : Reads R (refuse message : Op α) := reads_throw

lemma looks_system : Looks (system context) := reads_query fun _ _ _ _ => trivial

lemma looks_quietSystem : Looks (quietSystem message) := reads_query fun _ _ _ _ => trivial

lemma looks_fstat : Looks fstat := looks_system

lemma looks_syncDirectory : Looks syncDirectory := looks_system

lemma reads_lookup : Reads (fun s found => look s path = found) (lookup path) := by
  apply reads_query
  intro c s found h
  split at h
  · cases h
  · exact Except.ok.inj h

lemma reads_openComponent {components : List String} :
    Reads (fun s stat => s.directories components = some stat) (openComponent B context components) := by
  refine .bind (R := fun s stat => s.directories components = some stat) ?_ fun stat => ?_
  · apply reads_query
    intro c s stat h
    split at h
    · cases h
    · cases h
    next _ hfound =>
      rw [hfound, Except.ok.inj h]
  · apply Reads.andThen looks_fstat
    intro _
    apply Reads.andThen looks_fromExcept
    intro _
    exact reads_pure fun s h => h

lemma reads_openComponents (rest : List String) : ∀ (done : List String) (current : DirectoryStat),
    Reads (fun s stat => s.directories done = some current → s.directories (done ++ rest) = some stat)
      (openComponents B done rest current) := by
  induction rest with
  | nil =>
    intro done current
    apply reads_pure
    intro s h
    rw [List.append_nil]
    exact h
  | cons component rest ih =>
    intro done current
    apply Reads.bind reads_openComponent
    intro next
    apply (ih _ _).weaken
    intro s stat h hnext _
    have hstat := h hnext
    rw [List.append_assoc] at hstat
    exact hstat

lemma reads_openDirectory :
    Reads (fun s stat => s.directories directory.components = some stat) (openDirectory B directory) := by
  apply Reads.bind reads_openComponent
  intro root
  exact (reads_openComponents directory.components [] root).weaken fun s stat h hroot => h hroot

lemma looks_openDirectory : Looks (openDirectory B directory) := reads_openDirectory.weaken fun _ _ _ => trivial

def Shows (B : ConfigBridge) (s : World) (path : Path) : Option Snapshot → Prop
  | none => look s path = none
  | some snapshot => ∃ node, look s path = some node ∧ snapshot.bytes = node.bytes ∧
      record B.platform node = .ok snapshot.record

lemma record_eq_ok {P : Platform} {r : FileRecord} (h : record P node = .ok r) :
    node.kind = .regular ∧ node.nlink = 1 ∧ r.sha256 = P.digest node.bytes ∧ r.metadata.uid = node.uid ∧
      r.metadata.gid = node.gid ∧ r.metadata.permissions = node.permissions := by
  simp only [record, then_eq_ok, require_eq_ok, pure_eq_ok] at h
  obtain ⟨⟨hkind, hlink⟩, -, rfl⟩ := h
  exact ⟨hkind, hlink, rfl, rfl, rfl, rfl⟩

lemma reads_readRegular : Reads (fun s found => Shows B s path found) (readRegular B path maximum) := by
  apply Reads.bind reads_lookup
  intro found
  cases found with
  | none => exact reads_pure fun s h => h
  | some node =>
    apply Reads.andThen looks_fromExcept
    intro _
    apply Reads.andThen looks_system
    intro _
    apply Reads.andThen looks_fstat
    intro _
    apply Reads.andThen looks_quietSystem
    intro _
    apply Reads.andThen looks_fstat
    intro _
    apply Reads.bind reads_fromExcept
    intro r
    exact reads_pure fun s hr h => ⟨node, h, rfl, hr⟩

lemma reads_readPath : Reads (fun s found => Shows B s path found) (readPath B path maximum) := by
  apply Reads.andThen looks_openDirectory
  intro _
  exact reads_readRegular

lemma reads_pathOccupied : Reads (fun s occupied => occupied = false → look s path = none)
    (pathOccupied B path) := by
  apply Reads.andThen looks_openDirectory
  intro _
  apply Reads.bind reads_lookup
  intro found
  apply reads_pure
  intro s hfound hnone
  cases found with
  | none => exact hfound
  | some node => cases hnone

lemma reads_readNamed {path : String} :
    Reads (fun s found => ∃ file, resolve path = some file ∧ Shows B s file found) (readNamed B path maximum) := by
  unfold readNamed
  split
  · exact reads_throw
  next file hfile =>
    exact reads_readPath.weaken fun s found h => ⟨file, hfile, h⟩

lemma looks_newTransactionId : Looks newTransactionId := reads_query fun _ _ _ _ => trivial

lemma looks_validateStashForGeneration : Looks (validateStashForGeneration B state) := by
  apply Reads.andThen looks_fromExcept
  rintro ⟨path, hash, size⟩
  apply Reads.andThen reads_readNamed
  intro found
  cases found with
  | none => exact reads_refuse
  | some stash =>
    apply Reads.andThen looks_fromExcept
    intro _
    exact looks_fromExcept

lemma looks_validateManifestStash : Looks (validateManifestStash B state) := by
  unfold validateManifestStash
  split
  · exact looks_validateStashForGeneration
  · exact looks_validateStashForGeneration
  · exact reads_pure fun _ => trivial

lemma controlNode_of_require {snapshot : Snapshot} {label : String}
    (hrecord : record B.platform node = .ok snapshot.record)
    (h : requireControlFile snapshot B.expectedUid B.expectedGid label = .ok ()) : ControlNode B node := by
  obtain ⟨hkind, hlink, -, huid, hgid, hmode⟩ := record_eq_ok hrecord
  rw [requireControlFile, require_eq_ok] at h
  exact ⟨hkind, hlink, huid ▸ h.1, hgid ▸ h.2.1, hmode ▸ h.2.2.1⟩

def ShowsManifest (B : ConfigBridge) (s : World) : Option (StashManifest × Snapshot) → Prop
  | none => look s manifestFile = none
  | some (manifest, snapshot) => ∃ node, look s manifestFile = some node ∧ ControlNode B node ∧
      B.platform.manifestFromSlice node.bytes = some manifest ∧ snapshot.bytes = node.bytes

lemma reads_validManifest : Reads (fun s found => ShowsManifest B s found ∧
    ∀ pair, found = some pair → pair.1.validate = .ok ()) (readManifest B) := by
  apply Reads.bind reads_readPath
  intro found
  cases found with
  | none => exact reads_pure fun s h => ⟨h, fun _ hpair => nomatch hpair⟩
  | some snapshot =>
    apply Reads.bind reads_fromExcept
    intro _
    split
    · exact reads_refuse
    rename_i hparse
    apply reads_check
    rintro ⟨⟩ hvalid
    apply Reads.andThen looks_validateManifestStash
    intro _
    apply reads_pure
    rintro s hcontrol ⟨node, hnode, hbytes, hrecord⟩
    refine ⟨⟨node, hnode, controlNode_of_require hrecord hcontrol, hbytes ▸ hparse, hbytes⟩, ?_⟩
    rintro _ ⟨⟩
    exact hvalid

lemma reads_readManifest : Reads (fun s found => ShowsManifest B s found) (readManifest B) :=
  reads_validManifest.weaken fun _ _ h => h.1

lemma reads_markerShown : Reads (fun s found => Shows B s markerFile found ∧
    (found.isSome → ∃ node, look s markerFile = some node ∧ ControlNode B node)) (readMarkerSnapshot B) := by
  apply Reads.bind reads_readPath
  intro found
  cases found with
  | none => exact reads_pure fun s h => ⟨h, fun hs => by cases hs⟩
  | some snapshot =>
    apply Reads.bind reads_fromExcept
    intro _
    apply reads_pure
    rintro s hcontrol ⟨node, hnode, hbytes, hrecord⟩
    exact ⟨⟨node, hnode, hbytes, hrecord⟩, fun _ => ⟨node, hnode, controlNode_of_require hrecord hcontrol⟩⟩

lemma reads_readMarkerSnapshot :
    Reads (fun s found => found.isSome → ∃ node, look s markerFile = some node ∧ ControlNode B node)
      (readMarkerSnapshot B) := reads_markerShown.weaken fun _ _ h => h.2

lemma looks_requireBootstrapSource : Looks (requireBootstrapSource B) := by
  apply Reads.andThen reads_readPath
  intro found
  cases found with
  | none => exact reads_refuse
  | some source =>
    apply Reads.andThen looks_fromExcept
    intro _
    apply Reads.andThen looks_fromExcept
    intro _
    exact reads_pure fun _ => trivial

def ShowsConfig (B : ConfigBridge) (s : World) : ConfigState → Prop
  | .absent _ => look s configFile = none
  | .present file => ∃ node, look s configFile = some node ∧ record B.platform node = .ok file

lemma reads_snapshot : Reads (fun s state => ShowsConfig B s state ∧ ∀ absence, state = .absent absence →
    ∃ stat, s.directories Directory.etcHowy.components = some stat ∧ absence = ⟨stat.device, stat.inode⟩)
    (snapshotConfigState B) := by
  apply Reads.bind reads_openDirectory
  intro parent
  apply Reads.bind reads_readRegular
  intro found
  cases found with
  | some snapshot =>
    apply reads_pure
    rintro s ⟨node, hnode, -, hrecord⟩ -
    exact ⟨⟨node, hnode, hrecord⟩, fun _ h => nomatch h⟩
  | none =>
    apply Reads.andThen reads_lookup
    intro occupied
    cases occupied with
    | some node => exact reads_refuse
    | none =>
      apply Reads.andThen looks_fstat
      intro _
      apply reads_pure
      rintro s hnone hparent
      refine ⟨hnone, ?_⟩
      rintro _ ⟨⟩
      exact ⟨parent, hparent, rfl⟩

lemma reads_snapshotConfigState : Reads (fun s state => ShowsConfig B s state) (snapshotConfigState B) :=
  reads_snapshot.weaken fun _ _ h => h.1

def Matches : GenerationState → ConfigState → Prop
  | .absent _, .absent _ => True
  | .presentStashed source _ _ _, .present file => logicallyMatches file source = true
  | _, _ => False

structure Passes (captured : GenerationState) (target live : ConfigState) : Prop where
  target : configStatesLogicallyMatch live target = true
  source : Matches captured live

def RestoredAs (manifest : StashManifest) (live : ConfigState) : Prop :=
  ∃ captured target transactionId, manifest.active.state = .restored captured target transactionId ∧
    Passes captured target live

lemma reads_verifyRestoredManifest {R : World → ConfigState → Prop} (hR : Reads R (snapshotConfigState B)) :
    Reads (fun s live => R s live ∧ RestoredAs manifest live) (verifyRestoredManifest B manifest) := by
  unfold verifyRestoredManifest
  split
  next captured target transactionId hstate =>
    apply Reads.bind hR
    intro live
    have hrest (hsource : Matches captured live) :
        Reads (fun s state => R s live → R s state ∧ RestoredAs manifest state) (do
          fromExcept (require (configStatesLogicallyMatch live target)
            (refused "restored target identity differs from the committed manifest"))
          return live : Op ConfigState) := by
      apply reads_check
      rintro ⟨⟩ hmatch
      exact reads_pure fun s hlive =>
        ⟨hlive, captured, target, transactionId, hstate, require_eq_ok.mp hmatch, hsource⟩
    split
    · exact hrest trivial
    · exact reads_throw_bind
    next source path hash size file =>
      apply reads_check
      rintro ⟨⟩ hmatch
      rw [require_eq_ok] at hmatch
      exact hrest hmatch
    · exact reads_throw_bind
    · exact reads_throw_bind
  · exact reads_refuse

lemma looks_validateActiveCapture {live : ConfigState} : Looks (validateActiveCapture B manifest live) := by
  unfold validateActiveCapture
  split
  · exact looks_fromExcept
  · apply Reads.andThen looks_fromExcept
    intro _
    exact looks_validateStashForGeneration
  · exact reads_refuse

lemma mem_names {s : World} {name : List UInt8} :
    name ∈ (s.files.keys.filter fun path => path.directory == directory).map Path.name ↔
      ∃ node, look s ⟨directory, name⟩ = some node := by
  rw [List.mem_map]
  simp only [List.mem_filter, beq_iff_eq]
  constructor
  · rintro ⟨⟨d, n⟩, ⟨hmem, rfl⟩, rfl⟩
    exact mem_iff_lookup.mp (AList.mem_keys.mpr hmem)
  · intro hmem
    exact ⟨⟨directory, name⟩, ⟨AList.mem_keys.mp (mem_iff_lookup.mpr hmem), rfl⟩, rfl⟩

lemma reads_listDirectory : Reads (fun s names => ∀ name node, look s ⟨directory, name⟩ = some node →
      (fromUtf8 name).isSome ∧ name ∈ names) (listDirectory directory) := by
  apply Reads.andThen looks_system
  intro _
  apply Reads.andThen looks_system
  intro _
  refine .bind (R := fun s names => ∀ name node, look s ⟨directory, name⟩ = some node →
    (fromUtf8 name).isSome ∧ name ∈ names) ?_ fun names => ?_
  · apply reads_query
    intro c s names h name node hnode
    have hname := mem_names.mpr ⟨node, hnode⟩
    dsimp only at h
    split at h
    next hall =>
      rw [← Except.ok.inj h, List.mem_insertionSort]
      exact ⟨List.all_eq_true.mp hall name hname, hname⟩
    · cases h
  · apply Reads.andThen looks_system
    intro _
    exact reads_pure fun s h => h

lemma looks_refuseOrphansIn : Looks (refuseOrphansIn B transactionId directory) := by
  apply Reads.andThen looks_openDirectory
  intro _
  apply Reads.andThen reads_listDirectory
  intro names
  dsimp only
  split
  · exact reads_pure fun _ => trivial
  · exact reads_refuse

lemma looks_refuseOrphanStages : Looks (refuseOrphanStages B transactionId) := by
  apply Reads.andThen looks_refuseOrphansIn
  intro _
  apply Reads.andThen looks_refuseOrphansIn
  intro _
  exact looks_refuseOrphansIn

end Howy.Bridge
