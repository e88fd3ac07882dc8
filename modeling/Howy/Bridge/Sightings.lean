import Howy.Library.Sightings
import Howy.Bridge.Observations

namespace Howy.Bridge

open Library

variable {α β : Type} {B : ConfigBridge} {X Y : Path → Prop} {s s' s'' : World} {p file : Path} {node : Node}
  {message context : String} {state : ConfigState} {r : FileRecord}

def Calm (c : Choice) : Prop := c.fault = none

def Agree (X : Path → Prop) (s s' : World) : Prop :=
  s'.directories = s.directories ∧ ∀ q, X q → look s' q = look s q

lemma Agree.refl (X : Path → Prop) (s : World) : Agree X s s := ⟨rfl, fun _ _ => rfl⟩

lemma Agree.trans (h : Agree X s s') (h' : Agree X s' s'') : Agree X s s'' :=
  ⟨h'.1.trans h.1, fun q hq => (h'.2 q hq).trans (h.2 q hq)⟩

lemma Agree.symm (h : Agree X s s') : Agree X s' s := ⟨h.1.symm, fun q hq => (h.2 q hq).symm⟩

lemma Agree.mono (h : Agree X s s') (hX : ∀ q, Y q → X q) : Agree Y s s' := ⟨h.1, fun q hq => h.2 q (hX q hq)⟩

lemma agree_put : Agree (· ≠ p) s (put s p node) := ⟨rfl, fun _ hq => look_put_of_ne hq⟩

lemma agree_drop : Agree (· ≠ p) s (drop s p) := ⟨rfl, fun _ hq => look_drop_of_ne hq⟩

lemma Agree.put (h : Agree X s s') (hp : ¬ X p) : Agree X s (put s' p node) :=
  h.trans (agree_put.mono fun _ hq he => hp (he ▸ hq))

lemma Agree.drop (h : Agree X s s') (hp : ¬ X p) : Agree X s (drop s' p) :=
  h.trans (agree_drop.mono fun _ hq he => hp (he ▸ hq))

variable {parse : Storage.Bytes → Option α} {a b : α}

/-- The file at `p` is one that `parse` reads as `a`. -/
def Parses (parse : Storage.Bytes → Option α) (p : Path) (s : World) (a : α) : Prop :=
  ∃ node, look s p = some node ∧ parse node.bytes = some a

lemma Parses.unique (h : Parses parse p s a) (h' : Parses parse p s b) :
    a = b := by
  obtain ⟨node, hnode, hparse⟩ := h
  obtain ⟨node', hnode', hparse'⟩ := h'
  rw [Option.some.inj (hnode.symm.trans hnode'), hparse'] at hparse
  exact (Option.some.inj hparse).symm

lemma Parses.look_ne (h : Parses parse p s a) : look s p ≠ none := by
  obtain ⟨node, hnode, -⟩ := h
  exact fun hnone => Option.some_ne_none node (hnode.symm.trans hnone)

lemma Parses.agree (h : Parses parse p s a) (hs : Agree X s s') (hX : X p) :
    Parses parse p s' a := by
  obtain ⟨node, hnode, hparse⟩ := h
  exact ⟨node, (hs.2 _ hX).trans hnode, hparse⟩

abbrev Finds (x : Op α) (s : World) (a : α) : Prop := Sure Calm x s a

abbrev Sees (X : Path → Prop) (x : Op α) : Prop := Seen Calm (Agree X) x

variable {maximum : ℕ} {directory : Directory} {x : Except BridgeError α} {path : String}

lemma sees_refuse : Sees X (refuse message : Op α) := seen_throw

lemma finds_system : Finds (system context) s () := by
  apply sure_query
  intro c hc
  rw [hc]

lemma finds_quietSystem : Finds (quietSystem message) s () := by
  apply sure_query
  intro c hc
  rw [hc]
  rfl

lemma finds_lookup : Finds (lookup p) s (look s p) := by
  apply sure_query
  intro c hc
  rw [hc]
  rfl

lemma sees_system : Sees X (system context) := looks_system.weaken fun _ _ _ _ _ => finds_system

lemma sees_quietSystem : Sees X (quietSystem message) :=
  looks_quietSystem.weaken fun _ _ _ _ _ => finds_quietSystem

lemma sees_lookup (hp : X p) : Sees X (lookup p) := by
  apply reads_lookup.weaken
  rintro s _ rfl s' hs
  rw [← hs.2 p hp]
  exact finds_lookup

lemma sees_openComponent {components : List String} : Sees X (openComponent B context components) := by
  refine .bind ?_ fun stat => ?_
  · apply seen_query
    intro c s stat h c' s' hc hs
    rw [hc, hs.1]
    split at h
    · cases h
    · cases h
    next hfault hfound =>
      rw [hfound]
      exact h
  · exact sees_system.bind fun _ => seen_fromExcept.bind fun _ => seen_pure

lemma sees_openComponents {rest : List String} :
    ∀ (done : List String) (current : DirectoryStat), Sees X (openComponents B done rest current) := by
  induction rest with
  | nil => exact fun _ _ => seen_pure
  | cons component rest ih => exact fun done current => sees_openComponent.bind fun next => ih _ _

lemma sees_openDirectory : Sees X (openDirectory B directory) :=
  sees_openComponent.bind fun _ => sees_openComponents _ _

lemma sees_readRegular (hp : X p) : Sees X (readRegular B p maximum) := by
  refine (sees_lookup hp).bind fun found => ?_
  cases found with
  | none => exact seen_pure
  | some node =>
    refine seen_fromExcept.bind fun _ => sees_system.bind fun _ => sees_system.bind fun _ => ?_
    exact sees_quietSystem.bind fun _ => sees_system.bind fun _ => seen_fromExcept.bind fun _ => seen_pure

lemma sees_readPath (hp : X p) : Sees X (readPath B p maximum) :=
  sees_openDirectory.bind fun _ => sees_readRegular hp

lemma finds_readRegular (hnode : look s p = some node)
    (hlength : node.bytes.length ≤ maximum) (hr : record B.platform node = .ok r) :
    Finds (readRegular B p maximum) s (some ⟨node.bytes, r⟩) := by
  obtain ⟨hkind, hlink, -⟩ := record_eq_ok hr
  have hfound := hnode ▸ finds_lookup
  apply hfound.bind
  apply (sure_fromExcept (require_eq_ok.mpr ⟨hkind, hlink, hlength⟩)).bind
  apply finds_system.bind
  apply finds_system.bind
  apply finds_quietSystem.bind
  apply finds_system.bind
  exact (sure_fromExcept hr).bind sure_pure

lemma finds_readRegular_none (hnone : look s p = none) : Finds (readRegular B p maximum) s none := by
  have hfound := hnone ▸ finds_lookup
  exact hfound.bind sure_pure

def Opens (B : ConfigBridge) (s : World) (directory : Directory) : Prop :=
  ∃ stat, ∀ s', Agree (fun _ => False) s s' → Finds (openDirectory B directory) s' stat

lemma reads_opens : Reads (fun s _ => Opens B s directory) (openDirectory B directory) :=
  sees_openDirectory.weaken fun _ stat h => ⟨stat, h⟩

lemma Opens.finds (h : Opens B s directory) : ∃ stat, Finds (openDirectory B directory) s stat :=
  h.imp fun _ h => h s (Agree.refl _ s)

lemma Opens.agree (h : Opens B s directory) (hs : Agree X s s') : Opens B s' directory :=
  h.imp fun _ h _ h' => h _ ((hs.mono fun _ h => h.elim).trans h')

lemma finds_readPath (ho : Opens B s p.directory) (hnode : look s p = some node)
    (hlength : node.bytes.length ≤ maximum) (hr : record B.platform node = .ok r) :
    Finds (readPath B p maximum) s (some ⟨node.bytes, r⟩) := by
  obtain ⟨stat, hstat⟩ := ho.finds
  exact hstat.bind (finds_readRegular hnode hlength hr)

lemma finds_readPath_none (ho : Opens B s p.directory) (hnone : look s p = none) :
    Finds (readPath B p maximum) s none := by
  obtain ⟨stat, hstat⟩ := ho.finds
  exact hstat.bind (finds_readRegular_none hnone)

def Live (B : ConfigBridge) (s : World) : ConfigState → Prop
  | .absent absence => look s configFile = none ∧
      ∃ stat, s.directories Directory.etcHowy.components = some stat ∧ absence = ⟨stat.device, stat.inode⟩
  | .present file => ∃ node, look s configFile = some node ∧ record B.platform node = .ok file

lemma Live.agree (h : Live B s state) (hs : Agree X s s') (hX : X configFile) : Live B s' state := by
  cases state with
  | absent absence =>
    obtain ⟨hnone, hstat⟩ := h
    exact ⟨(hs.2 _ hX).trans hnone, hs.1 ▸ hstat⟩
  | present file =>
    obtain ⟨node, hnode, hr⟩ := h
    exact ⟨node, (hs.2 _ hX).trans hnode, hr⟩

lemma Live.unique {state' : ConfigState} (h : Live B s state) (h' : Live B s state') : state = state' := by
  cases state with
  | absent absence =>
    cases state' with
    | absent absence' =>
      obtain ⟨-, stat, hstat, rfl⟩ := h
      obtain ⟨-, stat', hstat', rfl⟩ := h'
      rw [Option.some.inj (hstat.symm.trans hstat')]
    | present file' =>
      obtain ⟨node, hnode, -⟩ := h'
      cases hnode.symm.trans h.1
  | present file =>
    obtain ⟨node, hnode, hr⟩ := h
    cases state' with
    | absent absence' => cases hnode.symm.trans h'.1
    | present file' =>
      obtain ⟨node', hnode', hr'⟩ := h'
      rw [Option.some.inj (hnode.symm.trans hnode'), hr'] at hr
      rw [Except.ok.inj hr]

lemma reads_live : Reads (fun s state => Live B s state) (snapshotConfigState B) := by
  apply reads_snapshot.weaken
  rintro s (absence | file) ⟨hshows, hparent⟩
  · exact ⟨hshows, hparent absence rfl⟩
  · exact hshows

lemma sees_snapshotConfigState (hX : X configFile) : Sees X (snapshotConfigState B) := by
  refine sees_openDirectory.bind fun parent => (sees_readRegular hX).bind fun found => ?_
  cases found with
  | some snapshot => exact seen_pure
  | none =>
    refine (sees_lookup hX).bind fun occupied => ?_
    cases occupied with
    | some node => exact sees_refuse
    | none => exact sees_system.bind fun _ => seen_pure

def Aside (q : Path) : Prop := q.directory ≠ .etcHowy ∧ q ≠ markerFile ∧ q ≠ journalFile ∧ ¬ IsStage q

lemma aside_manifest : Aside manifestFile := ⟨by decide, by simp, by simp, manifest_not_isStage⟩

lemma aside_lock : Aside lockFile := ⟨by decide, by simp, by simp, lock_not_isStage⟩

lemma resolve_stash (h : stashPathFromSource path = .ok ())
    (hr : resolve path = some file) : file.directory = .state ∧ file.name.head? = some 99 := by
  obtain ⟨-, -, -, -, -, -, -, -, hhead⟩ := heads
  rw [stashPathFromSource, then_eq_ok, require_eq_ok] at h
  obtain ⟨rest, hrest⟩ := h.1
  rw [utf8Bytes_append, List.append_assoc] at hrest
  rw [resolve, ← hrest] at hr
  rw [List.drop_left, Option.ite_none_right_eq_some, Option.some.injEq] at hr
  obtain ⟨-, rfl⟩ := hr
  refine ⟨rfl, ?_⟩
  rw [List.head?_append, hhead, Option.some_or]

lemma aside_stash (hd : file.directory = .state) (hn : file.name.head? = some 99) : Aside file := by
  refine ⟨hd ▸ Directory.noConfusion, ?_, ?_, not_isStage hn (by decide)⟩
  · rintro rfl
    cases hd
  · obtain ⟨-, -, -, -, -, hjournal, -⟩ := heads
    exact ne_of_head hn hjournal (by decide)

lemma sees_readNamed (hp : stashPathFromSource path = .ok ()) (hX : ∀ q, Aside q → X q) :
    Sees X (readNamed B path maximum) := by
  unfold readNamed
  split
  · exact seen_throw
  next file hfile =>
    obtain ⟨hd, hn⟩ := resolve_stash hp hfile
    exact sees_readPath (hX file (aside_stash hd hn))

lemma sees_validateStashForGeneration {source : FileRecord} {hash : String} {size : ℕ}
    (hp : validatePresentCapture source path hash size = .ok ()) (hX : ∀ q, Aside q → X q) :
    Sees X (validateStashForGeneration B (.presentStashed source path hash size)) := by
  simp only [validatePresentCapture, then_eq_ok] at hp
  apply seen_check
  rintro ⟨path', hash', size'⟩ hactive
  cases hactive
  refine (sees_readNamed hp.2.1 hX).bind fun found => ?_
  cases found with
  | none => exact sees_refuse
  | some stash => exact seen_fromExcept.bind fun _ => seen_fromExcept

lemma sees_validateManifestStash {state : GenerationState} (h : validateActiveGeneration state = .ok ())
    (hX : ∀ q, Aside q → X q) : Sees X (validateManifestStash B state) := by
  unfold validateManifestStash
  split
  · exact sees_validateStashForGeneration h hX
  · rw [validateActiveGeneration, then_eq_ok] at h
    exact sees_validateStashForGeneration h.1 hX
  · exact seen_pure

lemma sees_readManifest (hX : ∀ q, Aside q → X q) : Sees X (readManifest B) := by
  refine (sees_readPath (hX _ aside_manifest)).bind fun found => ?_
  cases found with
  | none => exact seen_pure
  | some snapshot =>
    refine seen_fromExcept.bind fun _ => ?_
    split
    · exact sees_refuse
    apply seen_check
    intro _ hvalid
    simp only [StashManifest.validate, then_eq_ok] at hvalid
    exact (sees_validateManifestStash hvalid.2.2.1 hX).bind fun _ => seen_pure

lemma sees_readMarkerSnapshot (hX : X markerFile) : Sees X (readMarkerSnapshot B) := by
  refine (sees_readPath hX).bind fun found => ?_
  cases found with
  | none => exact seen_pure
  | some snapshot => exact seen_fromExcept.bind fun _ => seen_pure

def Scanned (directory : Directory) : Prop := directory = .etcHowy ∨ directory = .state ∨ directory = .varLib

structure Clean (B : ConfigBridge) (s : World) : Prop where
  opens : ∀ directory, Scanned directory → Opens B s directory
  names : ∀ directory name node, Scanned directory → look s ⟨directory, name⟩ = some node →
    (fromUtf8 name).isSome = true ∧ isStageName name = false

lemma finds_listDirectory (h : ∀ name node, look s ⟨directory, name⟩ = some node → (fromUtf8 name).isSome) :
    ∃ names, Finds (listDirectory directory) s names ∧ ∀ name ∈ names, ∃ node,
    look s ⟨directory, name⟩ = some node := by
  refine ⟨((s.files.keys.filter fun path => path.directory == directory).map Path.name).insertionSort
    (· ≤ ·), ?_, ?_⟩
  · apply finds_system.bind
    apply finds_system.bind
    refine .bind (sure_query fun c _ => if_pos ?_) (finds_system.bind sure_pure)
    rw [List.all_eq_true]
    intro name hname
    obtain ⟨node, hnode⟩ := mem_names.mp hname
    exact h name node hnode
  · intro name hname
    exact mem_names.mp ((List.mem_insertionSort _).mp hname)

lemma reads_clean_in : Reads (fun s _ => Opens B s directory ∧ ∀ name node, look s ⟨directory, name⟩ = some node →
      (fromUtf8 name).isSome ∧ isStageName name = false) (refuseOrphansIn B none directory) := by
  apply Reads.bind reads_opens
  intro _
  apply Reads.bind reads_listDirectory
  intro names
  dsimp only
  split
  next hnone =>
    apply reads_pure
    intro s hnames hopens
    refine ⟨hopens, fun name node hnode => ⟨(hnames name node hnode).1, ?_⟩⟩
    have hnot := List.find?_eq_none.mp hnone name (hnames name node hnode).2
    simpa using hnot
  · exact reads_refuse

lemma reads_clean : Reads (fun s _ => Clean B s) (refuseOrphanStages B none) := by
  apply Reads.bind reads_clean_in
  intro _
  apply Reads.bind reads_clean_in
  intro _
  apply reads_clean_in.weaken
  rintro s _ hlib hstate hetc
  constructor
  · rintro _ (rfl | rfl | rfl)
    · exact hetc.1
    · exact hstate.1
    · exact hlib.1
  · rintro _ name node (rfl | rfl | rfl) hnode
    · exact hetc.2 name node hnode
    · exact hstate.2 name node hnode
    · exact hlib.2 name node hnode

lemma Clean.stagesOurs (h : Clean B s) : StagesOurs B s := by
  intro path node hstage hnode
  cases (h.names path.directory path.name node hstage.1 hnode).2.symm.trans hstage.2

lemma Clean.finds_in (h : Clean B s) (hd : Scanned directory) : Finds (refuseOrphansIn B none directory) s () := by
  obtain ⟨stat, hstat⟩ := (h.opens directory hd).finds
  obtain ⟨names, hfinds, hnames⟩ :=
    finds_listDirectory fun name node hnode => (h.names directory name node hd hnode).1
  apply hstat.bind
  apply hfinds.bind
  dsimp only
  split
  · exact sure_pure
  rename_i name hname
  obtain ⟨node, hnode⟩ := hnames name (List.mem_of_find?_eq_some hname)
  have hstage := List.find?_some hname
  rw [(h.names directory name node hd hnode).2] at hstage
  cases hstage

lemma Clean.finds (h : Clean B s) : Finds (refuseOrphanStages B none) s () := by
  apply (h.finds_in (.inl rfl)).bind
  apply (h.finds_in (.inr (.inl rfl))).bind
  exact h.finds_in (.inr (.inr rfl))

lemma Clean.agree (h : Clean B s) (hs : Agree (· ≠ p) s s')
    (hp : (fromUtf8 p.name).isSome ∧ isStageName p.name = false) : Clean B s' := by
  constructor
  · exact fun directory hd => (h.opens directory hd).agree hs
  intro directory name node hd hnode
  by_cases hq : (⟨directory, name⟩ : Path) = p
  · subst hq
    exact hp
  · exact h.names directory name node hd ((hs.2 _ hq).symm.trans hnode)

end Howy.Bridge
