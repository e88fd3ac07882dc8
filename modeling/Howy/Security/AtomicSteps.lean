import Howy.Security.AtomicWrites
import Howy.Security.Observations

namespace Howy.Security

open Library Storage Provisioning

variable {sha256 : Sha256} {plan : AtomicWritePlanV1} {s : AtomicFileIdentityV1} {w x y : World}
  {e : SecurityError} {stage target : Path} {path : String}

lemma normals_congr {p q : Bytes} (h : samePath p q) : normals p = normals q := by
  rw [normals, normals, beq_iff_eq.mp h]

lemma located_eq {directory d name : Bytes} (h : splitAbsolute (utf8Bytes path) = .ok (d, name))
    (hin : inDirectory (utf8Bytes path) directory) : located path = ⟨normals directory, name⟩ := by
  obtain ⟨-, hparent, hname⟩ := splitAbsolute_eq_ok.mp h
  rw [inDirectory, hparent] at hin
  rw [located, hparent, hname]
  exact congrArg (Path.mk · name) (normals_congr hin)

def directoryOf (plan : AtomicWritePlanV1) : List Bytes := normals (utf8Bytes plan.parentDirectory.path)

lemma isPlainPath_of_validateAbsolutePath {value field : String} (h : validateAbsolutePath value field = .ok ()) :
    isPlainPath (utf8Bytes value) := by
  simp only [validateAbsolutePath, then_eq_ok, require_eq_ok, List.all_eq_true] at h
  obtain ⟨-, ⟨habsolute, hcomponents⟩, -⟩ := h
  rw [isPlainPath, Bool.and_eq_true, List.all_eq_true]
  refine ⟨habsolute, fun c hc => ?_⟩
  have h := hcomponents c hc
  cases c with
  | rootDir => rfl
  | curDir | parentDir => cases h
  | normal name => rfl

structure Sound (plan : AtomicWritePlanV1) : Prop where
  validateOperation : plan.validateOperation = .ok ()
  targetIn : inDirectory (utf8Bytes plan.targetPath) (utf8Bytes plan.parentDirectory.path) = true
  stageIn : inDirectory (utf8Bytes plan.stagingPath) (utf8Bytes plan.parentDirectory.path) = true
  splitTarget : ∃ d name, splitAbsolute (utf8Bytes plan.targetPath) = .ok (d, name) ∧ cstring name = .ok name
  stage_ne : located plan.stagingPath ≠ located plan.targetPath

lemma sound_of_validate (h : plan.validate = .ok ()) : Sound plan := by
  simp only [AtomicWritePlanV1.validate, then_eq_ok, require_eq_ok] at h
  obtain ⟨-, -, htarget, -, htargetIn, hoperation, -, -, h⟩ := h
  obtain ⟨stage, hstage, h⟩ := bind_eq_ok.mp h
  obtain ⟨hstaging, -, hstageIn⟩ := require_eq_ok.mp h
  obtain ⟨name, stageName, hname, hnul, hstageName, hlength⟩ := canonicalAtomicStagingPath_eq_ok hstage
  refine ⟨hoperation, htargetIn, hstageIn, ?_, fun heq => ?_⟩
  · have hin := htargetIn
    rw [inDirectory, Option.any_eq_true] at hin
    obtain ⟨d, hd, -⟩ := hin
    exact ⟨d, name, splitAbsolute_eq_ok.mpr ⟨isPlainPath_of_validateAbsolutePath htarget, hd, hname⟩,
      cstring_eq_ok.mpr ⟨hnul, rfl⟩⟩
  · have hnames := congrArg Path.name heq
    rw [located, located, hstaging, hstageName, hname, Option.getD_some] at hnames
    exact hlength.ne' (congrArg List.length hnames)

lemma seen_atomicParentFd : Seen Calm SameDirectories (atomicParentFd plan) :=
  Seen.bind seen_fromExcept fun _ => Seen.bind seen_fromExcept fun _ =>
    Seen.bind seen_openDirectoryPathBound fun _ => Seen.bind seen_validateDirectoryIdentity fun _ =>
      Seen.bind seen_validateAbsoluteParentIdentity fun _ => seen_pure

structure Opens (plan : AtomicWritePlanV1) (w : World) : Prop where
  parentFd : Sure Calm (atomicParentFd plan) w (directoryOf plan)
  directory : ∀ path, isAbsolute path = true → samePath path (utf8Bytes plan.parentDirectory.path) = true →
    Sure Calm (openDirectoryPathBound path) w (directoryOf plan)
  stat : ∃ stat, Sure Calm (fstatDirectory (directoryOf plan)) w stat

lemma reads_atomicParentFd :
    Reads (fun w fd => plan.validate = .ok () ∧ fd = directoryOf plan ∧ ∀ z, SameDirectories w z → Opens plan z)
      (atomicParentFd plan) := by
  have hreads : Reads (fun w fd => plan.validate = .ok () ∧ fd = directoryOf plan ∧
      ∀ z, SameDirectories w z → (Sure Calm (atomicParentFd plan) z fd → Opens plan z)) (atomicParentFd plan) := by
    refine .bind reads_fromExcept fun _ => Reads.bind reads_fromExcept fun resolved => ?_
    refine .bind (reads_openDirectoryPathBound.and seen_openDirectoryPathBound) fun fd => ?_
    refine .bind reads_validateDirectoryIdentity fun _ => ?_
    refine .andThen seen_validateAbsoluteParentIdentity fun _ => ?_
    refine reads_pure fun w hstat ⟨hfd, hopen⟩ hresolved hvalid => ?_
    obtain ⟨hplain, rfl⟩ := resolve_eq_ok.mp hresolved
    obtain ⟨stat, hstat⟩ := hstat
    subst hfd
    refine ⟨asOperation_eq_ok.mp hvalid, rfl, fun z hz hparent =>
      ⟨hparent, fun path habsolute hsame => ?_, stat, hstat z hz⟩⟩
    rw [openDirectoryPathBound_congr habsolute (Bool.and_eq_true_iff.mp hplain).1 hsame]
    exact hopen z hz
  apply Reads.weaken (Reads.and seen_atomicParentFd hreads)
  rintro w fd ⟨hsure, hvalid, rfl, hopens⟩
  exact ⟨hvalid, rfl, fun z hz => hopens z hz (hsure z hz)⟩

lemma reads_openAtomicPaths :
    Reads (fun _ paths => plan.validate = .ok () ∧ paths = (located plan.targetPath, located plan.stagingPath))
      (openAtomicPaths plan) := by
  refine .bind reads_atomicParentFd fun fd => ?_
  refine .bind reads_fromExcept fun ⟨_, target⟩ => Reads.bind reads_fromExcept fun ⟨_, stage⟩ => ?_
  refine .bind reads_fromExcept fun targetName => Reads.bind reads_fromExcept fun stageName => ?_
  refine reads_pure fun _ hstageName htargetName hstage htarget ⟨hvalid, hfd, _⟩ => ⟨hvalid, ?_⟩
  obtain ⟨-, rfl⟩ := cstring_eq_ok.mp hstageName
  obtain ⟨-, rfl⟩ := cstring_eq_ok.mp htargetName
  have hsound := sound_of_validate hvalid
  rw [located_eq htarget hsound.targetIn, located_eq hstage hsound.stageIn, hfd, directoryOf]

abbrev Looks {α : Type} (p : Op α) : Prop := Reads (fun _ _ => True) p

lemma reads_explainRenameFailure : Reads (fun _ _ => False)
    (explainRenameFailure sha256 plan s stage target e) := by
  refine .andThen (reads_lift reads_observeAtomicAt) fun stageAfter => ?_
  refine .andThen (reads_lift reads_observeAtomicAt) fun targetAfter => ?_
  split
  · split <;> exact reads_throw
  · exact reads_throw

lemma looks_observeBackup : Looks (observeBackup plan stage) := by
  rw [observeBackup]
  split
  · refine .andThen reads_fstatatNofollow fun entry => ?_
    cases entry with
    | none => exact reads_pure fun _ => trivial
    | some node => exact reads_throw
  · refine .andThen (reads_adapt reads_observeAtomicAt) fun _ => ?_
    exact .andThen reads_orMissing fun _ => reads_pure fun _ => trivial

lemma looks_observeRenamed : Looks (observeRenamed sha256 plan s stage target) := by
  refine .andThen reads_fromExcept fun _ => ?_
  refine .andThen (reads_adapt seen_validateAbsoluteParentIdentity) fun _ => ?_
  refine .andThen (reads_adapt reads_observeAtomicAt) fun _ => Reads.andThen reads_orMissing fun _ => ?_
  refine .andThen looks_observeBackup fun _ => Reads.andThen (reads_adapt reads_fromExcept) fun _ => ?_
  exact .andThen reads_fromExcept fun _ => Reads.andThen reads_system fun _ => reads_pure fun _ => trivial

def Renames (plan : AtomicWritePlanV1) (x y : World) : Prop :=
  ∃ files, renamedFiles plan.operation (located plan.stagingPath) (located plan.targetPath) x.files = some files ∧
    y = { x with files := files }

lemma triple_renameat2 : Triple (fun y => y = x ∨ Renames plan x y) (fun _ _ => True) (· = x)
    (renameat2 plan.operation (located plan.stagingPath) (located plan.targetPath)) fun _ y =>
    Renames plan x y := by
  apply triple_action
  rintro c y - rfl
  split
  next files _ hfiles =>
    have hrenames : Renames plan y { y with files := files } := ⟨files, hfiles, rfl⟩
    exact ⟨trivial, .inr hrenames, fun _ _ => hrenames⟩
  · refine ⟨trivial, .inl rfl, fun a ha => ?_⟩
    cases ha

lemma triple_commitAtomicStage : Triple (fun y => y = x ∨ Renames plan x y) (fun _ _ => True) (· = x)
    (commitAtomicStage sha256 plan s) fun _ y => Renames plan x y := by
  refine Triple.skip reads_fromExcept fun _ => Triple.skip reads_fromExcept fun _ => ?_
  refine Triple.at reads_openAtomicPaths fun paths hpaths => ?_
  obtain ⟨-, rfl⟩ := hpaths
  refine Triple.skip reads_fromExcept fun _ => ?_
  refine Triple.skip seen_validateAbsoluteParentIdentity fun _ => ?_
  refine Triple.skip reads_observeAtomicAt fun _ => Triple.skip reads_orMissing fun _ => ?_
  refine Triple.skip reads_fromExcept fun _ => Triple.skip reads_observeAtomicAt fun _ => ?_
  refine Triple.skip reads_fromExcept fun _ => ?_
  refine .bind (triple_lift (R := fun r y => ∀ a, r = .ok a → Renames plan x y) ?_ ?_) fun r => ?_
  · exact triple_renameat2.post fun _ _ _ hy _ _ => hy
  · intro e y _ a ha
    cases ha
  cases r with
  | error e => exact ((reads_explainRenameFailure.triple).post fun _ _ _ hy => hy.2.elim)
  | ok u => exact ((looks_observeRenamed.triple).post fun _ _ _ hy => hy.1 u rfl)

lemma triple_removeFileExact {expected : AtomicFileIdentityV1} :
    Triple (fun y => y = x ∨ Unlinks (located path) x y) (fun _ _ => True) (· = x)
      (removeFileExact sha256 path expected) fun _ y => Unlinks (located path) x y := by
  refine Triple.skip reads_fromExcept fun _ => Triple.skip reads_orMissing fun _ => ?_
  refine Triple.at reads_fromExcept fun resolved hresolved => ?_
  obtain ⟨-, rfl⟩ := resolve_eq_ok.mp hresolved
  refine Triple.at reads_fromExcept fun ⟨directory, name⟩ hsplit => ?_
  refine Triple.at reads_openDirectoryPathBound fun parent hparent => ?_
  refine Triple.skip seen_fstatDirectory fun stat => Triple.at reads_fromExcept fun name' hname => ?_
  obtain ⟨-, rfl⟩ := cstring_eq_ok.mp hname
  have hlocated : (⟨parent, name⟩ : Path) = located path := by
    obtain ⟨-, hd, hn⟩ := splitAbsolute_eq_ok.mp hsplit
    rw [located, hd, hn, hparent, Option.getD_some, Option.getD_some]
  rw [hlocated]
  refine Triple.skip reads_observeAtomicAt fun _ => Triple.skip reads_orMissing fun _ => ?_
  refine Triple.skip reads_fromExcept fun _ => Triple.bind (triple_unlinkat fun _ hy =>
    ⟨trivial, .inr hy⟩) fun _ => ?_
  exact (reads_system.triple).post fun _ _ _ hy => hy.1

def identityAt (sha256 : Sha256) (w : World) (path : Path) : Option AtomicFileIdentityV1 :=
  (w.files.lookup path).map fun node => atomicIdentity sha256 node.bytes node

def Removes (sha256 : Sha256) (plan : AtomicWritePlanV1) (s : AtomicFileIdentityV1) (x y : World) : Prop :=
  identityAt sha256 x (located plan.targetPath) ≠ some s ∧
    identityAt sha256 x (located plan.stagingPath) = some s ∧ Unlinks (located plan.stagingPath) x y

lemma triple_reconcileAtomicWrite : Triple (fun y => y = x ∨ Removes sha256 plan s x y) (fun _ _ => True)
    (· = x) (reconcileAtomicWrite sha256 plan (some s)) fun _ _ => True := by
  refine Triple.at reads_openAtomicPaths fun paths hpaths => ?_
  obtain ⟨-, rfl⟩ := hpaths
  refine Triple.at reads_observeAtomicAt fun target htarget => ?_
  refine Triple.at reads_observeAtomicAt fun stage hstage => Triple.skip reads_fromExcept fun _ => ?_
  split
  · refine Triple.skip reads_fromExcept fun _ => Triple.skip (reads_adapt reads_fromExcept) fun _ => ?_
    exact triple_any
  rename_i hne
  split
  next hremove =>
    have hfound := hremove.2
    rw [htarget.1, Option.map_map] at hne
    rw [hstage.1, Option.map_map] at hfound
    have hremoves (y : World) (hy : y = x ∨ Unlinks (located plan.stagingPath) x y) :
        y = x ∨ Removes sha256 plan s x y := hy.imp id fun h => ⟨hne, hfound, h⟩
    refine .bind (triple_removeFileExact.weaken_inv hremoves fun _ => .inl) fun _ => ?_
    exact triple_any
  · exact triple_throw

def Fresh (x : World) (node : Node) : Prop :=
  ∀ path other, x.files.lookup path = some other → ¬ (other.device = node.device ∧ other.inode = node.inode)

def Made (path : Path) (x y : World) : Prop :=
  ∃ node, Fresh x node ∧ y = { x with files := x.files.insert path node }

def Completed (sha256 : Sha256) (plan : AtomicWritePlanV1) (stage : Path) (x : World) (s : AtomicFileIdentityV1)
    (y : World) : Prop :=
  validateNewAtomicIdentity plan s = .ok () ∧ ∃ node, Fresh x node ∧
    y = { x with files := x.files.insert stage node } ∧
    node.kind = .regularFile ∧ node.nlink = 1 ∧ node.bytes.length ≤ plan.byteLength.toNat ∧
    atomicIdentity sha256 node.bytes node = s

abbrev Attains {α : Type} (P : World → Prop) (p : Op α) (Q : α → World → Prop) : Prop :=
  Triple (fun _ => True) (fun _ _ => True) P p Q

variable {stage : Path} {bytes : Bytes}

lemma attains_openExclusive {mode : UInt32} :
    Attains (· = x) (openExclusive e stage mode) fun _ y => x.files.lookup stage = none ∧ Made stage x y := by
  apply triple_atomic
  rintro c _ r y - rfl hf
  refine ⟨trivial, trivial, ?_⟩
  rintro _ rfl
  split at hf
  · cases hf
  split at hf
  · cases hf
  rename_i hfree
  split at hf
  next hfresh =>
    cases hf
    refine ⟨Option.not_isSome_iff_eq_none.mp hfree, newNode c mode 1, fun path other hother hsame => ?_, rfl⟩
    have hne := List.all_eq_true.mp (Bool.and_eq_true_iff.mp hfresh).2 other (mem_values.mpr ⟨path, hother⟩)
    rw [Bool.not_eq_true', Bool.and_eq_false_iff, beq_eq_false_iff_ne, beq_eq_false_iff_ne] at hne
    exact hne.elim (fun h => h hsame.1) fun h => h hsame.2
  · cases hf

lemma attains_onHandle {f failed : Choice → Node → Node}
    (hf : ∀ c node, (f c node).device = node.device ∧ (f c node).inode = node.inode) :
    Attains (Made stage x) (onHandle e f failed (.named stage)) fun handle y => handle = .named stage ∧
    Made stage x y := by
  apply triple_action
  rintro c _ - ⟨node, hfresh, rfl⟩
  refine ⟨trivial, trivial, fun handle hhandle => ?_⟩
  rw [AList.lookup_insert] at hhandle ⊢
  cases hfault : c.fault with
  | true =>
    rw [hfault] at hhandle
    cases hhandle
  | false =>
    rw [hfault] at hhandle
    cases hhandle
    refine ⟨rfl, f c node, fun path other hother => ?_, ?_⟩
    · rw [(hf c node).1, (hf c node).2]
      exact hfresh path other hother
    · exact congrArg (fun files => { x with files := files }) (AList.insert_insert _)

lemma attains_setTimestamps {timestamps : Option RestorableFileTimestampsV1} :
    Attains (Made stage x) (setTimestamps timestamps (.named stage))
      fun handle y => handle = .named stage ∧ Made stage x y := by
  cases timestamps with
  | none => exact triple_pure fun _ _ hy => ⟨rfl, hy⟩
  | some timestamps => exact attains_onHandle fun _ _ => ⟨rfl, rfl⟩

lemma attains_fillAtomicStage : Attains (Made stage x) (fillAtomicStage sha256 plan bytes stage)
    (Completed sha256 plan stage x) := by
  have hsame : ∀ (c : Choice) (node : Node), node.device = node.device ∧ node.inode = node.inode :=
    fun _ _ => ⟨rfl, rfl⟩
  refine .bind (attains_onHandle hsame) fun handle => triple_of_imp fun hhandle => ?_
  subst hhandle
  refine .bind (attains_onHandle hsame) fun handle => triple_of_imp fun hhandle => ?_
  subst hhandle
  refine .bind (attains_onHandle hsame) fun handle => triple_of_imp fun hhandle => ?_
  subst hhandle
  refine .bind attains_setTimestamps fun handle => triple_of_imp fun hhandle => ?_
  subst hhandle
  refine Triple.skip reads_system fun _ => ?_
  refine Triple.skip (reads_query fun _ _ _ _ => trivial) fun stat => ?_
  apply triple_intro
  rintro y - hmade
  refine Triple.at reads_fromExcept fun _ hnew => Triple.skip reads_system fun _ => ?_
  refine Triple.at reads_observeAtomicAt fun observed hobserved => ?_
  refine Triple.at reads_orMissing fun file hfile => Triple.at reads_fromExcept fun _ hsame => ?_
  apply triple_pure
  rintro _ - rfl
  obtain ⟨node, hfresh, rfl⟩ := hmade
  obtain ⟨hobserved, hobservable⟩ := hobserved
  obtain ⟨hkind, hnlink, hlength⟩ := hobservable node (AList.lookup_insert _)
  refine ⟨hnew, node, hfresh, rfl, hkind, hnlink, hlength, ?_⟩
  rw [AList.lookup_insert, hfile] at hobserved
  cases hobserved
  exact require_eq_ok.mp hsame

structure Created (sha256 : Sha256) (plan : AtomicWritePlanV1) (s : AtomicFileIdentityV1)
    (x y : World) : Prop where
  valid : plan.validate = .ok ()
  opens : ∀ z, SameDirectories x z → Opens plan z
  splitStage : ∃ d name, splitAbsolute (utf8Bytes plan.stagingPath) = .ok (d, name) ∧ cstring name = .ok name
  free : x.files.lookup (located plan.stagingPath) = none
  completed : Completed sha256 plan (located plan.stagingPath) x s y

lemma attains_createAtomicStage : Attains (· = x) (createAtomicStage sha256 plan bytes)
    fun s y => Created sha256 plan s x y := by
  refine Triple.at reads_fromExcept fun _ hvalid => Triple.skip reads_fromExcept fun _ => ?_
  have hvalid := asOperation_eq_ok.mp hvalid
  refine Triple.at reads_atomicParentFd fun fd hfd => ?_
  obtain ⟨-, rfl, hopens⟩ := hfd
  refine Triple.at reads_fromExcept fun ⟨d, name⟩ hsplit => Triple.at reads_fromExcept fun _ hname => ?_
  obtain ⟨hnul, rfl⟩ := cstring_eq_ok.mp hname
  have hlocated := located_eq hsplit (sound_of_validate hvalid).stageIn
  rw [directoryOf, ← hlocated]
  refine .bind attains_openExclusive fun _ => triple_of_imp fun hfree => ?_
  refine Triple.skip (reads_query fun _ _ _ _ => trivial) fun created => ?_
  refine .bind
    (triple_lift (R := fun r y => ∀ s, r = .ok s → Completed sha256 plan (located plan.stagingPath) x s y)
    ?_ ?_) fun r => ?_
  · exact attains_fillAtomicStage.post fun s y _ hy s' hs => by
      cases hs
      exact hy
  · intro e y _ s hs
    cases hs
  cases r with
  | ok s => exact triple_pure fun y _ hy => ⟨hvalid, hopens, ⟨d, name, hsplit, hname⟩, hfree, hy s rfl⟩
  | error e =>
    refine .bind (triple_lift (R := fun _ _ => True) triple_true fun _ _ _ => trivial) fun r => ?_
    cases r with
    | ok u | error cleanup => exact triple_throw

lemma sure_openAtomicPaths (hopens : Opens plan w) (hsound : Sound plan)
    (hstage : ∃ d name, splitAbsolute (utf8Bytes plan.stagingPath) = .ok (d, name) ∧ cstring name = .ok name) :
    Sure Calm (openAtomicPaths plan) w (located plan.targetPath, located plan.stagingPath) := by
  obtain ⟨_, target, htarget, htargetName⟩ := hsound.splitTarget
  obtain ⟨_, stage, hstage, hstageName⟩ := hstage
  rw [located_eq htarget hsound.targetIn, located_eq hstage hsound.stageIn]
  refine .bind hopens.parentFd (Sure.bind (sure_fromExcept htarget) (Sure.bind (sure_fromExcept hstage) ?_))
  exact .bind (sure_fromExcept htargetName) (Sure.bind (sure_fromExcept hstageName) sure_pure)

lemma total_reconcileAtomicWrite {Q : Except SecurityError AtomicWriteReconciliation → World → Prop}
    {staged : Option AtomicFileIdentityV1}
    (hpaths : Sure Calm (openAtomicPaths plan) w (located plan.targetPath, located plan.stagingPath))
    (htarget : Observable w (located plan.targetPath) (max plan.byteLength.toNat (expectedAtomicLength plan)))
    (hstage : Observable w (located plan.stagingPath) (max plan.byteLength.toNat (expectedAtomicLength plan)))
    (h : Total Calm Q (settleAtomicWrite sha256 plan staged (identityAt sha256 w (located plan.targetPath))
      (identityAt sha256 w (located plan.stagingPath))).run w) :
    Total Calm Q (reconcileAtomicWrite sha256 plan staged).run w := by
  refine total_after hpaths (total_after (sure_observeAtomicAt htarget)
    (total_after (sure_observeAtomicAt hstage) ?_))
  rw [Option.map_map, Option.map_map]
  exact h

lemma total_removeFileExact {Q : Except SecurityError Unit → World → Prop} {node : Node} (hopens : Opens plan w)
    (hsound : Sound plan)
    (hstage : ∃ d name, splitAbsolute (utf8Bytes plan.stagingPath) = .ok (d, name) ∧ cstring name = .ok name)
    (hs : s.validate = .ok ()) (hnode : w.files.lookup (located plan.stagingPath) = some node)
    (hobservable : Observable w (located plan.stagingPath) s.byteLength.toNat)
    (hidentity : atomicIdentity sha256 node.bytes node = s)
    (hq : ∀ y, Unlinks (located plan.stagingPath) w y → Q (.ok ()) y) :
    Total Calm Q (removeFileExact sha256 plan.stagingPath s).run w := by
  obtain ⟨d, name, hsplit, hname⟩ := hstage
  obtain ⟨hplain, hparent, -⟩ := splitAbsolute_eq_ok.mp hsplit
  have hlocated := located_eq hsplit hsound.stageIn
  have hin := hsound.stageIn
  rw [inDirectory, hparent] at hin
  obtain ⟨stat, hstat⟩ := hopens.stat
  refine total_after (sure_fromExcept (asOperation_eq_ok.mpr hs)) ?_
  rw [hparent]
  refine total_after sure_pure ?_
  refine total_after (sure_fromExcept (resolve_eq_ok.mpr ⟨hplain, rfl⟩)) (total_after (sure_fromExcept hsplit) ?_)
  refine total_after (hopens.directory d ?_ hin) (total_after hstat (total_after (sure_fromExcept hname) ?_))
  · exact isAbsolute_of_parent hparent
  rw [directoryOf, ← hlocated]
  refine total_after (sure_observeAtomicAt hobservable) ?_
  rw [hnode]
  refine total_after sure_pure (total_after (sure_fromExcept (require_eq_ok.mpr hidentity)) (total_bindE ?_))
  exact total_unlinkat hnode (hobservable node hnode).1 fun y hy => total_of_answers sure_system (hq y hy)

end Howy.Security
