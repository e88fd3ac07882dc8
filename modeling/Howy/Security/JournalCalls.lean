import Howy.Security.JournalSteps

namespace Howy.Security

open Library Storage Provisioning

variable {E : Encoding} {parent : DirectoryIdentityV1} {bytes name : Bytes} {w x y z : World} {a b : Node}
  {allowNamedFallback : Bool} {expected file : ObservedFile} {path : Path}

lemma seen_journalParent : Seen Calm SameDirectories journalParent :=
  Seen.bind seen_fromExcept fun _ => Seen.bind seen_fromExcept fun _ =>
    Seen.bind seen_openDirectoryPathBound fun _ =>
      Seen.bind (Seen.bind seen_fstatDirectory fun _ => seen_fromExcept) fun _ =>
        Seen.bind seen_fstatDirectory fun _ => Seen.bind seen_fromExcept fun _ => seen_pure

lemma reads_journalParent :
    Reads (fun w r => ∃ parent, r = (journalFile.directory, parent, journalFile.name) ∧ Opened w parent)
    journalParent := by
  have hplace : Reads (fun _ r => ∃ parent, r = (journalFile.directory, parent, journalFile.name))
      journalParent := by
    refine .bind reads_fromExcept fun resolved => Reads.bind reads_fromExcept fun ⟨directory, name⟩ => ?_
    refine .bind reads_openDirectoryPathBound fun fd => ?_
    refine .andThen (Seen.bind seen_fstatDirectory fun _ => seen_fromExcept) fun _ => ?_
    refine .andThen seen_fstatDirectory fun stat => Reads.bind reads_fromExcept fun name' => ?_
    refine reads_pure fun _ hname hfd hsplit hresolved => ⟨directoryIdentity "/var/lib" stat, ?_⟩
    obtain ⟨-, rfl⟩ := resolve_eq_ok.mp hresolved
    obtain ⟨-, rfl⟩ := cstring_eq_ok.mp hname
    obtain ⟨-, hparent, hfile⟩ := splitAbsolute_eq_ok.mp hsplit
    rw [hfd, journalFile, located, hparent, hfile, Option.getD_some, Option.getD_some]
  apply Reads.weaken (Reads.and seen_journalParent hplace)
  rintro w r ⟨hseen, parent, rfl⟩
  exact ⟨parent, rfl, hseen⟩

lemma observedControlMatches_refl : observedControlMatches E file file := by
  simp [observedControlMatches]

lemma eq_of_observedControlMatches {other : ObservedFile} (h : observedControlMatches E file other) :
    file.bytes = other.bytes ∧ file.atomicIdentity E.sha256 = other.atomicIdentity E.sha256 := by
  simp only [observedControlMatches, Bool.and_eq_true, beq_iff_eq] at h
  exact h.1.1.1.1.1

lemma observable_of_written (h : Written a a.bytes) (hp : ∃ p, parsedJournal E a.bytes = .ok p)
    (ha : w.files.lookup path = some a) : Observable w path maxJournalBytes.toNat := by
  obtain ⟨p, hp⟩ := hp
  intro node hnode
  rw [ha, Option.some.injEq] at hnode
  subst hnode
  exact ⟨h.kind, h.nlink, (parsed_spec hp).1⟩

lemma validateRegular_of_written (h : Written a a.bytes) :
    ObservedFile.validateRegular (observed a parent) 0 0 0o600 = .ok () :=
  require_eq_ok.mpr ⟨h.kind, h.uid, h.gid, h.permissions, h.nlink, rfl, h.device, h.inode⟩

def stageNames (w : World) : List Bytes :=
  ((w.files.keys.filter fun path => path.directory == journalFile.directory).map Path.name).filter
    isJournalStageName

lemma mem_stageNames : name ∈ stageNames w ↔
    IsStage ⟨journalFile.directory, name⟩ ∧ ∃ node, w.files.lookup ⟨journalFile.directory, name⟩ = some node := by
  simp only [stageNames, List.mem_filter, List.mem_map, beq_iff_eq, IsStage, true_and]
  constructor
  · rintro ⟨⟨path, ⟨hpath, hdirectory⟩, rfl⟩, hname⟩
    rw [← hdirectory]
    exact ⟨hname, mem_iff_lookup.mp (AList.mem_keys.mp hpath)⟩
  · rintro ⟨hname, hnode⟩
    exact ⟨⟨_, ⟨AList.mem_keys.mpr (mem_iff_lookup.mpr hnode), rfl⟩, rfl⟩, hname⟩

lemma stageNames_eq_nil : stageNames w = [] ↔ NoStage w := by
  rw [List.eq_nil_iff_forall_not_mem]
  constructor
  · rintro h ⟨directory, name⟩ hstage
    obtain rfl := hstage.1
    rw [Option.eq_none_iff_forall_ne_some]
    exact fun node hnode => h name (mem_stageNames.mpr ⟨hstage, node, hnode⟩)
  · intro h name hname
    obtain ⟨hstage, node, hnode⟩ := mem_stageNames.mp hname
    rw [h _ hstage] at hnode
    cases hnode

lemma stageNames_eq_singleton (hstage : IsStage ⟨journalFile.directory, name⟩)
    (h : OnlyStage w ⟨journalFile.directory, name⟩ a) : stageNames w = [name] := by
  have hnodup : (stageNames w).Nodup := by
    refine List.Nodup.filter _ (List.Nodup.map_on ?_ (w.files.keys_nodup.filter _))
    rintro ⟨_, left⟩ hleft ⟨_, right⟩ hright rfl
    simp only [List.mem_filter, beq_iff_eq] at hleft hright
    rw [hleft.2, hright.2]
  rw [← List.perm_singleton, List.perm_ext_iff_of_nodup hnodup (List.nodup_singleton name)]
  intro other
  rw [List.mem_singleton, mem_stageNames]
  constructor
  · rintro ⟨hother, node, hnode⟩
    exact congrArg Path.name (h.eq hother hnode).1
  · rintro rfl
    exact ⟨hstage, a, h.1⟩

def Candidates (w : World) (parent : DirectoryIdentityV1) (names : List Bytes)
    (candidates : List (Bytes × ObservedFile)) : Prop :=
  List.Forall₂ (fun name candidate => ∃ node, w.files.lookup ⟨journalFile.directory, name⟩ = some node ∧
    candidate = (name, observed node parent)) names candidates

lemma reads_observeCandidates {names : List Bytes} :
    Reads (fun w candidates => Candidates w parent names candidates)
      (observeCandidates journalFile.directory parent names) := by
  induction names with
  | nil => exact reads_pure fun _ => .nil
  | cons name names ih =>
    refine .bind reads_observeAtomicAt fun file => Reads.bind reads_orMissing fun found => ?_
    refine .bind ih fun rest => reads_pure fun w hrest hfound hfile => .cons ?_ hrest
    rw [hfound] at hfile
    obtain ⟨node, hnode, rfl⟩ := Option.map_eq_some_iff.mp hfile.1.symm
    exact ⟨node, hnode, rfl⟩

lemma reads_journalStageCandidates : Reads (fun w candidates => Candidates w parent (stageNames w) candidates)
      (journalStageCandidates journalFile.directory parent) := by
  refine .andThen reads_system fun _ => Reads.andThen reads_system fun _ => ?_
  refine .bind (reads_query (R := fun w names => names = stageNames w) fun _ w names h => ?_) fun names => ?_
  · exact (Except.ok.inj h).symm
  · exact reads_observeCandidates.weaken fun w candidates h hnames => hnames ▸ h

section

variable {inv : World → Prop} {guar : World → World → Prop} {path : Path} {node : Node}

lemma reads_openUnnamed (e : SecurityError) (mode : UInt32) :
    Reads (fun w r => w.unnamed → ∃ node, r = some node ∧ node.kind = .regularFile ∧ node.device ≠ 0 ∧
      node.inode ≠ 0) (openUnnamed e mode) := by
  apply reads_atomic
  intro c w r w' hf
  split at hf
  · cases hf
    exact ⟨rfl, fun a ha => by cases ha⟩
  split at hf
  · split at hf
    next hfresh =>
      cases hf
      simp only [isFresh, Bool.and_eq_true, bne_iff_ne] at hfresh
      refine ⟨rfl, fun a ha _ => ?_⟩
      cases ha
      exact ⟨_, rfl, rfl, hfresh.1⟩
    · cases hf
  next hnamed =>
    cases hf
    exact ⟨rfl, fun a _ hunnamed => absurd hunnamed hnamed⟩

lemma reads_onUnnamed {e : SecurityError} {f failed : Choice → Node → Node} :
    Reads (fun _ handle => ∃ c, handle = .unnamed (f c node)) (onHandle e f failed (.unnamed node)) := by
  apply reads_query
  intro c w handle hf
  split at hf
  · cases hf
  · cases hf
    exact ⟨c, rfl⟩

variable [Std.Refl guar]

section

variable (h : x.files.lookup path = none → guar x (placed x path { node with nlink := 1 }) ∧
  inv (placed x path { node with nlink := 1 }))

include h

lemma triple_linkat : Triple inv guar (· = x) (linkat path node) fun linked y =>
      y = if linked then placed x path { node with nlink := 1 } else x := by
  apply triple_action
  rintro c y hi rfl
  split
  next hfree =>
    refine ⟨(h hfree).1, (h hfree).2, fun linked hlinked => ?_⟩
    cases hlinked
    rfl
  · refine ⟨refl y, hi, fun linked hlinked => ?_⟩
    cases hlinked
    rfl

lemma triple_publishJournalStage : Triple inv guar (· = x) (publishJournalStage path (.unnamed node)) fun _ y =>
      y = placed x path { node with nlink := 1 } := by
  refine .bind (triple_linkat h) fun linked => ?_
  cases linked with
  | true => exact triple_pure fun _ _ hy => hy
  | false =>
    refine .bind (triple_linkat h) fun linked => ?_
    cases linked with
    | true => exact triple_pure fun _ _ hy => hy
    | false => exact triple_throw

end

lemma triple_fillJournalStage {created : Node} (hkind : node.kind = .regularFile) (hdevice : node.device ≠ 0)
    (hinode : node.inode ≠ 0) (h : ∀ b, Written b bytes → x.files.lookup path = none →
      guar x (placed x path b) ∧ inv (placed x path b)) :
    Triple inv guar (· = x) (fillJournalStage path parent bytes (.unnamed node) created) fun file y =>
      ∃ b, Written b bytes ∧ y = placed x path b ∧ file = observed b parent := by
  refine Triple.at reads_onUnnamed fun handle ⟨_, hhandle⟩ => ?_
  subst hhandle
  refine Triple.at reads_onUnnamed fun handle ⟨_, hhandle⟩ => ?_
  subst hhandle
  refine Triple.at reads_onUnnamed fun handle ⟨c, hhandle⟩ => ?_
  subst hhandle
  have hwritten : Written
    { node with uid := 0, gid := 0, permissions := 0o600, bytes := bytes, times := c.now, nlink := 1 }
      bytes := ⟨hkind, rfl, rfl, rfl, rfl, hdevice, hinode, rfl⟩
  refine Triple.skip reads_system fun _ => ?_
  refine .bind (triple_publishJournalStage (h _ hwritten)) fun _ => ?_
  refine Triple.skip reads_system fun _ => Triple.at reads_observeAtomicAt fun file hfile => ?_
  refine Triple.at reads_orMissing fun found hfound => Triple.skip reads_fromExcept fun _ => ?_
  refine triple_pure fun y _ hy => ⟨_, hwritten, hy, ?_⟩
  rw [hfound, placed, AList.lookup_insert, Option.map_some, Option.some.injEq] at hfile
  exact hfile.1

lemma triple_openJournalStage (hunnamed : x.unnamed) :
    Triple inv guar (· = x) (openJournalStage path allowNamedFallback) fun handle y =>
      (∃ node, handle = .unnamed node ∧ node.kind = .regularFile ∧ node.device ≠ 0 ∧ node.inode ≠ 0) ∧ y = x := by
  refine Triple.at (reads_openUnnamed _ _) fun opened hopened => ?_
  obtain ⟨node, rfl, hnode⟩ := hopened hunnamed
  exact triple_pure fun _ _ hy => ⟨⟨node, rfl, hnode⟩, hy⟩

lemma triple_createJournalStage (hunnamed : x.unnamed)
    (h : ∀ b, Written b bytes → x.files.lookup path = none → guar x (placed x path b) ∧ inv (placed x path b)) :
    Triple inv guar (· = x) (createJournalStage path parent bytes allowNamedFallback) fun file y =>
      x.files.lookup path = none ∧ ∃ b, Written b bytes ∧ y = placed x path b ∧ file = observed b parent := by
  refine Triple.at reads_fstatatNofollow fun entry hentry => ?_
  cases entry with
  | some node => exact triple_throw
  | none =>
    refine .bind (triple_openJournalStage hunnamed) fun handle => triple_of_imp ?_
    rintro ⟨node, rfl, hkind, hdevice, hinode⟩
    refine Triple.skip (Reads.andThen reads_system fun _ => reads_pure (R := fun _ _ => True) fun _ => trivial)
      fun created => ?_
    refine (triple_fillJournalStage hkind hdevice hinode h).post fun file y _ hy => ⟨hentry.symm, hy⟩

lemma triple_unlinkJournalEntryExact
    (h : ∀ node y, x.files.lookup path = some node → observedControlMatches E (observed node parent) expected →
      Unlinks path x y → guar x y ∧ inv y) :
    Triple inv guar (· = x) (unlinkJournalEntryExact E path parent expected) fun _ y => Unlinks path x y := by
  refine Triple.at reads_observeAtomicAt fun file hfile => Triple.at reads_orMissing fun live hlive => ?_
  rw [hlive] at hfile
  obtain ⟨node, hnode, rfl⟩ := Option.map_eq_some_iff.mp hfile.1.symm
  refine Triple.at reads_fromExcept fun _ hmatches => ?_
  have hmatches := require_eq_ok.mp hmatches
  refine .bind (triple_unlinkat fun y hy => h node y hnode hmatches hy) fun _ => ?_
  exact (reads_system.triple).post fun _ _ _ hy => hy.1

end

def Advances (E : Encoding) (call : JournalCall) (y z : World) : Prop := z = y ∨ Move E call y z

instance (call : JournalCall) : Std.Refl (Advances E call) := ⟨fun _ => .inl rfl⟩

variable {call : JournalCall}

def Loaded (file : Option ObservedFile) (y : World) : Prop :=
  (file = none ∧ y.files.lookup journalFile = none) ∨
    ∃ node parent, file = some (observed node parent) ∧ y.files.lookup journalFile = some node ∧ NoStage y

lemma triple_settleJournalStage {q : ParsedJournal} (hx : Shape E x) (hj : x.files.lookup journalFile = some b)
    (hq : parsedJournal E b.bytes = .ok q) (hs : x.files.lookup ⟨journalFile.directory, name⟩ = some a) :
    Triple (Shape E) (Advances E call) (· = x)
      (settleJournalStage E journalFile.directory parent (observed b parent) q name
        (observed a parent)) Loaded := by
  refine Triple.at reads_fromExcept fun expected hexpected => Triple.at reads_fromExcept fun _ hname => ?_
  obtain ⟨hstageName, hstage⟩ := stage_spec hq
  rw [hstageName, Except.ok.injEq] at hexpected
  obtain rfl : stageName q.transactionId = name := hexpected.trans (require_eq_ok.mp hname)
  refine Triple.skip reads_fromExcept fun _ => Triple.at reads_fromExcept fun p hp => ?_
  split
  · exact triple_throw
  split
  next hnext =>
    have hsucceeds : Succeeds E a b := ⟨p, q, hp, hq, hnext⟩
    have hstageOf : IsStageOf E a ⟨journalFile.directory, stageName q.transactionId⟩ :=
      hsucceeds.isStageOf.mpr ⟨q, hq, rfl⟩
    refine .bind (triple_unlinkJournalEntryExact fun node y _ _ hunlinks => ?_) fun _ => ?_
    · have hmove : Move E call x y := .clean hsucceeds hstageOf hj hs hunlinks
      exact ⟨.inr hmove, hmove.shape hx⟩
    · refine triple_pure fun y _ hunlinks => .inr ⟨b, parent, rfl, ?_, ?_⟩
      · rw [hunlinks.spec.2.1 _ hstageOf.ne, hj]
      · exact (hx.staged hj hstage hs).2.2.1.noStage_of_unlinks hunlinks
  · exact triple_throw

lemma triple_loadJournal (call : JournalCall) :
    Triple (Shape E) (Advances E call) (fun _ => True) (loadJournal E) Loaded := by
  apply triple_intro
  rintro x hx -
  refine Triple.at reads_journalParent fun found hfound => ?_
  obtain ⟨parent, rfl, -⟩ := hfound
  refine Triple.at reads_observeAtomicAt fun target htarget => ?_
  refine Triple.at reads_journalStageCandidates fun candidates hcandidates => ?_
  cases target with
  | none =>
    have hj := Option.map_eq_none_iff.mp htarget.1.symm
    match candidates with
    | [] => exact triple_pure fun y _ hy => .inl ⟨rfl, hy ▸ hj⟩
    | [_] => exact triple_throw
    | _ :: _ :: _ => exact triple_throw
  | some target =>
    obtain ⟨b, hj, rfl⟩ := Option.map_eq_some_iff.mp htarget.1.symm
    refine Triple.skip reads_fromExcept fun _ => Triple.at reads_fromExcept fun q hq => ?_
    match candidates, hcandidates with
    | [], hcandidates =>
      have hnone := stageNames_eq_nil.mp (List.forall₂_nil_right_iff.mp hcandidates)
      exact triple_pure fun y _ hy => .inr ⟨b, parent, rfl, hy ▸ hj, hy ▸ hnone⟩
    | [candidate], hcandidates =>
      obtain ⟨name, names, ⟨a, hs, rfl⟩, -⟩ := List.forall₂_cons_right_iff.mp hcandidates
      exact triple_settleJournalStage hx hj hq hs
    | _ :: _ :: _, _ => exact triple_throw

lemma triple_removeJournal {transactionId : String} :
    Triple (Shape E) (Advances E (.remove transactionId expected)) (fun _ => True)
      (removeJournal E transactionId expected) fun _ _ => True := by
  refine Triple.skip reads_fromExcept fun _ => Triple.skip reads_fromExcept fun _ => ?_
  refine .bind (triple_loadJournal _) fun file => triple_intro fun y hy hloaded => ?_
  refine Triple.at reads_orMissing fun found hfound => Triple.skip reads_fromExcept fun _ => ?_
  refine Triple.at reads_journalParent fun opened hopened => ?_
  obtain ⟨parent, rfl, -⟩ := hopened
  obtain ⟨hnone, -⟩ | ⟨-, -, -, -, hstage⟩ := hloaded
  · cases hfound.symm.trans hnone
  · refine (triple_unlinkJournalEntryExact fun node z _ _ hunlinks => ?_).post fun _ _ _ _ => trivial
    have hmove : Move E (.remove transactionId expected) y z := .remove hstage hunlinks
    exact ⟨.inr hmove, hmove.shape hy⟩

inductive Progress (E : Encoding) (bytes : Bytes) (x : World) : World → Prop where
  | untouched : Progress E bytes x x
  | started {b : Node} (written : Written b bytes) (journal : x.files.lookup journalFile = none) :
      Progress E bytes x (placed x journalFile b)
  | linked {a b : Node} {path : Path} (written : Written b bytes) (succeeds : Succeeds E a b)
      (isStageOf : IsStageOf E a path) (journal : x.files.lookup journalFile = some a) :
      Progress E bytes x (placed x path b)
  | exchanged {a b : Node} {path : Path} (written : Written b bytes) (succeeds : Succeeds E a b)
      (isStageOf : IsStageOf E a path) : Progress E bytes x (exchanged (placed x path b) path a b)
  | finished {a b : Node} {path : Path} {y : World} (written : Written b bytes) (succeeds : Succeeds E a b)
      (isStageOf : IsStageOf E a path) (unlinks : Unlinks path (exchanged (placed x path b) path a b) y) :
      Progress E bytes x y

variable {q : ParsedJournal}

lemma first_of_checkIncoming (h : checkIncoming E none bytes = .ok q) (hb : b.bytes = bytes) : First E b := by
  obtain ⟨incoming, hq, h⟩ := bind_eq_ok.mp h
  simp only [then_eq_ok, require_eq_ok] at h
  obtain ⟨hgeneration, hprior, h⟩ := h
  exact ⟨incoming, hb ▸ hq, hgeneration, hprior⟩

lemma parsed_of_checkIncoming {prior : Option ObservedFile} (h : checkIncoming E prior bytes = .ok q) :
    parsedJournal E bytes = .ok q := by
  obtain ⟨incoming, hq, h⟩ := bind_eq_ok.mp h
  cases prior with
  | none =>
    simp only [then_eq_ok] at h
    obtain ⟨-, -, h⟩ := h
    cases h
    exact hq
  | some prior =>
    obtain ⟨_, -, h⟩ := bind_eq_ok.mp h
    simp only [then_eq_ok] at h
    obtain ⟨-, -, h⟩ := h
    cases h
    exact hq

lemma succeeds_of_checkIncoming {prior : ObservedFile} (h : checkIncoming E (some prior) bytes = .ok q)
    (hmatches : observedControlMatches E prior (observed a parent)) (hb : b.bytes = bytes) : Succeeds E a b := by
  obtain ⟨hsame, hidentity⟩ := eq_of_observedControlMatches hmatches
  obtain ⟨incoming, hq, h⟩ := bind_eq_ok.mp h
  obtain ⟨current, hcurrent, h⟩ := bind_eq_ok.mp h
  simp only [then_eq_ok, require_eq_ok] at h
  obtain ⟨hnext, hprior, -⟩ := h
  refine ⟨current, incoming, ?_, hb ▸ hq, hnext, ?_⟩
  · rw [← hcurrent, hsame]
    rfl
  · rw [hprior, Option.map_some, hidentity]
    rfl

lemma triple_renameat2_exchange {inv : World → Prop} {guar : World → World → Prop} [Std.Refl guar]
    (hj : x.files.lookup journalFile = some a) (hs : x.files.lookup path = some b)
    (h : guar x (exchanged x path a b) ∧ inv (exchanged x path a b)) :
    Triple inv guar (· = x) (renameat2 .exchange path journalFile) fun _ y => y = exchanged x path a b := by
  have hfiles : renamedFiles .exchange path journalFile x.files = some (exchanged x path a b).files := by
    rw [renamedFiles, exchangeFiles, hs, hj]
    rfl
  apply triple_action
  rintro c y hi rfl
  rw [hfiles]
  split
  next heq =>
    cases heq
    exact ⟨h.1, h.2, fun _ _ => rfl⟩
  · refine ⟨refl y, hi, fun u hu => ?_⟩
    cases hu

variable {path : Path} {prior : ObservedFile}

lemma triple_replaceJournal (hx : Shape E x) (hunnamed : x.unnamed)
    (hj : x.files.lookup journalFile = some a) (hstageOf : IsStageOf E a path)
    (hsucceeds : ∀ b, Written b bytes → Succeeds E a b) :
    Triple (fun y => Shape E y ∧ Progress E bytes x y) (Advances E (.persist (some prior) bytes)) (· = x)
      (replaceJournal E journalFile path parent prior bytes) fun _ _ => True := by
  have hlink (b : Node) (hb : Written b bytes) (hfree : x.files.lookup path = none) :
      Move E (.persist (some prior) bytes) x (placed x path b) := .link hb (hsucceeds b hb) hstageOf hj hfree
  refine .bind (triple_createJournalStage hunnamed fun b hb hfree => ⟨.inr (hlink b hb hfree),
    (hlink b hb hfree).shape hx, .linked hb (hsucceeds b hb) hstageOf hj⟩) fun stage =>
    triple_of_imp fun hfree => ?_
  refine triple_exists fun b => triple_of_imp fun hb => ?_
  apply Triple.pre ?_ fun _ _ h => h.1
  -- From here on the state is known after every step.
  have hjournal : (placed x path b).files.lookup journalFile = some a := by
    rw [placed, AList.lookup_insert_ne hstageOf.ne, hj]
  have hstage : (placed x path b).files.lookup path = some b := AList.lookup_insert _
  have hexchange : Move E (.persist (some prior) bytes) (placed x path b) (exchanged (placed x path b) path a b) :=
    .exchange hb (hsucceeds b hb) hstageOf hjournal hstage
  have hshape := hexchange.shape ((hlink b hb hfree).shape hx)
  refine Triple.skip reads_observeAtomicAt fun _ => Triple.skip reads_observeAtomicAt fun _ => ?_
  refine Triple.skip reads_fromExcept fun _ => ?_
  refine .bind (triple_renameat2_exchange hjournal hstage ⟨.inr hexchange, hshape,
    .exchanged hb (hsucceeds b hb) hstageOf⟩) fun _ => ?_
  refine Triple.skip reads_system fun _ => Triple.skip reads_observeAtomicAt fun _ => ?_
  refine Triple.skip reads_orMissing fun _ => Triple.skip reads_fromExcept fun _ => ?_
  refine Triple.skip reads_observeAtomicAt fun _ => Triple.skip reads_orMissing fun _ => ?_
  refine Triple.skip reads_fromExcept fun _ => ?_
  refine .bind (triple_unlinkJournalEntryExact fun node y hnode _ hunlinks => ?_) fun _ =>
    triple_any
  have hclean : Move E (.persist (some prior) bytes) (exchanged (placed x path b) path a b) y := by
    refine .clean (hsucceeds b hb) hstageOf (AList.lookup_insert _) ?_ hunlinks
    rw [exchanged, AList.lookup_insert_ne hstageOf.ne.symm, AList.lookup_insert]
  exact ⟨.inr hclean, hclean.shape hshape, .finished hb (hsucceeds b hb) hstageOf hunlinks⟩

lemma triple_persistJournal (prior : Option ObservedFile) (bytes : Bytes) (hx : Shape E x) (hunnamed : x.unnamed) :
    Triple (fun y => Shape E y ∧ Progress E bytes x y) (Advances E (.persist prior bytes)) (· = x)
      (persistJournal E prior bytes) fun _ _ => True := by
  refine Triple.at reads_fromExcept fun incoming hincoming => ?_
  refine Triple.at reads_journalParent fun opened hopened => ?_
  obtain ⟨parent, rfl, hparent⟩ := hopened
  have hparsed := parsed_of_checkIncoming hincoming
  refine Triple.at reads_fromExcept fun name hname => ?_
  obtain ⟨hstageName, hstage⟩ := stage_spec hparsed
  rw [hstageName, Except.ok.injEq] at hname
  subst hname
  refine Triple.at reads_observeAtomicAt fun live hlive => Triple.at reads_fromExcept fun _ hmatches => ?_
  have hlive := hlive.1
  have hmatches := require_eq_ok.mp hmatches
  rw [hlive] at hmatches
  cases hj : x.files.lookup journalFile with
  | none =>
    rw [hj] at hmatches
    cases prior with
    | some prior => cases hmatches
    | none =>
      have hstart (b : Node) (hb : Written b bytes) : Move E (.persist none bytes) x (placed x journalFile b) :=
        .start hb (first_of_checkIncoming hincoming hb.bytes) hj ⟨parent, hparent⟩
      refine (triple_createJournalStage hunnamed fun b hb _ => ?_).post fun _ _ _ _ => trivial
      exact ⟨.inr (hstart b hb), (hstart b hb).shape hx, .started hb hj⟩
  | some a =>
    rw [hj] at hmatches
    cases prior with
    | none => cases hmatches
    | some prior =>
      have hsucceeds (b : Node) (hb : Written b bytes) : Succeeds E a b :=
        succeeds_of_checkIncoming hincoming hmatches hb.bytes
      have hsample : Succeeds E a { a with bytes := bytes } := succeeds_of_checkIncoming hincoming hmatches rfl
      have hstageOf := hsample.isStageOf.mpr ⟨incoming, hparsed, rfl⟩
      exact triple_replaceJournal hx hunnamed hj hstageOf hsucceeds

end Howy.Security
