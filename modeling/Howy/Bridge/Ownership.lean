import Howy.Library.Triples
import Howy.Bridge.Calls

namespace Howy.Bridge

open Library

def stashFile (generation : ℕ) : Path := ⟨.state, utf8Bytes (stashPrefix ++ toString generation)⟩

def IsStage (path : Path) : Prop :=
  (path.directory = .etcHowy ∨ path.directory = .state ∨ path.directory = .varLib) ∧ isStageName path.name = true

lemma heads : (utf8Bytes configStagePrefix).head? = some 46 ∧ (utf8Bytes controlStagePrefix).head? = some 46 ∧
    (utf8Bytes privateStagePrefix).head? = some 46 ∧ configFile.name.head? = some 99 ∧
    lockFile.name.head? = some 104 ∧ journalFile.name.head? = some 106 ∧ manifestFile.name.head? = some 109 ∧
    markerFile.name.head? = some 104 ∧ (utf8Bytes stashPrefix).head? = some 99 := by
  decide +kernel

lemma head_of_isStageName {name : List UInt8} (h : isStageName name) : name.head? = some 46 := by
  obtain ⟨hconfig, hcontrol, hprivate, -⟩ := heads
  simp only [isStageName, Bool.or_eq_true, List.isPrefixOf_iff_prefix] at h
  rcases h with (⟨t, rfl⟩ | ⟨t, rfl⟩) | ⟨t, rfl⟩
  · rw [List.head?_append, hconfig, Option.some_or]
  · rw [List.head?_append, hcontrol, Option.some_or]
  · rw [List.head?_append, hprivate, Option.some_or]

lemma not_isStage {path : Path} {b : UInt8} (h : path.name.head? = some b) (hb : b ≠ 46) : ¬ IsStage path := by
  intro hs
  have hd := head_of_isStageName hs.2
  rw [h, Option.some.injEq] at hd
  exact hb hd

@[simp] lemma files_not_isStage : ¬ IsStage configFile ∧ ¬ IsStage lockFile ∧ ¬ IsStage journalFile ∧
    ¬ IsStage manifestFile ∧ ¬ IsStage markerFile := by
  obtain ⟨-, -, -, hconfig, hlock, hjournal, hmanifest, hmarker, -⟩ := heads
  exact ⟨not_isStage hconfig (by decide), not_isStage hlock (by decide), not_isStage hjournal (by decide),
    not_isStage hmanifest (by decide), not_isStage hmarker (by decide)⟩

lemma config_not_isStage : ¬ IsStage configFile := files_not_isStage.1

lemma lock_not_isStage : ¬ IsStage lockFile := files_not_isStage.2.1

lemma journal_not_isStage : ¬ IsStage journalFile := files_not_isStage.2.2.1

lemma manifest_not_isStage : ¬ IsStage manifestFile := files_not_isStage.2.2.2.1

lemma marker_not_isStage : ¬ IsStage markerFile := files_not_isStage.2.2.2.2

@[simp] lemma files_directory : configFile.directory = .etcHowy ∧ journalFile.directory = .state ∧
    manifestFile.directory = .state ∧ markerFile.directory = .varLib ∧ lockFile.directory = .runLock :=
  ⟨rfl, rfl, rfl, rfl, rfl⟩

variable {p : Path} {node : Node} {g : ℕ} {transactionId suffix : String} {s'' : World}

lemma ne_of_directory {q : Path} (h : p.directory ≠ q.directory) : p ≠ q :=
  fun he => h (congrArg Path.directory he)

lemma ne_of_head {q : Path} {a b : UInt8} (hp : p.name.head? = some a) (hq : q.name.head? = some b) (h : a ≠ b) :
    p ≠ q := by
  rintro rfl
  exact h (Option.some.inj (hp.symm.trans hq))

@[simp] lemma files_ne : configFile ≠ journalFile ∧ configFile ≠ manifestFile ∧ configFile ≠ markerFile ∧
    configFile ≠ lockFile ∧ journalFile ≠ manifestFile ∧ journalFile ≠ markerFile ∧ journalFile ≠ lockFile ∧
    manifestFile ≠ markerFile ∧ manifestFile ≠ lockFile ∧ markerFile ≠ lockFile := by
  obtain ⟨-, -, -, -, -, hjournal, hmanifest, -⟩ := heads
  refine ⟨?_, ?_, ?_, ?_, ne_of_head hjournal hmanifest (by decide), ?_, ?_, ?_, ?_, ?_⟩ <;>
    exact ne_of_directory (by decide)

@[simp] lemma files_ne_symm : journalFile ≠ configFile ∧ manifestFile ≠ configFile ∧ markerFile ≠ configFile ∧
    lockFile ≠ configFile ∧ manifestFile ≠ journalFile ∧ markerFile ≠ journalFile ∧ lockFile ≠ journalFile ∧
    markerFile ≠ manifestFile ∧ lockFile ≠ manifestFile ∧ lockFile ≠ markerFile := by
  obtain ⟨h₁, h₂, h₃, h₄, h₅, h₆, h₇, h₈, h₉, h₁₀⟩ := files_ne
  exact ⟨h₁.symm, h₂.symm, h₃.symm, h₄.symm, h₅.symm, h₆.symm, h₇.symm, h₈.symm, h₉.symm, h₁₀.symm⟩

lemma head_stashFile : (stashFile g).name.head? = some 99 := by
  obtain ⟨-, -, -, -, -, -, -, -, hstash⟩ := heads
  rw [stashFile, utf8Bytes_append, List.head?_append, hstash, Option.some_or]

@[simp] lemma stash_not_isStage (g : ℕ) : ¬ IsStage (stashFile g) := not_isStage head_stashFile (by decide)

@[simp] lemma stash_ne_journal : stashFile g ≠ journalFile := by
  obtain ⟨-, -, -, -, -, hjournal, -⟩ := heads
  exact ne_of_head head_stashFile hjournal (by decide)

@[simp] lemma stash_ne_manifest : stashFile g ≠ manifestFile := by
  obtain ⟨-, -, -, -, -, -, hmanifest, -⟩ := heads
  exact ne_of_head head_stashFile hmanifest (by decide)

@[simp] lemma stash_ne_marker : stashFile g ≠ markerFile := ne_of_directory Directory.noConfusion

@[simp] lemma stash_ne_config : stashFile g ≠ configFile := ne_of_directory Directory.noConfusion

lemma resolve_stashPath {file : Path} (h : resolve (stashPath g) = some file) : file = stashFile g := by
  have hpath : utf8Bytes (stashPath g) =
      utf8Bytes (stateDirectory ++ "/") ++ utf8Bytes (stashPrefix ++ toString g) := by
    rw [stashPath, utf8Bytes_append, utf8Bytes_append, utf8Bytes_append stashPrefix, List.append_assoc]
  rw [resolve, hpath] at h
  rw [Option.ite_none_right_eq_some, Option.some.injEq] at h
  exact h.2.symm

lemma isStageName_append {start : String} (h : isStageName (utf8Bytes start)) {rest : String} :
    isStageName (utf8Bytes (start ++ rest)) := by
  simp only [isStageName, Bool.or_eq_true, List.isPrefixOf_iff_prefix] at h ⊢
  rcases h with (h | h) | h
  · exact .inl (.inl (h.trans (List.prefix_append _ _)))
  · exact .inl (.inr (h.trans (List.prefix_append _ _)))
  · exact .inr (h.trans (List.prefix_append _ _))

lemma configStage_isStageName :
    isStageName (utf8Bytes (configStagePrefix ++ transactionId ++ "-" ++ suffix)) := by
  rw [String.append_assoc, String.append_assoc]
  exact isStageName_append (by simp [isStageName])

lemma controlStage_isStageName :
    isStageName (utf8Bytes (controlStagePrefix ++ transactionId ++ "-" ++ suffix)) := by
  rw [String.append_assoc, String.append_assoc]
  exact isStageName_append (by simp [isStageName])

lemma privateFile_isStage {directory : Directory}
    (h : directory = .etcHowy ∨ directory = .state ∨ directory = .varLib) {label : String} :
    IsStage (privateFile directory transactionId label) := by
  refine ⟨h, ?_⟩
  rw [privateFile, String.append_assoc, String.append_assoc]
  exact isStageName_append (by simp [isStageName])

section

def look (s : World) (path : Path) : Option Node := s.files.lookup path

def put (s : World) (path : Path) (node : Node) : World := { s with files := s.files.insert path node }

def drop (s : World) (path : Path) : World := { s with files := s.files.erase path }

variable (s : World) (p q : Path) (node : Node)

@[simp] lemma look_put_self : look (put s p node) p = some node := AList.lookup_insert _

@[simp] lemma look_drop_self : look (drop s p) p = none := AList.lookup_erase _ _

variable {s p q node}

lemma look_put_of_ne (h : q ≠ p) : look (put s p node) q = look s q := AList.lookup_insert_ne h

lemma look_drop_of_ne (h : q ≠ p) : look (drop s p) q = look s q := AList.lookup_erase_ne h

end

variable (B : ConfigBridge)

def Expendable (node : Node) : Prop := node.made = true ∨ node.bytes = B.platform.legacyBytes

def Untouched (s s' : World) : Prop :=
  ∀ path node, look s path = some node → ¬ Expendable B node → look s' path = some node

def ControlNode (node : Node) : Prop :=
  node.kind = .regular ∧ node.nlink = 1 ∧ node.uid = B.expectedUid ∧ node.gid = B.expectedGid ∧
    node.permissions = 0o600

def StashHolds (s : World) (manifest : StashManifest) : Prop :=
  ∀ source path hash size, manifest.active.state = .presentStashed source path hash size →
    path = stashPath manifest.active.generation ∧ ∃ captured ∈ s.captures,
    record B.platform captured = .ok source ∧
      ∃ node, look s (stashFile manifest.active.generation) = some node ∧ node.bytes = captured.bytes

def CaptureHolds (s : World) : ConfigState → Prop
  | .absent _ => True
  | .present file => ∃ captured ∈ s.captures, record B.platform captured = .ok file ∧
      ∀ node, look s configFile = some node → node.bytes = captured.bytes ∨ node.bytes = B.platform.legacyBytes

def JournalHolds (s : World) : BridgeJournal → Prop
  | .bootstrapReleaseN _ _ _ _ => ∀ node, look s configFile = some node → Expendable B node
  | .stashReleaseN _ _ source previousManifest newManifest _ _ =>
    newManifest.active.state = capturedState source newManifest.active.generation ∧ CaptureHolds B s source ∧
      (previousManifest ≠ none → ∃ node, look s manifestFile = some node ∧ node.made = true)
  | .restoreReleaseN .. => True

/-- The controls are the bridge's own and say what holds; a foreign object under their names does not pass for
one. -/
structure Facts (s : World) : Prop where
  journal : ∀ node, look s journalFile = some node →
    (node.made = true ∧ ∃ journal, node.bytes = B.platform.journalToVec journal ++ [10] ∧
      JournalHolds B s journal) ∨
    (node.made = false ∧ ¬ (ControlNode B node ∧ ∃ journal, B.platform.journalFromSlice node.bytes = some journal))
  manifest : ∀ node, look s manifestFile = some node →
    (node.made = true ∧ ∃ manifest, node.bytes = B.platform.manifestToVec manifest ++ [10] ∧
      StashHolds B s manifest) ∨
    (node.made = false ∧
      ¬ (ControlNode B node ∧ ∃ manifest, B.platform.manifestFromSlice node.bytes = some manifest))
  marker : ∀ node, look s markerFile = some node → node.made = true ∨ ¬ ControlNode B node

def StagesOurs (s : World) : Prop :=
  ∀ path node, IsStage path → look s path = some node →
    node.made = true ∨ path.directory = .etcHowy ∧ node.bytes = B.platform.legacyBytes

def Working (s : World) : Prop := Facts B s ∧ StagesOurs B s

def Resting (s : World) : Prop :=
  Facts B s ∧ ∀ node, look s journalFile = some node → node.made = true → StagesOurs B s

variable {B} {s s' : World}

lemma Untouched.refl (s : World) : Untouched B s s := fun _ _ h _ => h

lemma Working.resting (h : Working B s) : Resting B s := ⟨h.1, fun _ _ _ => h.2⟩

lemma StagesOurs.expendable (h : StagesOurs B s) {path : Path} (hp : IsStage path)
    (hl : look s path = some node) : Expendable B node := (h path node hp hl).imp id And.right

def NoStash (B : ConfigBridge) (s : World) : Prop :=
  ∀ node journal, look s journalFile = some node → node.made = true →
    node.bytes = B.platform.journalToVec journal ++ [10] → ∀ a b c d e f g, journal ≠ .stashReleaseN a b c d e f g

structure Carries (B : ConfigBridge) (s s' : World) : Prop where
  captures : ∀ node ∈ s.captures, node ∈ s'.captures
  stash : ∀ g node, look s (stashFile g) = some node → look s' (stashFile g) = some node
  manifest : ∀ node, look s manifestFile = some node → node.made = true →
    ∃ node', look s' manifestFile = some node' ∧ node'.made = true
  config : ∀ node, look s' configFile = some node → look s configFile = some node ∨
    node.bytes = B.platform.legacyBytes ∨ node.made = true ∧ NoStash B s

lemma StashHolds.carries {manifest : StashManifest} (h : StashHolds B s manifest) (hc : Carries B s s') :
    StashHolds B s' manifest := by
  intro source path hash size hstate
  obtain ⟨hpath, captured, hmem, hrecord, node, hnode, hbytes⟩ := h source path hash size hstate
  exact ⟨hpath, captured, hc.captures captured hmem, hrecord, node, hc.stash _ node hnode, hbytes⟩

lemma JournalHolds.carries {journal : BridgeJournal} {file : Node} (h : JournalHolds B s journal)
    (hfile : look s journalFile = some file) (hmade : file.made)
    (hbytes : file.bytes = B.platform.journalToVec journal ++ [10]) (hc : Carries B s s') :
    JournalHolds B s' journal := by
  cases journal with
  | bootstrapReleaseN a b c d =>
    intro node hnode
    rcases hc.config node hnode with hold | hlegacy | ⟨hmade', -⟩
    · exact h node hold
    · exact .inr hlegacy
    · exact .inl hmade'
  | restoreReleaseN => trivial
  | stashReleaseN a b source previous manifest d e =>
    obtain ⟨hstate, hcapture, hprevious⟩ := h
    refine ⟨hstate, ?_, ?_⟩
    · cases source with
      | absent => trivial
      | present record =>
        obtain ⟨captured, hmem, hrecord, hlive⟩ := hcapture
        refine ⟨captured, hc.captures captured hmem, hrecord, ?_⟩
        intro node hnode
        rcases hc.config node hnode with hold | hlegacy | ⟨-, hno⟩
        · exact hlive node hold
        · exact .inr hlegacy
        · exact absurd rfl (hno file _ hfile hmade hbytes a b _ previous manifest d e)
    · intro hsome
      obtain ⟨node, hnode, hmade'⟩ := hprevious hsome
      exact hc.manifest node hnode hmade'

lemma Facts.step (h : Facts B s) (hc : Carries B s s')
    (hj : ∀ node, look s' journalFile = some node → look s journalFile = some node ∨
      node.made ∧ ∃ journal, node.bytes = B.platform.journalToVec journal ++ [10] ∧ JournalHolds B s' journal)
    (hm : ∀ node, look s' manifestFile = some node → look s manifestFile = some node ∨
      node.made ∧ ∃ manifest, node.bytes = B.platform.manifestToVec manifest ++ [10] ∧ StashHolds B s' manifest)
    (hk : ∀ node, look s' markerFile = some node → look s markerFile = some node ∨ node.made) : Facts B s' where
  journal node hnode := by
    rcases hj node hnode with hold | hnew
    · rcases h.journal node hold with ⟨hmade, journal, hbytes, hholds⟩ | hforeign
      · exact .inl ⟨hmade, journal, hbytes, hholds.carries hold hmade hbytes hc⟩
      · exact .inr hforeign
    · exact .inl hnew
  manifest node hnode := by
    rcases hm node hnode with hold | hnew
    · rcases h.manifest node hold with ⟨hmade, manifest, hbytes, hholds⟩ | hforeign
      · exact .inl ⟨hmade, manifest, hbytes, hholds.carries hc⟩
      · exact .inr hforeign
    · exact .inl hnew
  marker node hnode := by
    rcases hk node hnode with hold | hnew
    · exact h.marker node hold
    · exact .inl hnew

def SameCore (s s' : World) : Prop :=
  s'.captures = s.captures ∧ ∀ path, ¬ IsStage path → look s' path = look s path

lemma SameCore.refl (s : World) : SameCore s s := ⟨rfl, fun _ _ => rfl⟩

lemma SameCore.trans (h : SameCore s s') (h' : SameCore s' s'') : SameCore s s'' :=
  ⟨h'.1.trans h.1, fun path hp => (h'.2 path hp).trans (h.2 path hp)⟩

lemma SameCore.carries (h : SameCore s s') : Carries B s s' where
  captures _ hn := h.1 ▸ hn
  stash g _ hn := (h.2 _ (stash_not_isStage g)).trans hn
  manifest node hn hmade := ⟨node, (h.2 _ manifest_not_isStage).trans hn, hmade⟩
  config _ hn := .inl ((h.2 _ config_not_isStage).symm.trans hn)

lemma SameCore.facts (h : SameCore s s') (hf : Facts B s) : Facts B s' :=
  hf.step h.carries (fun _ hn => .inl ((h.2 _ journal_not_isStage).symm.trans hn))
    (fun _ hn => .inl ((h.2 _ manifest_not_isStage).symm.trans hn))
    fun _ hn => .inl ((h.2 _ marker_not_isStage).symm.trans hn)

lemma sameCore_put (hp : IsStage p) : SameCore s (put s p node) :=
  ⟨rfl, fun _ hq => look_put_of_ne fun he => hq (he ▸ hp)⟩

lemma sameCore_drop (hp : IsStage p) : SameCore s (drop s p) :=
  ⟨rfl, fun _ hq => look_drop_of_ne fun he => hq (he ▸ hp)⟩

lemma SameCore.put (h : SameCore s s') (node : Node) : SameCore (put s p node) (put s' p node) := by
  refine ⟨h.1, fun q hq => ?_⟩
  by_cases hqp : q = p
  · subst hqp
    rw [look_put_self, look_put_self]
  · rw [look_put_of_ne hqp, look_put_of_ne hqp]
    exact h.2 q hq

lemma untouched_put (h : ∀ old, look s p = some old → Expendable B old) : Untouched B s (put s p node) := by
  intro q old hold hforeign
  have hqp : q ≠ p := by
    rintro rfl
    exact hforeign (h old hold)
  rw [look_put_of_ne hqp]
  exact hold

lemma untouched_drop (h : ∀ old, look s p = some old → Expendable B old) : Untouched B s (drop s p) := by
  intro q old hold hforeign
  have hqp : q ≠ p := by
    rintro rfl
    exact hforeign (h old hold)
  rw [look_drop_of_ne hqp]
  exact hold

lemma Untouched.trans (h : Untouched B s s') (h' : Untouched B s' s'') : Untouched B s s'' :=
  fun path node hn hforeign => h' path node (h path node hn hforeign) hforeign

lemma StagesOurs.put (h : StagesOurs B s)
    (hn : IsStage p → node.made ∨ p.directory = .etcHowy ∧ node.bytes = B.platform.legacyBytes) :
    StagesOurs B (put s p node) := by
  intro q old hq hold
  by_cases hqp : q = p
  · subst hqp
    rw [look_put_self, Option.some.injEq] at hold
    exact hold ▸ hn hq
  · rw [look_put_of_ne hqp] at hold
    exact h q old hq hold

lemma StagesOurs.drop (h : StagesOurs B s) : StagesOurs B (drop s p) := by
  intro q old hq hold
  by_cases hqp : q = p
  · subst hqp
    rw [look_drop_self] at hold
    cases hold
  · rw [look_drop_of_ne hqp] at hold
    exact h q old hq hold

lemma Working.put_stage (h : Working B s) (hp : IsStage p)
    (hn : node.made ∨ p.directory = .etcHowy ∧ node.bytes = B.platform.legacyBytes) : Working B (put s p node) :=
  ⟨(sameCore_put hp).facts h.1, h.2.put fun _ => hn⟩

lemma Working.drop_stage (h : Working B s) (hp : IsStage p) : Working B (drop s p) :=
  ⟨(sameCore_drop hp).facts h.1, h.2.drop⟩

end Howy.Bridge
