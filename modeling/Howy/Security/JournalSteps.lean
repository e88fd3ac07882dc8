import Howy.Library.Traces
import Howy.Provisioning.JournalHistory
import Howy.Security.AtomicSteps
import Howy.Security.JournalStore

namespace Howy.Security

open Library Storage Provisioning JournalHistory

variable {E : Encoding} {bytes : Bytes} {p q : ParsedJournal}

def journalFile : Path := located securityJournalPath

def IsStage (path : Path) : Prop :=
  path.directory = journalFile.directory ∧ isJournalStageName path.name = true

lemma not_isStage_journalFile : ¬ IsStage journalFile := by
  rw [IsStage]
  decide

lemma parseBounded_eq_some {α : Type} {decode : Bytes → Option α} {validate : α → Check} {journal : α}
    (h : parseBounded decode validate bytes = some journal) :
    bytes.length ≤ maxJournalBytes.toNat ∧ decode bytes = some journal ∧ validate journal = .ok () := by
  rw [parseBounded] at h
  split at h
  · rw [Option.filter_eq_some_iff, beq_iff_eq] at h
    exact ⟨‹_›, h⟩
  · cases h

lemma parsed_spec (h : parsedJournal E bytes = .ok p) :
    bytes.length ≤ maxJournalBytes.toNat ∧ validateJournalStagingPath p.transactionId p.stagingPath = .ok () := by
  rw [parsedJournal] at h
  split at h
  · cases h
    obtain ⟨hlength, -, hvalid⟩ := parseBounded_eq_some ‹parseBounded E.mode1 _ _ = some _›
    simp only [ProvisioningJournalV1.validate, then_eq_ok] at hvalid
    exact ⟨hlength, hvalid.2.2.2.2.1⟩
  · cases h
    obtain ⟨hlength, -, hvalid⟩ := parseBounded_eq_some ‹parseBounded E.plaintext _ _ = some _›
    simp only [PlaintextProvisioningJournalV1.validate, then_eq_ok] at hvalid
    exact ⟨hlength, hvalid.2.2.2.2.1⟩
  · cases h
    obtain ⟨hlength, -, hvalid⟩ := parseBounded_eq_some ‹parseBounded E.supervisor _ _ = some _›
    simp only [SupervisorJournalV1.validate, then_eq_ok] at hvalid
    exact ⟨hlength, hvalid.2.2.2.2.1⟩
  · cases h

def stageName (transactionId : String) : Bytes :=
  utf8Bytes ".howy-" ++ utf8Bytes transactionId ++ utf8Bytes "-transaction-v1.json-journal.stage"

lemma utf8Bytes_stagingPath (transactionId : String) :
    utf8Bytes (securityJournalDirectory ++ "/.howy-" ++ transactionId ++ "-transaction-v1.json-journal.stage") =
      utf8Bytes securityJournalDirectory ++ 47 :: stageName transactionId := by
  have hslash : utf8Bytes "/.howy-" = 47 :: utf8Bytes ".howy-" := by decide
  simp [utf8Bytes_append, stageName, hslash]

section

variable {transactionId field : String} (h : validateTransactionIdV1 transactionId field = .ok ())
include h

lemma notMem_stageName {b : UInt8} (hb : isLowerHexByte b = false)
    (hfixed : b ∉ utf8Bytes ".howy-" ∧ b ∉ utf8Bytes "txn-" ∧ b ∉ utf8Bytes "-transaction-v1.json-journal.stage") :
    b ∉ stageName transactionId := by
  have hid := notMem_of_validateTransactionIdV1 h hb hfixed.2.1
  simp [stageName, hid, hfixed]

lemma isJournalStageName_stageName : isJournalStageName (stageName transactionId) := by
  rw [isJournalStageName, Bool.and_eq_true, List.isPrefixOf_iff_prefix, List.isSuffixOf_iff_suffix]
  refine ⟨?_, List.suffix_append _ _⟩
  simp only [validateTransactionIdV1, then_eq_ok, require_eq_ok] at h
  have hid : utf8Bytes transactionId = utf8Bytes "txn-" ++ (utf8Bytes transactionId).drop 4 := by
    rw [← h.1, List.take_append_drop]
  have hprefix : utf8Bytes ".howy-txn-" = utf8Bytes ".howy-" ++ utf8Bytes "txn-" := by decide
  rw [stageName, hid, hprefix, ← List.append_assoc]
  exact List.prefix_append _ _

end

lemma stage_spec (h : parsedJournal E bytes = .ok p) :
    journalStageName p.stagingPath = .ok (stageName p.transactionId) ∧
      IsStage ⟨journalFile.directory, stageName p.transactionId⟩ := by
  obtain ⟨-, h⟩ := parsed_spec h
  obtain ⟨canonical, hcanonical, hpath⟩ := bind_eq_ok.mp h
  simp only [canonicalJournalStagingPath, then_eq_ok] at hcanonical
  obtain ⟨hid, hcanonical⟩ := hcanonical
  cases hcanonical
  have hbytes := congrArg utf8Bytes (require_eq_ok.mp hpath)
  rw [utf8Bytes_stagingPath] at hbytes
  have hslash : 47 ∉ stageName p.transactionId := notMem_stageName hid (by decide) (by decide)
  have hnul : 0 ∉ stageName p.transactionId := notMem_stageName hid (by decide) (by decide)
  have hlong : 2 < (stageName p.transactionId).length := by
    have hfixed : (utf8Bytes ".howy-").length = 6 := by decide
    simp only [stageName, List.length_append]
    omega
  have hname := segmentComponent_of_length hlong
  have hvanishes : vanishes (stageName p.transactionId) = false := by
    rw [vanishes, Bool.or_eq_false_iff, beq_eq_false_iff_ne, beq_eq_false_iff_ne]
    refine ⟨fun hnil => ?_, fun hdot => ?_⟩
    · rw [hnil] at hlong
      exact absurd hlong (by decide)
    · rw [hdot] at hlong
      exact absurd hlong (by decide)
  have hplain : isPlainPath (utf8Bytes p.stagingPath) := by
    have hdirectory : (components (utf8Bytes securityJournalDirectory)).all Component.isPlain := by decide
    have hroot : utf8Bytes securityJournalDirectory = 47 :: utf8Bytes "var/lib" := by decide
    rw [hbytes, isPlainPath, components_append (by decide) hslash hname, List.all_append, hdirectory]
    rfl
  have hsplit : splitAbsolute (utf8Bytes p.stagingPath) = .ok (utf8Bytes "/var/lib",
      stageName p.transactionId) := by
    refine splitAbsolute_eq_ok.mpr ⟨hplain, ?_, ?_⟩
    · rw [hbytes, parent_append hslash hvanishes]
      decide
    · rw [hbytes, fileName_append hslash hname]
  have hne : p.stagingPath ≠ securityJournalPath := by
    intro heq
    have hmem := isJournalStageName_stageName hid
    have hjournal : fileName (utf8Bytes securityJournalPath) =
        some (utf8Bytes "howy-security-transaction-v1.json") := by
      decide
    rw [← heq, hbytes, fileName_append hslash hname, Option.some.injEq] at hjournal
    rw [hjournal] at hmem
    exact absurd hmem (by decide)
  refine ⟨?_, rfl, isJournalStageName_stageName hid⟩
  refine bind_eq_ok.mpr ⟨_, resolve_eq_ok.mpr ⟨hplain, rfl⟩, bind_eq_ok.mpr ⟨_, hsplit, ?_⟩⟩
  refine bind_eq_ok.mpr ⟨_, resolve_eq_ok.mpr ⟨by decide, rfl⟩, bind_eq_ok.mpr
    ⟨(utf8Bytes "/var/lib", utf8Bytes "howy-security-transaction-v1.json"), by decide, ?_⟩⟩
  exact then_eq_ok.mpr ⟨require_eq_ok.mpr ⟨by decide, hne⟩, cstring_eq_ok.mpr ⟨hnul, rfl⟩⟩

variable {other : Path}

section

structure Written (node : Node) (bytes : Bytes) : Prop where
  kind : node.kind = .regularFile
  nlink : node.nlink = 1
  uid : node.uid = 0
  gid : node.gid = 0
  permissions : node.permissions = 0o600
  device : node.device ≠ 0
  inode : node.inode ≠ 0
  bytes : node.bytes = bytes

def identityOf (E : Encoding) (node : Node) : AtomicFileIdentityV1 := atomicIdentity E.sha256 node.bytes node

def First (E : Encoding) (b : Node) : Prop :=
  ∃ q, parsedJournal E b.bytes = .ok q ∧ q.generation = 1 ∧ q.priorJournalIdentity = none

def Succeeds (E : Encoding) (a b : Node) : Prop :=
  ∃ p q, parsedJournal E a.bytes = .ok p ∧ parsedJournal E b.bytes = .ok q ∧ p.validNext E q = true ∧
    q.priorJournalIdentity = some (identityOf E a)

def IsStageOf (E : Encoding) (node : Node) (path : Path) : Prop :=
  ∃ p, parsedJournal E node.bytes = .ok p ∧ path = ⟨journalFile.directory, stageName p.transactionId⟩

def Opened (w : World) (parent : DirectoryIdentityV1) : Prop :=
  ∀ z, SameDirectories w z → Sure Calm journalParent z (journalFile.directory, parent, journalFile.name)

def NoStage (w : World) : Prop := ∀ path, IsStage path → w.files.lookup path = none

def OnlyStage (w : World) (path : Path) (node : Node) : Prop :=
  w.files.lookup path = some node ∧ ∀ other, IsStage other → other ≠ path → w.files.lookup other = none

variable (E)

inductive Shape (w : World) : Prop where
  | absent (journal : w.files.lookup journalFile = none) (stage : NoStage w)
  | single {a : Node} (written : Written a a.bytes) (parses : ∃ p, parsedJournal E a.bytes = .ok p)
      (journal : w.files.lookup journalFile = some a) (stage : NoStage w) (opened : ∃ parent, Opened w parent)
  | before {a b : Node} {path : Path} (writtenOld : Written a a.bytes) (writtenNew : Written b b.bytes)
      (succeeds : Succeeds E a b) (isStageOf : IsStageOf E a path) (journal : w.files.lookup journalFile = some a)
      (stage : OnlyStage w path b) (opened : ∃ parent, Opened w parent)
  | after {a b : Node} {path : Path} (writtenOld : Written a a.bytes) (writtenNew : Written b b.bytes)
      (succeeds : Succeeds E a b) (isStageOf : IsStageOf E a path) (journal : w.files.lookup journalFile = some b)
      (stage : OnlyStage w path a) (opened : ∃ parent, Opened w parent)

inductive JournalCall where
  | persist (prior : Option ObservedFile) (bytes : Bytes)
  | load
  | remove (transactionId : String) (expected : ObservedFile)

def placed (w : World) (path : Path) (node : Node) : World :=
  { w with files := w.files.insert path node }

def exchanged (w : World) (path : Path) (a b : Node) : World :=
  { w with files := (w.files.insert path a).insert journalFile b }

inductive Move : JournalCall → World → World → Prop where
  | start {bytes : Bytes} {b : Node} {y : World} (written : Written b bytes) (first : First E b)
      (journal : y.files.lookup journalFile = none) (opened : ∃ parent, Opened y parent) :
      Move (.persist none bytes) y (placed y journalFile b)
  | link {prior : ObservedFile} {bytes : Bytes} {a b : Node} {path : Path} {y : World}
      (written : Written b bytes) (succeeds : Succeeds E a b) (isStageOf : IsStageOf E a path)
      (journal : y.files.lookup journalFile = some a) (stage : y.files.lookup path = none) :
      Move (.persist (some prior) bytes) y (placed y path b)
  | exchange {prior : ObservedFile} {bytes : Bytes} {a b : Node} {path : Path} {y : World}
      (written : Written b bytes) (succeeds : Succeeds E a b) (isStageOf : IsStageOf E a path)
      (journal : y.files.lookup journalFile = some a) (stage : y.files.lookup path = some b) :
      Move (.persist (some prior) bytes) y (exchanged y path a b)
  | clean {call : JournalCall} {a b : Node} {path : Path} {y z : World} (succeeds : Succeeds E a b)
      (isStageOf : IsStageOf E a path) (journal : y.files.lookup journalFile = some b)
      (stage : y.files.lookup path = some a) (unlinks : Unlinks path y z) : Move call y z
  | remove {transactionId : String} {expected : ObservedFile} {y z : World} (stage : NoStage y)
      (unlinks : Unlinks journalFile y z) : Move (.remove transactionId expected) y z

variable {E} {a b : Node} {path : Path} {w y z : World} {call : JournalCall}

lemma IsStageOf.isStage (h : IsStageOf E a path) : IsStage path := by
  obtain ⟨p, hp, rfl⟩ := h
  exact (stage_spec hp).2

lemma IsStageOf.ne (h : IsStageOf E a path) : journalFile ≠ path := by
  rintro rfl
  exact not_isStage_journalFile h.isStage

lemma ne_journalFile_of_isStage (h : IsStage other) : other ≠ journalFile := by
  rintro rfl
  exact not_isStage_journalFile h

lemma Succeeds.isStageOf (h : Succeeds E a b) : IsStageOf E a path ↔ IsStageOf E b path := by
  obtain ⟨p, q, hp, hq, hnext, -⟩ := h
  simp only [ParsedJournal.validNext, Bool.and_eq_true, beq_iff_eq] at hnext
  simp [IsStageOf, hp, hq, hnext.1.1.1]

lemma IsStageOf.unique (h : IsStageOf E a path) (h' : IsStageOf E a other) : other = path := by
  obtain ⟨p, hp, rfl⟩ := h
  obtain ⟨q, hq, rfl⟩ := h'
  rw [hp, Except.ok.injEq] at hq
  rw [hq]

lemma generation_lt (h : p.validNext E q) : p.generation.toNat < q.generation.toNat := by
  simp only [ParsedJournal.validNext, Bool.and_eq_true, beq_iff_eq] at h
  have hnext := toNat_of_checkedSuccessor h.1.2
  omega

lemma Opened.same {parent : DirectoryIdentityV1} (h : Opened w parent) (hz : SameDirectories w z) :
    Opened z parent :=
  fun _ hy => h _ (hz.trans hy)

lemma Move.sameDirectories (h : Move E call y z) : SameDirectories y z := by
  cases h with
  | start | link | exchange => rfl
  | clean succeeds isStageOf journal stage unlinks | remove stage unlinks => exact unlinks.spec.2.2

lemma OnlyStage.noStage_of_unlinks (h : OnlyStage y path a) (hunlinks : Unlinks path y z) : NoStage z := by
  intro other hother
  obtain ⟨hgone, hothers, -⟩ := hunlinks.spec
  by_cases heq : other = path
  · rw [heq, hgone]
  · rw [hothers other heq, h.2 other hother heq]

lemma OnlyStage.eq (h : OnlyStage y path a) (hother : IsStage other)
    (hfound : y.files.lookup other = some b) : other = path ∧ b = a := by
  by_cases heq : other = path
  · rw [heq, h.1, Option.some.injEq] at hfound
    exact ⟨heq, hfound.symm⟩
  · rw [h.2 other hother heq] at hfound
    cases hfound

section

variable (hy : Shape E y)
include hy

lemma Shape.noStage (hj : y.files.lookup journalFile = none) : NoStage y := by
  cases hy with
  | absent _ stage => exact stage
  | single _ _ journal | before _ _ _ _ journal | after _ _ _ _ journal => cases hj.symm.trans journal

lemma Shape.alone (hj : y.files.lookup journalFile = some a) (hp : IsStageOf E a path)
    (hfree : y.files.lookup path = none) : Written a a.bytes ∧ NoStage y ∧ ∃ parent, Opened y parent := by
  cases hy with
  | absent journal => cases hj.symm.trans journal
  | single written _ journal stage opened =>
    cases hj.symm.trans journal
    exact ⟨written, stage, opened⟩
  | before _ _ _ isStageOf journal stage =>
    cases hj.symm.trans journal
    rw [isStageOf.unique hp, stage.1] at hfree
    cases hfree
  | after _ _ succeeds isStageOf journal stage =>
    cases hj.symm.trans journal
    rw [(succeeds.isStageOf.mp isStageOf).unique hp, stage.1] at hfree
    cases hfree

lemma Shape.staged (hj : y.files.lookup journalFile = some a) (hp : IsStage path)
    (hb : y.files.lookup path = some b) :
    Written a a.bytes ∧ Written b b.bytes ∧ OnlyStage y path b ∧ ∃ parent, Opened y parent := by
  cases hy with
  | absent _ stage | single _ _ _ stage => cases hb.symm.trans (stage path hp)
  | before writtenOld writtenNew _ _ journal stage opened =>
    cases hj.symm.trans journal
    obtain ⟨rfl, rfl⟩ := stage.eq hp hb
    exact ⟨writtenOld, writtenNew, stage, opened⟩
  | after writtenOld writtenNew _ _ journal stage opened =>
    cases hj.symm.trans journal
    obtain ⟨rfl, rfl⟩ := stage.eq hp hb
    exact ⟨writtenNew, writtenOld, stage, opened⟩

end

lemma Move.shape (h : Move E call y z) (hy : Shape E y) : Shape E z := by
  have hsame := h.sameDirectories
  cases h with
  | start written first journal opened =>
    obtain ⟨parent, hparent⟩ := opened
    obtain ⟨q, hq, -⟩ := first
    refine .single (written.bytes ▸ written) ⟨q, hq⟩ (AList.lookup_insert _) ?_ ⟨parent, hparent.same hsame⟩
    intro other hother
    rw [placed, AList.lookup_insert_ne (ne_journalFile_of_isStage hother), hy.noStage journal other hother]
  | link written succeeds isStageOf journal stage =>
    obtain ⟨writtenOld, noStage, parent, hparent⟩ := hy.alone journal isStageOf stage
    refine .before writtenOld (written.bytes ▸ written) succeeds isStageOf ?_ ⟨AList.lookup_insert _, ?_⟩
      ⟨parent, hparent.same hsame⟩
    · rw [placed, AList.lookup_insert_ne isStageOf.ne, journal]
    · intro other hother hne
      rw [placed, AList.lookup_insert_ne hne, noStage other hother]
  | exchange written succeeds isStageOf journal stage =>
    obtain ⟨writtenOld, writtenNew, only, parent, hparent⟩ := hy.staged journal isStageOf.isStage stage
    refine .after writtenOld writtenNew succeeds isStageOf (AList.lookup_insert _) ⟨?_, ?_⟩
      ⟨parent, hparent.same hsame⟩
    · rw [exchanged, AList.lookup_insert_ne isStageOf.ne.symm, AList.lookup_insert]
    · intro other hother hne
      rw [exchanged, AList.lookup_insert_ne (ne_journalFile_of_isStage hother), AList.lookup_insert_ne hne,
        only.2 other hother hne]
  | clean succeeds isStageOf journal stage unlinks =>
    obtain ⟨writtenNew, -, only, parent, hparent⟩ := hy.staged journal isStageOf.isStage stage
    obtain ⟨p, q, hp, hq, -⟩ := succeeds
    refine .single writtenNew ⟨q, hq⟩ ?_ (only.noStage_of_unlinks unlinks) ⟨parent, hparent.same hsame⟩
    rw [unlinks.spec.2.1 _ isStageOf.ne, journal]
  | remove stage unlinks =>
    refine .absent unlinks.spec.1 fun other hother => ?_
    rw [unlinks.spec.2.1 other (ne_journalFile_of_isStage hother), stage other hother]

end

end Howy.Security
