import Howy.Library.Totality
import Howy.Security.FileSystem

namespace Howy.Security

open Library Storage Provisioning

def Calm (c : Choice) : Prop := c.fault = false

def SameDirectories (w w' : World) : Prop := w.directories = w'.directories

variable {α : Type} {E : World → World → Prop} {w : World} {e : SecurityError} {expected : DirectoryIdentityV1}
  {x : Except SecurityError α} {path bytes name : Bytes} {directory : List Bytes}

lemma reads_orMissing {o : Option α} : Reads (fun _ a => o = some a) (orMissing e o) := by
  cases o with
  | none => exact reads_throw
  | some a => exact reads_pure fun _ => rfl

lemma seen_system (e : SecurityError) : Seen Calm E (system e) := by
  apply seen_query
  intro c w a hf c' w' hc _
  rw [hc]
  rfl

lemma reads_system : Reads (fun _ _ => True) (system e) := reads_query fun _ _ _ _ => trivial

lemma sure_system : Sure Calm (system e) w () := by
  apply sure_query
  intro c hc
  rw [hc]
  rfl

lemma asOperation_eq_ok {x : Except ProvisioningContractError α} {a : α} : asOperation x = .ok a ↔ x = .ok a := by
  cases x <;> simp [asOperation]

lemma cstring_eq_ok : cstring bytes = .ok name ↔ 0 ∉ bytes ∧ bytes = name := by
  rw [cstring]
  split <;> simp [*]

lemma resolve_eq_ok {path : String} :
    resolve path = .ok bytes ↔ isPlainPath (utf8Bytes path) ∧ utf8Bytes path = bytes := by
  rw [resolve]
  split <;> simp [*]

lemma splitAbsolute_eq_ok {directory : Bytes} : splitAbsolute path = .ok (directory, name) ↔
      isPlainPath path ∧ parent path = some directory ∧ fileName path = some name := by
  rw [splitAbsolute]
  cases hplain : isPlainPath path
  · simp
  · cases hparent : parent path
    · simp
    · cases hname : fileName path <;> simp

lemma seen_openComponents (opened rest : List Bytes) : Seen Calm SameDirectories (openComponents opened rest) := by
  induction rest generalizing opened with
  | nil => exact seen_pure
  | cons component rest ih =>
    refine .bind seen_fromExcept fun component => Seen.bind ?_ fun stat => ?_
    · apply seen_query
      intro c w stat hf c' w' hc hE
      split at hf
      next hstat =>
        rw [hc, ← hE, hstat]
        exact hf
      · cases hf
    · exact .bind (seen_system _) fun _ => Seen.bind seen_fromExcept fun _ => ih _

lemma reads_openComponents (opened rest : List Bytes) :
    Reads (fun _ directory => directory = opened ++ rest) (openComponents opened rest) := by
  induction rest generalizing opened with
  | nil => exact reads_pure fun _ => (List.append_nil opened).symm
  | cons component rest ih =>
    refine .bind reads_fromExcept fun name => ?_
    refine .andThen (reads_query fun _ _ _ _ => trivial) fun stat => ?_
    refine .andThen reads_system fun _ => Reads.andThen reads_fromExcept fun _ => ?_
    refine (ih _).weaken fun _ directory hdirectory hname => ?_
    obtain ⟨-, rfl⟩ := cstring_eq_ok.mp hname
    rw [hdirectory, List.append_assoc, List.singleton_append]

lemma seen_openDirectoryPathBound : Seen Calm SameDirectories (openDirectoryPathBound path) :=
  Seen.bind seen_fromExcept fun _ => Seen.bind (seen_system _) fun _ => seen_openComponents _ _

lemma reads_openDirectoryPathBound :
    Reads (fun _ directory => directory = normals path) (openDirectoryPathBound path) :=
  Reads.andThen reads_fromExcept fun _ => Reads.andThen reads_system fun _ =>
    reads_openComponents [] (normals path)

lemma seen_fstatDirectory : Seen Calm SameDirectories (fstatDirectory directory) := by
  apply seen_query
  intro c w stat hf c' w' hc hE
  split at hf
  next hstat =>
    rw [hc, ← hE, hstat]
    exact hf
  · cases hf

lemma openDirectoryPathBound_congr {other : Bytes} (hpath : isAbsolute path) (hother : isAbsolute other)
    (h : samePath path other) : openDirectoryPathBound path = openDirectoryPathBound other := by
  have hplain : isPlainPath path = isPlainPath other := by
    rw [isPlainPath, isPlainPath, hpath, hother, beq_iff_eq.mp h]
  rw [openDirectoryPathBound, openDirectoryPathBound, hplain, normals, normals, beq_iff_eq.mp h]

lemma seen_validateDirectoryIdentity : Seen Calm SameDirectories (validateDirectoryIdentity directory expected) :=
  Seen.bind seen_fstatDirectory fun _ => seen_fromExcept

lemma reads_validateDirectoryIdentity :
    Reads (fun w _ => ∃ stat, ∀ z, SameDirectories w z → Sure Calm (fstatDirectory directory) z stat)
      (validateDirectoryIdentity directory expected) :=
  Reads.bind seen_fstatDirectory fun stat => reads_fromExcept.weaken fun _ _ _ hstat => ⟨stat, hstat⟩

lemma seen_validateAbsoluteParentIdentity {held : List Bytes} :
    Seen Calm SameDirectories (validateAbsoluteParentIdentity path held expected) :=
  Seen.bind seen_validateDirectoryIdentity fun _ => Seen.bind seen_openDirectoryPathBound fun _ =>
    seen_adapt seen_validateDirectoryIdentity

variable {path : Path}

lemma reads_fstatatNofollow : Reads (fun w node => node = w.files.lookup path) (fstatatNofollow path) := by
  apply reads_query
  intro c w node hf
  split at hf
  · cases hf
  · cases hf
    rfl

lemma sure_fstatatNofollow : Sure Calm (fstatatNofollow path) w (w.files.lookup path) := by
  apply sure_query
  intro c hc
  rw [hc]
  rfl

def Observable (w : World) (path : Path) (maximum : ℕ) : Prop :=
  ∀ node, w.files.lookup path = some node → node.kind = .regularFile ∧ node.nlink = 1 ∧ node.bytes.length ≤ maximum

section

variable {path : Path} {maximum : ℕ} {parent : DirectoryIdentityV1}

lemma reads_observeAtomicAt : Reads
    (fun w file => file = (w.files.lookup path).map (observed · parent) ∧ Observable w path maximum)
    (observeAtomicAt path maximum parent) := by
  refine .bind reads_fstatatNofollow fun entry => ?_
  cases entry with
  | none =>
    refine reads_pure fun w hnone => ⟨?_, fun node hnode => ?_⟩
    · rw [← hnone, Option.map_none]
    · rw [← hnone] at hnode
      cases hnode
  | some entry =>
    refine .bind reads_fromExcept fun _ => Reads.andThen reads_system fun _ => ?_
    refine .andThen reads_system fun _ => Reads.andThen reads_system fun _ => ?_
    refine .andThen reads_system fun _ => reads_pure fun w hrequire hentry => ⟨?_, fun node hnode => ?_⟩
    · rw [← hentry, Option.map_some]
    · rw [← hentry] at hnode
      cases hnode
      exact require_eq_ok.mp hrequire

lemma sure_observeAtomicAt (h : Observable w path maximum) :
    Sure Calm (observeAtomicAt path maximum parent) w ((w.files.lookup path).map (observed · parent)) := by
  refine .bind sure_fstatatNofollow ?_
  cases hentry : w.files.lookup path with
  | none => exact sure_pure
  | some entry =>
    refine .bind (sure_fromExcept (require_eq_ok.mpr (h entry hentry))) (Sure.bind sure_system ?_)
    exact .bind sure_system (Sure.bind sure_system (Sure.bind sure_system sure_pure))

end

def located (path : String) : Path :=
  ⟨normals ((parent (utf8Bytes path)).getD []), (fileName (utf8Bytes path)).getD []⟩

variable {x y : World}

def Unlinks (path : Path) (x y : World) : Prop :=
  ∃ node, x.files.lookup path = some node ∧
    y = { x with files := x.files.erase path, unlinked := x.unlinked ++ [(path, node)] }

lemma Unlinks.spec (h : Unlinks path x y) :
    y.files.lookup path = none ∧ (∀ other, other ≠ path → y.files.lookup other = x.files.lookup other) ∧
      SameDirectories x y := by
  obtain ⟨node, -, rfl⟩ := h
  exact ⟨AList.lookup_erase _ _, fun _ hne => AList.lookup_erase_ne hne, rfl⟩

lemma triple_unlinkat {inv : World → Prop} {guar : World → World → Prop} [Std.Refl guar]
    (h : ∀ y, Unlinks path x y → guar x y ∧ inv y) :
    Triple inv guar (· = x) (unlinkat e path) fun _ y => Unlinks path x y := by
  apply triple_action
  rintro c y hi rfl
  split
  next node _ hnode =>
    split
    · refine ⟨refl y, hi, fun a ha => ?_⟩
      cases ha
    · have hunlinks : Unlinks path y _ := ⟨node, hnode, rfl⟩
      exact ⟨(h _ hunlinks).1, (h _ hunlinks).2, fun _ _ => hunlinks⟩
  · refine ⟨refl y, hi, fun a ha => ?_⟩
    cases ha

lemma total_unlinkat {Q : Except SecurityError Unit → World → Prop} {node : Node}
    (hnode : w.files.lookup path = some node) (hkind : node.kind = .regularFile)
    (hq : ∀ y, Unlinks path w y → Q (.ok ()) y) : Total Calm Q (unlinkat e path).run w := by
  have hfile : node.kind ≠ .directory := by
    rw [hkind]
    decide
  apply total_action
  intro c hc
  rw [hc, hnode]
  simp only [if_neg hfile]
  exact hq _ ⟨node, hnode, rfl⟩

def Stopped {α : Type} (p : Op α) (x y : World) : Prop := ∃ q, Prog.Steps (fun _ => True) p.run x q y

def Returns {α : Type} (p : Op α) (x : World) (r : Except SecurityError α) (Q : World → Prop) : Prop :=
  ∀ choices : ℕ → Choice, (∀ i, Calm (choices i)) →
    ∃ n y, p.run.run ((List.range n).map choices) x = some (r, y) ∧ Q y

lemma returns_of_total {p : Op α} {r : Except SecurityError α} {Q : World → Prop}
    (h : Total Calm (fun r' y => r' = r ∧ Q y) p.run x) : Returns p x r Q := by
  intro choices hchoices
  obtain ⟨n, r', y, hrun, rfl, hy⟩ := h.ends hchoices
  exact ⟨n, y, hrun, hy⟩

lemma Returns.unique {p : Op α} {r r' : Except SecurityError α} {Q Q' : World → Prop} (h : Returns p x r Q)
    (h' : Returns p x r' Q') : r = r' := by
  obtain ⟨n, y, hn, -⟩ := h (fun _ => {}) fun _ => rfl
  obtain ⟨m, z, hm, -⟩ := h' (fun _ => {}) fun _ => rfl
  rw [List.map_const', List.length_range] at hn hm
  have hlonger : p.run.run (List.replicate n ({} : Choice) ++ List.replicate m ({} : Choice)) x = some (r, y) :=
    Prog.run_append hn
  rw [List.replicate_append_replicate, Nat.add_comm, ← List.replicate_append_replicate,
    Prog.run_append hm] at hlonger
  exact (congrArg Prod.fst (Option.some.inj hlonger)).symm

end Howy.Security
