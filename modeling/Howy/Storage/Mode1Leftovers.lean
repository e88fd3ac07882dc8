import Howy.Storage.Mode1Faults
import Howy.Storage.Mode1ScanSpec

namespace Howy.Storage.Mode1

open Library Function Howyenc1Exact Mode1Faults

variable (backend : Mode1StorageBackend) {node : Option FileNode} {file : FileNode}

def Benign (w : View) (name : Name) : Prop := ¬ Lethal backend w name ∧ ¬ Junk w name

def Blameless (w₀ w : View) : Prop := ∀ name, w name = w₀ name ∨ Benign backend w name

def NoStaged (u : CanonicalUsername) (w : View) : Prop :=
  ∀ name, parseTransactionArtifact name stagedMarker = some u → w name = none

section

variable {backend} {w₀ b w : View} {name : Name} {owner : ℕ} {contents : Bytes} {u : CanonicalUsername}

lemma benign_of_none (h : w name = none) : Benign backend w name := by
  constructor
  · rintro ⟨node, hnode, -⟩
    rw [h] at hnode
    cases hnode
  · rintro ⟨node, hnode, -⟩
    rw [h] at hnode
    cases hnode

lemma benign_of_class {node : FileNode} {c : NamespaceEntryClassification} (hnode : w name = some node)
    (hclass : entryClass name node = c) (hc : c = .temporary ∨ ∃ u, c = .authoritative u) :
    Benign backend w name := by
  constructor
  · rintro ⟨node', hnode', h⟩
    rw [hnode, Option.some.injEq] at hnode'
    subst hnode'
    rw [hclass] at h
    rcases hc with rfl | ⟨u, rfl⟩ <;> simp at h
  · rintro ⟨node', hnode', h⟩
    rw [hnode, Option.some.injEq] at hnode'
    subst hnode'
    rw [hclass] at h
    rcases hc with rfl | ⟨u, rfl⟩ <;> simp at h

lemma benign_congr (hname : w name = b name)
    (hactive : ∀ u, parseTransactionArtifact name stagedMarker = some u → w (filename u) = b (filename u))
    (h : Benign backend b name) : Benign backend w name := by
  constructor
  · rintro ⟨node, hnode, hbad⟩
    refine h.1 ⟨node, hname ▸ hnode, ?_⟩
    rcases hbad with hbad | hbad | ⟨hclass, u, hu, hpre⟩
    · exact .inl hbad
    · exact .inr (.inl hbad)
    · refine .inr (.inr ⟨hclass, u, hu, fun hp => hpre ?_⟩)
      rwa [PreExchange, hname, hactive u hu]
  · rintro ⟨node, hnode, hbad⟩
    exact h.2 ⟨node, hname ▸ hnode, hbad⟩

lemma entryClass_recordNode (h : Ascii name) : entryClass name (recordNode owner contents) = classifyName name :=
  classifyEntry_of_ascii h

def IsOwnNode (owner : ℕ) (node : Option FileNode) : Prop :=
  node = none ∨ ∃ contents, node = some (recordNode owner contents)

section

variable (h : Blameless backend w₀ b)

include h

lemma blameless_active (hs : NoStaged u b)
    (hnode : IsOwnNode owner node) : Blameless backend w₀ (update b (filename u) node) := by
  intro name
  by_cases hname : name = filename u
  · subst hname
    right
    rcases hnode with rfl | ⟨contents, rfl⟩
    · exact benign_of_none (update_self _ _ _)
    · refine benign_of_class (update_self _ _ _) (entryClass_recordNode (ascii_filename u)) (.inr ⟨u, ?_⟩)
      exact classifyName_eq_authoritative.mpr rfl
  · have hsame : update b (filename u) node name = b name := update_of_ne hname _ _
    rw [hsame]
    rcases h name with h | h
    · exact .inl h
    right
    by_cases hparse : parseTransactionArtifact name stagedMarker = some u
    · exact benign_of_none (hsame.trans (hs name hparse))
    · refine benign_congr hsame (fun v hv => update_of_ne (fun he => hparse ?_) _ _) h
      rw [hv, filename_injective he]

lemma blameless_update (hn : ∀ v, name ≠ filename v)
    (hb : Benign backend (update b name node) name) : Blameless backend w₀ (update b name node) := by
  intro x
  by_cases hx : x = name
  · exact .inr (hx ▸ hb)
  · rw [update_of_ne hx]
    exact (h x).imp_right (benign_congr (update_of_ne hx _ _) fun v _ => update_of_ne (hn v).symm _ _)

lemma blameless_unlink (hn : ∀ v, name ≠ filename v) :
    Blameless backend w₀ (update b name none) := blameless_update h hn (benign_of_none (update_self _ _ _))

lemma blameless_temporary {node : FileNode} (hclass : entryClass name node = .temporary)
    (hn : ∀ v, name ≠ filename v) : Blameless backend w₀ (update b name (some node)) :=
  blameless_update h hn (benign_of_class (update_self _ _ _) hclass (.inl rfl))

end

lemma noStaged_unlink (h : NoStaged u b) : NoStaged u (update b name none) := by
  intro x hx
  rw [update_apply]
  split
  · rfl
  · exact h x hx

end

variable {after : Option EnrollmentRecord}

section

variable {backend} {node : Option FileNode} {m : Mutation} {record : EnrollmentRecord} {encoded : Bytes}

lemma isRecordFile_recordNode : isRecordFile backend.expectedOwner (recordNode backend.expectedOwner encoded) := by
  simp [isRecordFile, recordNode]

lemma inspectNode_written (hc : Commits backend node m (some record)) (hs : Seals backend record encoded) :
    ∃ nonce, inspectNode backend (username m) (some (recordNode backend.expectedOwner encoded)) =
      .ok (some (inspectedRecord (recordNode backend.expectedOwner encoded)
        (headerOf record .aeadCached backend.keyEpoch nonce))) := by
  obtain ⟨nonce, hi⟩ := inspects_sealed backend (hc.fits record rfl) hs isRecordFile_recordNode rfl
  rw [hc.applies.named rfl] at hi
  exact ⟨nonce, (inspectNode_eq_ok backend).mpr (.inr ⟨_, _, rfl, hi, rfl⟩)⟩

lemma inspectNode_replaced (hc : Commits backend (some file) m after) :
    ∃ before nonce, recordIn backend (username m) file = some before ∧
      inspectNode backend (username m) (some file) =
        .ok (some (inspectedRecord file (headerOf before .aeadCached backend.keyEpoch nonce))) := by
  obtain ⟨header, before, hi, hr⟩ := hc.readable file rfl
  obtain ⟨nonce, rfl⟩ := header_eq backend hi hr
  exact ⟨before, nonce, hr, (inspectNode_eq_ok backend).mpr (.inr ⟨_, _, rfl, hi, rfl⟩)⟩

lemma generation_written {before : EnrollmentRecord} (hc : Commits backend (some file) m (some record))
    (hbefore : recordIn backend (username m) file = some before) :
    record.generation.toNat = before.generation.toNat + 1 := by
  have happlies := hc.applies
  rw [foundIn, Option.bind_some, hbefore] at happlies
  cases happlies with
  | append _ _ _ generation | remove _ _ _ _ _ generation => exact generation

lemma checkedNextGeneration_of_toNat {g g' : UInt64} (h : g'.toNat = g.toNat + 1) :
    checkedNextGeneration g = .ok g' := by
  have hlt := h ▸ g'.toNat_lt
  rw [checkedNextGeneration, if_pos hlt, Except.ok.injEq, ← UInt64.toNat_inj, h]
  exact Nat.mod_eq_of_lt hlt

end

section

variable {backend} {w₀ b w : View} {m : Mutation}

lemma benign_prepared {record : EnrollmentRecord} {encoded suffix : Bytes} {staged : Name}
    (hex : (b (filename (username m))).isSome) (hc : Commits backend (b (filename (username m))) m (some record))
    (hs : Seals backend record encoded) (hsuffix : IsSuffix32 suffix)
    (hstaged : staged = artifactName stagedMarker (username m) suffix) :
    Benign backend (update b staged (some (recordNode backend.expectedOwner encoded))) staged := by
  obtain ⟨file, hfile⟩ := Option.isSome_iff_exists.mp hex
  rw [hfile] at hc
  obtain ⟨before, nonce, hbefore, hactive⟩ := inspectNode_replaced hc
  obtain ⟨nonce', hwritten⟩ := inspectNode_written hc hs
  have hne : filename (username m) ≠ staged :=
    hstaged ▸ ((endsIn_artifactName .staged (username m) hsuffix).ne_filename _).symm
  have hclass : entryClass staged (recordNode backend.expectedOwner encoded) = .staged := by
    rw [entryClass_recordNode (hstaged ▸ ascii_artifactName .staged _ hsuffix), hstaged]
    exact classifyName_artifactName .staged _ hsuffix
  have hparse : parseTransactionArtifact staged stagedMarker = some (username m) :=
    hstaged ▸ parse_artifactName hsuffix
  have hpre : PreExchange backend (update b staged (some (recordNode backend.expectedOwner encoded))) staged
      (username m) := by
    rw [PreExchange, update_self, update_of_ne hne, hfile]
    exact ⟨_, _, hwritten, hactive, checkedNextGeneration_of_toNat (generation_written hc hbefore)⟩
  constructor
  · rintro ⟨node, hnode, hbad⟩
    rw [update_self, Option.some.injEq] at hnode
    subst hnode
    rw [hclass] at hbad
    rcases hbad with hbad | hbad | ⟨-, u, hu, hnot⟩
    · cases hbad
    · cases hbad
    · rw [hparse, Option.some.injEq] at hu
      exact hnot (hu ▸ hpre)
  · rintro ⟨node, hnode, hbad⟩
    rw [update_self, Option.some.injEq] at hnode
    subst hnode
    rw [hclass] at hbad
    simp at hbad

lemma blameless_committed (h : Blameless backend w₀ b)
    (hs : NoStaged (username m) b) (hd : Committed backend m b after w) : Blameless backend w₀ w := by
  cases hd with
  | replaced _ _ hr =>
    obtain ⟨random, staged, rollback, hn, rfl⟩ := hr
    have hrest := blameless_unlink h fun v => hn.staged_ne_filename
    exact blameless_active hrest (noStaged_unlink hs) (.inr ⟨_, rfl⟩)
  | created _ _ => exact blameless_active h hs (.inr ⟨_, rfl⟩)
  | cleared => exact blameless_active h hs (.inl rfl : IsOwnNode 0 none)

lemma committed_records (hc : Commits backend (b (filename (username m))) m after)
    (hd : Committed backend m b after w) {u : CanonicalUsername} :
    w (filename u) = b (filename u) ∨ ∃ i, inspectNode backend u (w (filename u)) = .ok i := by
  by_cases hu : u = username m
  · subst hu
    right
    cases hd with
    | replaced _ hs hr =>
      obtain ⟨random, staged, rollback, -, rfl⟩ := hr
      obtain ⟨nonce, hi⟩ := inspectNode_written hc hs
      rw [update_self]
      exact ⟨_, hi⟩
    | created _ hs =>
      obtain ⟨nonce, hi⟩ := inspectNode_written hc hs
      rw [update_self]
      exact ⟨_, hi⟩
    | cleared =>
      rw [update_self]
      exact ⟨none, rfl⟩
  · have hne : filename u ≠ filename (username m) := fun h => hu (filename_injective h)
    left
    cases hd with
    | replaced _ _ hr =>
      obtain ⟨random, staged, rollback, hn, rfl⟩ := hr
      rw [update_of_ne hne, update_of_ne hn.staged_ne_filename.symm]
    | created | cleared => exact update_of_ne hne _ _

def Writes (m : Mutation) : Prop := ∀ request, m ≠ .clear request

lemma blameless_abandoned (h : Blameless backend w₀ b) (hfree : Writes m → MarkerFree (username m))
    (hd : Abandoned backend m b w) : Blameless backend w₀ w := by
  have htemporary (random : FixedArray UInt8 16) (contents : Bytes) : Blameless backend w₀
      (update b (temporaryName (username m) random) (some (recordNode backend.expectedOwner contents))) := by
    have hsuffix := hexLower_isSuffix32 random
    refine blameless_temporary h ?_ fun v => temporaryName_ne_filename
    exact (entryClass_recordNode (ascii_artifactName .tmp _ hsuffix)).trans
      (classifyName_artifactName .tmp _ hsuffix)
  cases hd with
  | idle => exact h
  | notReplaced hex hc hs hw =>
    rcases hw with rfl | ⟨random, staged, rollback, -, hn, hw⟩
    · exact h
    have hunlinked := blameless_unlink h fun v => hn.staged_ne_filename
    cases hw with
    | start => exact h
    | written contents => exact htemporary random contents
    | prepared =>
      rcases hn.staged_cases with ⟨-, suffix, hsuffix, hstaged⟩ | ⟨hnot, -⟩
      · exact blameless_update h (fun v => hn.staged_ne_filename) (benign_prepared hex hc hs hsuffix hstaged)
      · refine absurd (hfree ?_) hnot
        rintro request rfl
        cases hc.applies
    | aborted => exact hunlinked
    | restored => exact blameless_unlink hunlinked fun v => hn.rollback_ne_filename
  | notCreated _ hw =>
    rcases hw with rfl | ⟨random, rollback, -, hn, hw⟩
    · exact h
    cases hw with
    | start => exact h
    | written contents => exact htemporary random contents
    | restored => exact blameless_unlink h fun v => hn.rollback_ne_filename

end

structure Kept (w₀ w : View) : Prop where
  blameless : Blameless backend w₀ w
  records : ∀ u, w (filename u) = w₀ (filename u) ∨ ∃ i, inspectNode backend u (w (filename u)) = .ok i

lemma Kept.refl (w : View) : Kept backend w w := ⟨fun _ => .inl rfl, fun _ => .inl rfl⟩

variable {backend} in
lemma kept_call {w₀ : View} {n : ℕ} {call : Call} {m : Mutation} {choices : List Choice} {s s' : Shared Directory}
    {r : BackendResult Answer} (h : Kept backend w₀ (view s.disk)) (hm : call.mutation = some m)
    (hrun : (Call.op backend (files backend) n call).run.run choices s = some (r, s'))
    (hserving : s'.poisoned = false)
    (hfree : Writes m → MarkerFree (username m)) (hstaged : r.isOk → NoStaged (username m) (view s.disk)) :
    Kept backend w₀ (view s'.disk) := by
  have hidle : CallView backend m (view s.disk) (view s.disk) := .idle
  obtain ⟨hend, -⟩ := post_of_run (safe_call backend hm) hidle (fun _ _ => trivial) hrun
  cases r with
  | ok answer =>
    obtain ⟨-, after, hc, hd⟩ := hend
    refine ⟨blameless_committed h.blameless (hstaged rfl) hd, fun u => ?_⟩
    rcases committed_records hc hd with hu | hu
    · exact hu ▸ h.records u
    · exact .inr hu
  | error e =>
    rcases hend with ⟨hp, -⟩ | ⟨-, -, hd⟩
    · rw [hserving] at hp
      cases hp
    · exact ⟨blameless_abandoned h.blameless hfree hd, fun u => abandoned_active hd ▸ h.records u⟩

lemma markerFree_alice : MarkerFree alice := by decide +kernel

def freshSuffix : Choice where
  suffix := some (.filled 16 1)

def repeatedAppend (s : Shared Directory) : Option (BackendResult Answer × Shared Directory) :=
  (Call.op copyBackend (files copyBackend) 2 (.append (aliceRequest 2 1))).run.run
    (List.replicate 90 freshSuffix) s

end Howy.Storage.Mode1
