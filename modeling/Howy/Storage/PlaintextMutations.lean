import Howy.Storage.PlaintextReading

namespace Howy.Storage.PlaintextMutations

open Library Plaintext PlaintextFiles PlaintextReading
open Mode1 (tmpMarker)

section

variable (u : CanonicalUsername) (random : FixedArray UInt8 16)

lemma binName_ne_jsonName : binName u ≠ jsonName u := by
  intro h
  exact absurd (List.append_cancel_left h) (by decide)

lemma length_lt_temporaryName : (binName u).length < (temporaryName u random).length ∧
      (jsonName u).length < (temporaryName u random).length := by
  have hj : (utf8Bytes ".json").length = 5 := by decide
  have ht : tmpMarker.length = 5 := by decide
  simp only [temporaryName, binName, jsonName, List.length_cons, List.length_append]
  omega

lemma binName_ne_temporaryName : binName u ≠ temporaryName u random :=
  fun h => absurd (congrArg List.length h) (length_lt_temporaryName u random).1.ne

lemma jsonName_ne_temporaryName : jsonName u ≠ temporaryName u random :=
  fun h => absurd (congrArg List.length h) (length_lt_temporaryName u random).2.ne

end

def foundOf : BackendResult DecodedPlaintextRecord → Option Found
  | .ok loaded => some ⟨loaded.record, loaded.format = .legacy⟩
  | .error _ => none

inductive Intends (backend : PlaintextStorageBackend) (before : BackendResult DecodedPlaintextRecord) :
    Mutation → Option EnrollmentRecord → Prop where
  | first {request : AppendRequest} {record : EnrollmentRecord} {model : Storage.AuthModel}
      (absent : before = .error .absent) (prepared : prepareAppend backend request none = .ok (record, model)) :
      Intends backend before (.append request) (some record)
  | append {request : AppendRequest} {loaded : DecodedPlaintextRecord} {record : EnrollmentRecord}
      {model : Storage.AuthModel} (present : before = .ok loaded)
      (prepared : prepareAppend backend request (some loaded) = .ok (record, model)) :
      Intends backend before (.append request) (some record)
  | remove {request : RemoveRequest} {loaded : DecodedPlaintextRecord} {record : EnrollmentRecord}
      {model : Option Storage.AuthModel} (present : before = .ok loaded)
      (expected : loaded.record.generation = request.expectedGeneration)
      (prepared : prepareRemove backend request loaded = .ok (record, model)) :
      Intends backend before (.remove request) (some record)
  | clear {request : ClearRequest} {loaded : DecodedPlaintextRecord} (present : before = .ok loaded)
      (expected : loaded.record.generation = request.expectedGeneration) : Intends backend before
      (.clear request) none

variable {backend : PlaintextStorageBackend} {before : BackendResult DecodedPlaintextRecord}
  {m : Mutation} {record : EnrollmentRecord} {loaded : DecodedPlaintextRecord} {n : ℕ} {request : AppendRequest}
  {e : StorageBackendError} {u : CanonicalUsername} {f : Inode → Inode} {present : Bool} {Φ : Prop}

lemma nextMutationGeneration_toNat {g : UInt64}
    (h : nextMutationGeneration loaded = .ok g) : g.toNat = nextGeneration (foundOf (.ok loaded)) := by
  simp only [nextMutationGeneration, foundOf] at *
  cases hf : loaded.format with
  | legacy =>
    rw [hf] at h
    cases h
    rfl
  | howypln1 =>
    rw [hf, mapError_eq_ok] at h
    exact (checkedNextGeneration_eq_ok h).1

lemma prepareAppend_eq_ok {loaded : Option DecodedPlaintextRecord}
    {model : Storage.AuthModel} (h : prepareAppend backend request loaded = .ok (record, model)) :
    record.recognizerModelSha256 = backend.recognizerModel ∧
      Applies (loaded.elim none fun l => foundOf (.ok l)) (.append request) (some record) := by
  simp only [prepareAppend, bind_eq_ok, failIf_eq_ok, not_not, mapError_eq_ok, pure_eq_ok, Prod.mk.injEq,
    EnrollmentRecord.new_eq_ok] at h
  obtain ⟨_, hexpected, _, -, _, -, generation, hgeneration, _, ⟨hg, hm, hu, he⟩, _, -, rfl, -⟩ := h
  cases loaded with
  | none =>
    cases hgeneration
    exact ⟨hm, .append hexpected.symm hu he (by rw [hg]; rfl)⟩
  | some l => exact ⟨hm, .append hexpected.symm hu he (by rw [hg]; exact nextMutationGeneration_toNat hgeneration)⟩

lemma prepareRemove_eq_ok {request : RemoveRequest}
    {model : Option Storage.AuthModel} (h : prepareRemove backend request loaded = .ok (record, model))
    (hexpected : loaded.record.generation = request.expectedGeneration) :
    record.recognizerModelSha256 = backend.recognizerModel ∧
      Applies (foundOf (.ok loaded)) (.remove request) (some record) := by
  simp only [prepareRemove, bind_eq_ok, mapError_eq_ok, pure_eq_ok, EnrollmentRecord.new_eq_ok] at h
  obtain ⟨index, hindex, generation, hgeneration, _, ⟨hg, hm, hu, he⟩, _, -, rfl, -⟩ := h
  cases hfind : loaded.record.entries.findIdx? (·.enrollmentId = request.enrollmentId) with
  | none =>
    rw [hfind] at hindex
    cases hindex
  | some i =>
    rw [hfind] at hindex
    cases hindex
    obtain ⟨hmem, hfilter⟩ := eraseIdx_eq_filter loaded.record.nodup_ids hfind
    exact ⟨hm, .remove rfl hexpected.symm hu hmem (he.trans hfilter)
      (by rw [hg]; exact nextMutationGeneration_toNat hgeneration)⟩

lemma Intends.applies {after : Option EnrollmentRecord} (h : Intends backend before m after) :
    Applies (foundOf before) m after := by
  cases h with
  | first absent prepared =>
    subst absent
    exact (prepareAppend_eq_ok prepared).2
  | append present prepared =>
    subst present
    exact (prepareAppend_eq_ok prepared).2
  | remove present expected prepared =>
    subst present
    exact (prepareRemove_eq_ok prepared expected).2
  | clear present expected =>
    subst present
    exact .clear rfl expected.symm

lemma Intends.model (h : Intends backend before m (some record)) :
    record.recognizerModelSha256 = backend.recognizerModel := by
  cases h with
  | first absent prepared | append present prepared => exact (prepareAppend_eq_ok prepared).1
  | remove present expected prepared => exact (prepareRemove_eq_ok prepared expected).1

section

variable {I : Disk → Prop} {G : Disk → Disk → Prop} {P Q : Disk → Prop} {α β : Type} {e : StorageBackendError}

def DiskTriple (I : Disk → Prop) (G : Disk → Disk → Prop) (P : Disk → Prop) (p : Op Disk α)
    (Q : α → Disk → Prop) : Prop :=
  Triple (fun s : Shared Disk => I s.disk) (fun s s' => G s.disk s'.disk) (fun s => P s.disk) p
    fun a s => Q a s.disk

variable {I' P' : Disk → Prop} {Q Q' : α → Disk → Prop} {R : β → Disk → Prop} {p : Op Disk α} {k : α → Op Disk β}

lemma DiskTriple.bind (hp : DiskTriple I G P p Q) (hk : ∀ a, DiskTriple I G (Q a) (k a) R) :
    DiskTriple I G P (p >>= k) R := Triple.bind hp hk

lemma DiskTriple.conseq (h : DiskTriple I G P p Q) (hP : ∀ d, P' d → P d) (hQ : ∀ a d, Q a d → Q' a d) :
    DiskTriple I G P' p Q' := Triple.conseq h (fun _ _ hp => hP _ hp) fun _ _ _ hq => hQ _ _ hq

lemma diskTriple_pure {a : α} (h : ∀ d, P d → Q a d) : DiskTriple I G P (pure a : Op Disk α) Q :=
  triple_pure fun _ _ hs => h _ hs

lemma diskTriple_throw : DiskTriple I G P (throw e : Op Disk α) Q := triple_throw

lemma DiskTriple.pre (h : DiskTriple I G P p Q) (hP : ∀ d, P' d → P d) : DiskTriple I G P' p Q :=
  h.conseq hP fun _ _ hq => hq

lemma diskTriple_id {a : α} : DiskTriple I G P (pure a : Op Disk α) fun _ => P := diskTriple_pure fun _ hd => hd

lemma DiskTriple.map {R : Disk → Prop} (h : DiskTriple I G P p fun _ => R) (f : α → β) :
    DiskTriple I G P (f <$> p) fun _ => R := h.bind fun _ => diskTriple_id

lemma triple_fromExcept {x : BackendResult α} : DiskTriple I G P (fromExcept x) fun a d => P d ∧ x = .ok a := by
  cases x with
  | ok a => exact diskTriple_pure fun d hd => ⟨hd, rfl⟩
  | error e => exact diskTriple_throw

lemma DiskTriple.captured (h : DiskTriple I G P p Q) :
    DiskTriple I G P (captured p) fun r d => ∀ a, r = .ok a → Q a d :=
  triple_lift (R := fun r (s : Shared Disk) => ∀ a, r = .ok a → Q a s.disk)
    (Triple.post h fun a s _ hq a' ha => by cases ha; exact hq) fun e s _ a ha => by cases ha

lemma DiskTriple.weaken_inv (h : DiskTriple I G P p Q) (hI : ∀ d, I d → I' d) (hP : ∀ d, P d → I d) :
    DiskTriple I' G P p fun a d => Q a d ∧ I d := Triple.weaken_inv h (fun _ hi => hI _ hi) fun _ hs => hP _ hs

lemma diskTriple_intro (h : ∀ d, P d → DiskTriple I G P p Q) : DiskTriple I G P p Q :=
  fun s hi hs => h s.disk hs s hi hs

def Quiet (p : Op Disk α) : Prop :=
  Within (fun _ => True) (fun s s' : Shared Disk => s'.disk = s.disk) (fun _ => True) (fun _ => True) p.run

lemma quiet_pure {a : α} : Quiet (pure a : Op Disk α) := trivial

lemma quiet_throw : Quiet (throw e : Op Disk α) := trivial

lemma Quiet.bind (hp : Quiet p) (hk : ∀ a, Quiet (k a)) : Quiet (p >>= k) := by
  apply within_bind
  apply Within.weaken hp
  intro r _
  cases r with
  | ok a => exact hk a
  | error e => trivial

lemma quiet_action {f : Choice → Shared Disk → BackendResult α × Shared Disk}
    (h : ∀ c s, (f c s).2.disk = s.disk) : Quiet (action f : Op Disk α) :=
  within_action fun c s _ _ => ⟨h c s, trivial, trivial⟩

lemma Quiet.captured (h : Quiet p) : Quiet (captured p) := within_bind (Within.weaken h fun _ _ => trivial)

variable [Std.Refl G]

lemma Quiet.triple (h : Quiet p) : DiskTriple I G P p fun _ => P := by
  intro s hi hs
  refine Within.safe (Within.keeping h (I := fun t => t.disk = s.disk) ?_) (fun _ _ => trivial) ?_ ?_ ?_
    ⟨trivial, rfl⟩ hi
  · rintro t t' - ht hd
    exact ht.trans hd
  · rintro t t' ⟨-, hd⟩ hi ht
    change G t.disk t'.disk ∧ I t'.disk
    rw [ht]
    exact ⟨refl _, hi⟩
  · rintro t _ ht rfl -
    exact ht
  · rintro r t - ⟨-, hd⟩ -
    cases r with
    | ok a =>
      change P t.disk
      rw [hd]
      exact hs
    | error e => trivial

lemma triple_onDisk {R : Disk → Prop} {operation : IoOperation} {f : Disk → Except IoKind Disk}
    (h : ∀ d d', I d → P d → f d = .ok d' → G d d' ∧ I d' ∧ R d') :
    DiskTriple I G P (onDisk operation f) fun _ => R := by
  apply triple_action
  intro c s hi hs
  cases c.fault with
  | some fault => exact ⟨refl _, hi, fun a ha => by cases ha⟩
  | none =>
    cases hf : f s.disk with
    | error kind => exact ⟨refl _, hi, fun a ha => by cases ha⟩
    | ok d =>
      obtain ⟨hg, hi', hr⟩ := h s.disk d hi hs hf
      exact ⟨hg, hi', fun _ _ => hr⟩

lemma triple_holding {R : α → Disk → Prop} {body : Op Disk α} (h : DiskTriple I G P body R) :
    DiskTriple I G P (holdingReload n false (holdingUser ⟨n, true⟩ u false body)) R := by
  have hquiet {acquire : Op Disk Unit} (h : Locks (fun _ => True) acquire) : Quiet acquire :=
    (h.relax fun _ _ hs => hs.disk).weaken fun _ _ => trivial
  refine triple_guarded (hquiet locks_lockReload).triple ?_ (fun s hi => ⟨refl _, hi⟩) fun _ _ _ hq => hq
  exact triple_guarded (hquiet locks_lockUser).triple h (fun s hi => ⟨refl _, hi⟩) fun _ _ _ hq => hq

end

abbrev Files (u : CanonicalUsername) (K L : Option Inode → Prop) (d : Disk) : Prop :=
  d.Throughout (binName u) (jsonName u) K L

abbrev Settled (u : CanonicalUsername) (b j : Option Inode) : Disk → Prop := Files u (· = b) (· = j)

def KeepsFallback (u : CanonicalUsername) (d d' : Disk) : Prop :=
  d'.now (jsonName u) = d.now (jsonName u) ∨ d'.now (jsonName u) = none

instance : Std.Refl (KeepsFallback u) := ⟨fun _ => .inl rfl⟩

section

variable {u : CanonicalUsername} {K L : Option Inode → Prop} {d d' : Disk} {name : Name}

section

variable (h : Files u K L d) (hb : binName u ≠ name) (hj : jsonName u ≠ name)

include h hb hj

lemma files_update {v : Option Inode} :
    Files u K L (d.change (Function.update · name v)) ∧
    KeepsFallback u d (d.change (Function.update · name v)) := by
  refine ⟨h.change ?_ ?_, .inl (Function.update_of_ne hj _ _)⟩
  · rw [Function.update_of_ne hb]
    exact h.now.1
  · rw [Function.update_of_ne hj]
    exact h.now.2

lemma files_modify : Files u K L (d.modify name f) ∧ KeepsFallback u d (d.modify name f) :=
  ⟨h.modify hb hj f, .inl (Function.update_of_ne hj _ _)⟩

end

lemma unlink_eq_ok (h : Disk.unlink name d = .ok d') : d' = d.change (Function.update · name none) := by
  rw [Disk.unlink] at h
  split at h
  · cases h
  · split at h
    · cases h
    · exact (Except.ok.inj h).symm

lemma create_eq_ok {owner : ℕ} (h : Disk.create owner name d = .ok d') :
    d' = d.change (Function.update · name (some ⟨⟨.regular, owner, storageRecordMode, 1, []⟩, false⟩)) := by
  rw [Disk.create] at h
  split at h
  · cases h
  · exact (Except.ok.inj h).symm

lemma rename_eq_ok {old new : Name} (h : Disk.rename old new d = .ok d') : ∃ inode, d.now old = some inode ∧
      d' = d.change fun now => Function.update (Function.update now old none) new (some inode) := by
  rw [Disk.rename] at h
  split at h
  · cases h
  next inode hold hnew =>
    exact ⟨inode, hold, (Except.ok.inj h).symm⟩
  rename_i inode target hold hnew
  split at h
  · cases h
  · exact ⟨inode, hold, (Except.ok.inj h).symm⟩

end

variable {u : CanonicalUsername} {b j : Option Inode} {N : Option Inode → Prop} {encoded : Bytes}
  {random : FixedArray UInt8 16}

def ownInode (backend : PlaintextStorageBackend) (contents : Bytes) (flushed : Bool) : Inode :=
  ⟨⟨.regular, backend.expectedOwner, storageRecordMode, 1, contents⟩, flushed⟩

def Prepared (backend : PlaintextStorageBackend) (u : CanonicalUsername) (random : FixedArray UInt8 16)
    (b j : Option Inode) (contents : Bytes) (flushed : Bool) (d : Disk) : Prop :=
  Settled u b j d ∧ d.now (temporaryName u random) = some (ownInode backend contents flushed)

abbrev Replacing (u : CanonicalUsername) (b j : Option Inode) (N : Option Inode → Prop) : Disk → Prop :=
  Files u (fun x => x = b ∨ N x) (· = j)

lemma replacing_of_rest {d : Disk} (h : Settled u b j d) : Replacing u b j N d :=
  h.weaken (fun _ hx => .inl hx) fun _ hx => hx

lemma triple_createTemp : DiskTriple (Replacing u b j N) (KeepsFallback u) (Settled u b j)
      (captured (createTemp backend (temporaryName u random)))
      fun r d => Settled u b j d ∧ (r = .ok () → Prepared backend u random b j [] false d) := by
  have hb := binName_ne_temporaryName u random
  have hj := jsonName_ne_temporaryName u random
  have hcreate : DiskTriple (Settled u b j) (KeepsFallback u) (fun _ => True)
      (createTemp backend (temporaryName u random))
      fun _ => Prepared backend u random b j [] false := by
    refine .bind (Q := fun _ => Prepared backend u random b j [] false)
      (triple_onDisk fun d d' hi _ hd => ?_)
      fun _ => triple_onDisk fun d d' hi hd he => ?_
    · obtain rfl := create_eq_ok hd
      obtain ⟨hfiles, hkeeps⟩ := files_update hi hb hj
      exact ⟨hkeeps, hfiles, hfiles, Function.update_self _ _ _⟩
    · cases he
      exact ⟨refl _, hi, hd⟩
  refine ((hcreate.captured.pre fun _ _ => trivial).weaken_inv (fun _ => replacing_of_rest)
    fun _ hd => hd).conseq (fun _ hd => hd) fun r d h => ⟨h.2, fun hr => h.1 () hr⟩

lemma Prepared.modify {contents contents' : Bytes} {flushed flushed' : Bool} {d : Disk}
    (h : Prepared backend u random b j contents flushed d)
    (hf : f (ownInode backend contents flushed) = ownInode backend contents' flushed') :
    KeepsFallback u d (d.modify (temporaryName u random) f) ∧
      Replacing u b j N (d.modify (temporaryName u random) f) ∧
      Prepared backend u random b j contents' flushed' (d.modify (temporaryName u random) f) := by
  obtain ⟨hfiles, hkeeps⟩ :=
    files_modify h.1 (binName_ne_temporaryName u random) (jsonName_ne_temporaryName u random)
  refine ⟨hkeeps, replacing_of_rest hfiles, hfiles, ?_⟩
  rw [Volume.modify]
  simp only [Function.update_self]
  rw [h.2, Option.map_some, hf]

lemma triple_publish (hN : N (some (ownInode backend encoded true))) :
    DiskTriple (Replacing u b j N) (KeepsFallback u) (Prepared backend u random b j [] false)
      (publish (temporaryName u random) (binName u) encoded)
      fun _ => Settled u (some (ownInode backend encoded true)) j := by
  have hj := jsonName_ne_temporaryName u random
  have hbj := (binName_ne_jsonName u).symm
  refine .bind (Q := fun _ d => ∃ contents, Prepared backend u random b j contents false d)
    (triple_action fun c s _ hs => ?_) fun _ => ?_
  · obtain ⟨hkeeps, hi, hd⟩ :=
      hs.modify (f := fun inode => ⟨{ inode.node with contents := encoded.take c.kept }, false⟩)
      rfl
    exact ⟨hkeeps, hi, fun _ _ => ⟨_, hd⟩⟩
  refine .bind (Q := fun _ => Prepared backend u random b j encoded false)
    (triple_onDisk fun d d' _ hs hd => ?_) fun _ => ?_
  · obtain ⟨contents, hs⟩ := hs
    cases hd
    exact hs.modify rfl
  refine .bind (Q := fun _ => Prepared backend u random b j encoded true)
    (triple_onDisk fun d d' _ hs hd => ?_) fun _ => ?_
  · cases hd
    exact hs.modify rfl
  refine .bind (Q := fun _ d => d.now (binName u) = some (ownInode backend encoded true) ∧
      d.now (jsonName u) = j) (triple_onDisk fun d d' hi hs hd => ?_) fun _ => ?_
  · obtain ⟨inode, hold, rfl⟩ := rename_eq_ok hd
    rw [hs.2, Option.some.injEq] at hold
    subst hold
    have hjson : (d.change fun now => Function.update (Function.update now (temporaryName u random) none)
        (binName u) (some (ownInode backend encoded true))).now (jsonName u) = d.now (jsonName u) := by
      rw [Volume.change]
      simp [Function.update_of_ne hbj, Function.update_of_ne hj]
    refine ⟨.inl hjson, hi.change ?_ ?_, ?_, hjson.trans hs.1.now.2⟩
    · rw [Function.update_self]
      exact .inr hN
    · rw [Function.update_of_ne hbj, Function.update_of_ne hj]
      exact hi.now.2
    · exact Function.update_self _ _ _
  · refine triple_onDisk fun d d' hi hs hd => ?_
    cases hd
    exact ⟨.inl rfl, Volume.throughout_sync hi.now.1 hi.now.2, Volume.throughout_sync hs.1 hs.2⟩

lemma triple_discarding {Q : Unit → Disk → Prop} {P : Disk → Prop} :
    DiskTriple (Replacing u b j N) (KeepsFallback u) P (discarding (temporaryName u random) e) Q := by
  refine .bind (DiskTriple.captured (Q := fun _ _ => True) (triple_onDisk ?_))
    fun _ => diskTriple_throw
  intro d d' hi _ hd
  obtain rfl := unlink_eq_ok hd
  obtain ⟨hfiles, hkeeps⟩ :=
    files_update hi (binName_ne_temporaryName u random) (jsonName_ne_temporaryName u random)
  exact ⟨hkeeps, hfiles, trivial⟩

lemma triple_install (hN : N (some (ownInode backend encoded true))) {attempts : ℕ} :
    DiskTriple (Replacing u b j N) (KeepsFallback u) (Settled u b j) (install backend u encoded attempts)
      fun _ => Settled u (some (ownInode backend encoded true)) j := by
  induction attempts with
  | zero => exact diskTriple_throw
  | succ attempts ih =>
    refine .bind (Quiet.triple (quiet_action fun _ _ => rfl)) fun suffix => ?_
    refine .bind triple_createTemp fun created => ?_
    cases created with
    | ok a =>
      refine .bind ((triple_publish hN).captured.pre fun d hd => hd.2 rfl) fun published => ?_
      cases published with
      | ok a => exact diskTriple_pure fun d hd => hd () rfl
      | error e => exact triple_discarding
    | error e =>
      split
      next h =>
        cases h
      · exact ih.pre fun d hd => hd.1
      · exact triple_discarding

variable {I P : Disk → Prop} {G : Disk → Disk → Prop} [Std.Refl G] {α : Type} {x : BackendResult α}

lemma triple_finds {F : StorageBackendError → Prop} {p : Op Disk α}
    (h : Finds (fun _ => True) (fun s => P s.disk) F x p) :
    DiskTriple I G P (captured p) fun r d => P d ∧ (r = x ∨ ∃ e, F e ∧ r = .error e) := by
  intro s hi hs
  change Safe _ _ (p.run >>= fun r => (Prog.done (Except.ok r) : Prog Choice (Shared Disk)
    (BackendResult (BackendResult α)))) s
  apply safe_bind
  refine Within.safe h (fun _ _ => trivial) ?_ ?_ ?_ hs hi
  · rintro t _ - hi rfl
    exact ⟨refl (r := G) _, hi⟩
  · rintro t _ ht rfl -
    exact ht
  · exact fun r t hr ht _ => ⟨ht, hr⟩

def loadOf (backend : PlaintextStorageBackend) (u : CanonicalUsername) (b j : Option Inode) :
    BackendResult DecodedPlaintextRecord :=
  Plaintext.loadRecord backend u (b.map (·.node)) (j.map (·.node))

lemma holds_of_files {s : Shared Disk} (h : Settled u b j s.disk) :
    Holds u (b.map (·.node)) (j.map (·.node)) s := by
  obtain ⟨hb, hj⟩ := h.now
  exact ⟨by rw [Disk.lookup, hb], by rw [Disk.lookup, hj]⟩

lemma eq_ok_of_found {a : α} {F : StorageBackendError → Prop} (h : .ok a = x ∨ ∃ e, F e ∧
    (.ok a : BackendResult α) = .error e) : x = .ok a := by
  rcases h with h | ⟨e, -, he⟩
  · exact h.symm
  · cases he

lemma triple_loadRecord :
    DiskTriple I G (Settled u b j) (captured (PlaintextFiles.loadRecord backend u))
      fun r d => Settled u b j d ∧ (r = loadOf backend u b j ∨ ∃ e, e ≠ .absent ∧ r = .error e) :=
  triple_finds (Within.restrict (finds_loadRecord backend (.inl fun _ he => he)) fun _ => holds_of_files)

lemma triple_loadOptional : DiskTriple I G (Settled u b j) (loadOptional backend u)
      fun loaded d => Settled u b j d ∧
        ((loaded = none ∧ loadOf backend u b j = .error .absent) ∨ ∃ l, loaded = some l ∧
          loadOf backend u b j = .ok l) := by
  refine .bind triple_loadRecord fun r => ?_
  cases r with
  | ok l =>
    exact diskTriple_pure fun d hd => ⟨hd.1, .inr ⟨l, rfl, eq_ok_of_found hd.2⟩⟩
  | error e =>
    split
    next h =>
      cases h
    next h =>
      cases h
      refine diskTriple_pure fun d hd => ⟨hd.1, .inl ⟨rfl, ?_⟩⟩
      rcases hd.2 with h | ⟨e, hne, he⟩
      · exact h.symm
      · cases he
        exact absurd rfl hne
    · exact diskTriple_throw

lemma triple_loadExpected {expected : UInt64} :
    DiskTriple I G (Settled u b j) (PlaintextFiles.loadExpected backend u expected)
      fun l d => Settled u b j d ∧ loadOf backend u b j = .ok l ∧ l.record.generation = expected := by
  refine .bind triple_loadRecord fun r => ?_
  cases r with
  | error e =>
    split
    · exact diskTriple_throw
    · exact diskTriple_throw
    next h =>
      cases h
  | ok l =>
    by_cases hg : l.record.generation = expected
    · simp only [refuseIf, ne_eq, hg, not_true_eq_false]
      exact diskTriple_pure fun d hd => ⟨hd.1, eq_ok_of_found hd.2, hg⟩
    · simp only [refuseIf, ne_eq, hg, not_false_eq_true]
      exact .bind (Q := fun _ _ => False) diskTriple_throw fun _ => diskTriple_pure fun _ h => h.elim

lemma triple_optionalValidRecord {name : Name} : DiskTriple I G P (optionalValidRecord backend name)
      fun present d => P d ∧ (present = false → d.now name = none) := by
  refine .bind (Q := fun r d => P d ∧ (r = .error .notFound → d.now name = none))
    (triple_action fun c s hi hs => ⟨refl _, hi, fun r hr => ⟨hs, fun hr' => ?_⟩⟩) fun r => ?_
  · subst hr'
    cases hf : c.fault with
    | some fault =>
      simp only [hf, Except.ok.injEq, Except.error.injEq] at hr
      exact absurd hr fault_kind_ne_notFound
    | none =>
      cases hl : s.disk.lookup name with
      | none => exact Option.map_eq_none_iff.mp hl
      | some file =>
        simp only [hf, hl] at hr
        split at hr <;> cases hr
  · cases r with
    | ok file =>
      refine .bind (Quiet.triple (quiet_action fun _ _ => rfl)) fun _ => ?_
      exact diskTriple_pure fun d hd => ⟨hd.1, by intro h; cases h⟩
    | error kind =>
      split
      next h =>
        cases h
      · exact diskTriple_pure fun d hd => ⟨hd.1, fun _ => hd.2 (by assumption)⟩
      · exact diskTriple_throw

variable {β : Type}

lemma Quiet.skip {p : Op Disk α} {R : β → Disk → Prop} (hp : Quiet p)
    (hk : ∀ a, DiskTriple I G P (k a) R) : DiskTriple I G P (p >>= k) R := DiskTriple.bind hp.triple hk

lemma quiet_refuseIf {p : Prop} [Decidable p] : Quiet (refuseIf p e : Op Disk Unit) := by
  rw [refuseIf]
  split
  · exact quiet_throw
  · exact quiet_pure

lemma quiet_operationPermit : Quiet (operationPermit backend) :=
  Quiet.bind (quiet_action fun _ _ => rfl) fun _ => quiet_pure

lemma quiet_cacheCommittedModel {model : Storage.AuthModel} {operation : BudgetPermit} :
    Quiet (PlaintextFiles.cacheCommittedModel backend u model operation) := by
  rw [PlaintextFiles.cacheCommittedModel]
  split
  · exact quiet_pure
  · exact .bind (Quiet.captured (quiet_action fun _ _ => rfl)) fun _ => quiet_pure

def NewRecord (backend : PlaintextStorageBackend) (before : BackendResult DecodedPlaintextRecord)
    (m : Mutation) (x : Option Inode) : Prop :=
  ∃ record encoded, Intends backend before m (some record) ∧ encodeRecord backend record = .ok encoded ∧
    x = some (ownInode backend encoded true)

def Replaced (backend : PlaintextStorageBackend) (b j : Option Inode) (m : Mutation) (d : Disk) : Prop :=
  ∃ x, NewRecord backend (loadOf backend (username m) b j) m x ∧ Settled (username m) x j d

abbrev Writing (backend : PlaintextStorageBackend) (b j : Option Inode) (m : Mutation) : Disk → Prop :=
  Replacing (username m) b j (NewRecord backend (loadOf backend (username m) b j) m)

lemma triple_writeRecord
    (h : Intends backend (loadOf backend (username m) b j) m (some record)) :
    DiskTriple (Writing backend b j m) (KeepsFallback (username m)) (Settled (username m) b j)
      (PlaintextFiles.writeRecord backend record) fun _ => Replaced backend b j m := by
  refine .bind triple_fromExcept fun encoded => ?_
  intro s hi hs
  have hN : NewRecord backend (loadOf backend (username m) b j) m (some (ownInode backend encoded true)) :=
    ⟨record, encoded, h, hs.2, rfl⟩
  rw [h.applies.named rfl]
  exact ((triple_install hN).conseq (fun _ hd => hd) fun _ d hd => ⟨_, hN, hd⟩) s hi hs.1

lemma triple_append : DiskTriple (Writing backend b j (.append request)) (KeepsFallback request.username)
      (Settled request.username b j) (PlaintextFiles.append backend n request)
      fun _ => Replaced backend b j (.append request) := by
  refine quiet_operationPermit.skip fun operation => ?_
  refine quiet_refuseIf.skip fun _ => ?_
  refine triple_holding ?_
  refine Quiet.skip (quiet_action fun _ _ => rfl) fun _ => ?_
  refine DiskTriple.bind triple_loadOptional fun loaded => ?_
  refine .bind triple_fromExcept fun prepared => ?_
  obtain ⟨record, model⟩ := prepared
  refine .bind (Q := fun _ => Replaced backend b j (.append request)) (diskTriple_intro ?_) fun _ => ?_
  · rintro d ⟨⟨-, hloaded⟩, hprepared⟩
    have hintends : Intends backend (loadOf backend request.username b j) (.append request) (some record) := by
      rcases hloaded with ⟨rfl, habsent⟩ | ⟨l, rfl, hpresent⟩
      · exact .first habsent hprepared
      · exact .append hpresent hprepared
    exact (triple_writeRecord (m := .append request) hintends).pre fun _ hd => hd.1.1
  · exact quiet_cacheCommittedModel.skip fun _ => diskTriple_id

lemma triple_remove {request : RemoveRequest} :
    DiskTriple (Writing backend b j (.remove request)) (KeepsFallback request.username)
      (Settled request.username b j) (PlaintextFiles.remove backend n request)
      fun _ => Replaced backend b j (.remove request) := by
  refine triple_holding ?_
  refine Quiet.skip (quiet_action fun _ _ => rfl) fun _ => ?_
  refine quiet_operationPermit.skip fun operation => ?_
  refine DiskTriple.bind triple_loadExpected fun loaded => ?_
  refine DiskTriple.bind triple_fromExcept fun prepared => ?_
  obtain ⟨record, model⟩ := prepared
  refine DiskTriple.bind (Q := fun _ => Replaced backend b j (.remove request)) (diskTriple_intro ?_) fun _ => ?_
  · rintro d ⟨⟨-, hloaded, hexpected⟩, hprepared⟩
    exact (triple_writeRecord (.remove hloaded hexpected hprepared)).conseq
      (fun _ hd => hd.1.1) fun _ _ hd => hd
  · cases model with
    | none => exact diskTriple_id
    | some model => exact quiet_cacheCommittedModel.skip fun _ => diskTriple_id

def Leaves (Φ : Prop) (before x : Option Inode) : Prop := x = before ∨ x = none ∧ Φ

def Clearing (Φ : Prop) (u : CanonicalUsername) (b j : Option Inode) (d : Disk) : Prop :=
  Files u (· = b) (Leaves Φ j) d ∨ Files u (Leaves Φ b) (fun x => x = none ∧ Leaves Φ j x) d

lemma triple_removeFile {name : Name} {P M R : Disk → Prop} (habsent : present = false → ∀ d, P d → R d)
    (hunlink : ∀ d, P d → KeepsFallback u d (d.change (Function.update · name none)) ∧
      I (d.change (Function.update · name none)) ∧ M (d.change (Function.update · name none)))
    (hsync : ∀ d, M d → I d.sync ∧ R d.sync) :
    DiskTriple I (KeepsFallback u) P (removeFile name present) fun _ => R := by
  cases present with
  | false => exact diskTriple_pure (habsent rfl)
  | true =>
    refine .bind (Q := fun _ => M) (triple_onDisk fun d d' _ hd he => ?_) fun _ => triple_onDisk
      fun d d' _ hd he => ?_
    · obtain rfl := unlink_eq_ok he
      exact hunlink d hd
    · cases he
      exact ⟨.inl rfl, hsync d hd⟩

lemma triple_removeFallback (hΦ : Φ) (hj : present = false → j = none) :
    DiskTriple (Clearing Φ u b j) (KeepsFallback u) (Settled u b j) (removeFile (jsonName u) present)
      fun _ => Settled u b none := by
  refine triple_removeFile (M := fun d => Files u (· = b) (Leaves Φ j) d ∧ d.now (jsonName u) = none)
    (fun hp d hd => hj hp ▸ hd) (fun d hd => ?_) fun d hd => ?_
  · have hnone : (d.change (Function.update · (jsonName u) none)).now (jsonName u) = none :=
      Function.update_self _ _ _
    have hfiles : Files u (· = b) (Leaves Φ j) (d.change (Function.update · (jsonName u) none)) := by
      refine (hd.weaken (fun _ hx => hx) fun _ hx => .inl hx).change ?_ (.inr ⟨hnone, hΦ⟩)
      rw [Function.update_of_ne (binName_ne_jsonName u)]
      exact hd.now.1
    exact ⟨.inr hnone, .inl hfiles, hfiles, hnone⟩
  · have hsynced : Settled u b none d.sync := Volume.throughout_sync hd.1.now.1 hd.2
    exact ⟨.inl (hsynced.weaken (fun _ hx => hx) fun _ hx => .inr ⟨hx, hΦ⟩), hsynced⟩

lemma triple_removeAuthoritative (hΦ : Φ) (hb : present = false → b = none) :
    DiskTriple (Clearing Φ u b j) (KeepsFallback u) (Settled u b none) (removeFile (binName u) present)
      fun _ => Settled u none none := by
  refine triple_removeFile (M := fun d => d.now (binName u) = none ∧ d.now (jsonName u) = none)
    (fun hp d hd => hb hp ▸ hd) (fun d hd => ?_) fun d hd => ?_
  · have hnone : (d.change (Function.update · (binName u) none)).now (binName u) = none :=
      Function.update_self _ _ _
    have hjson : (d.change (Function.update · (binName u) none)).now (jsonName u) = none := by
      rw [Volume.change]
      simp only [Function.update_of_ne (binName_ne_jsonName u).symm]
      exact hd.now.2
    have hgone : Files u (Leaves Φ b) (fun x => x = none ∧ Leaves Φ j x) d :=
      hd.weaken (fun _ hx => .inl hx) fun _ hx => ⟨hx, .inr ⟨hx, hΦ⟩⟩
    exact ⟨.inr hjson, .inr (hgone.change (.inr ⟨hnone, hΦ⟩) ⟨hjson, .inr ⟨hjson, hΦ⟩⟩), hnone, hjson⟩
  · have hsynced : Settled u none none d.sync := Volume.throughout_sync hd.1 hd.2
    exact ⟨.inr (hsynced.weaken (fun _ hx => .inr ⟨hx, hΦ⟩) fun _ hx => ⟨hx, .inr ⟨hx, hΦ⟩⟩), hsynced⟩

lemma triple_clear {request : ClearRequest} :
    DiskTriple (Clearing (Intends backend (loadOf backend request.username b j) (.clear request) none)
      request.username b j) (KeepsFallback request.username) (Settled request.username b j)
      (PlaintextFiles.clear backend n request)
      fun _ d => Intends backend (loadOf backend request.username b j) (.clear request) none ∧
        Settled request.username none none d := by
  refine triple_holding ?_
  refine Quiet.skip (quiet_action fun _ _ => rfl) fun _ => ?_
  refine quiet_operationPermit.skip fun _ => ?_
  refine DiskTriple.bind triple_loadExpected fun loaded => diskTriple_intro fun _ hloaded => ?_
  have hintends : Intends backend (loadOf backend request.username b j) (.clear request) none :=
    .clear hloaded.2.1 hloaded.2.2
  refine DiskTriple.bind (Q := fun authoritativeExists d => Settled request.username b j d ∧
    (authoritativeExists = false → b = none)) ?_ fun authoritativeExists => diskTriple_intro
    fun _ hauthoritative => ?_
  · refine triple_optionalValidRecord.conseq (fun _ hd => hd.1) fun r d hd => ⟨hd.1, fun hr => ?_⟩
    rw [← hd.1.now.1]
    exact hd.2 hr
  refine DiskTriple.bind (Q := fun fallbackExists d => Settled request.username b j d ∧
    (fallbackExists = false → j = none)) ?_ fun fallbackExists => diskTriple_intro fun _ hfallback => ?_
  · refine triple_optionalValidRecord.conseq (fun _ hd => hd.1) fun r d hd => ⟨hd.1, fun hr => ?_⟩
    rw [← hd.1.now.2]
    exact hd.2 hr
  refine DiskTriple.bind ((triple_removeFallback hintends hfallback.2).pre fun _ hd => hd.1) fun _ => ?_
  refine DiskTriple.bind (triple_removeAuthoritative hintends hauthoritative.2) fun _ => ?_
  exact diskTriple_pure fun _ hd => ⟨hintends, hd⟩

end Howy.Storage.PlaintextMutations
