import Howy.Library.Sightings
import Howy.Storage.Mode1Faults
import Howy.Storage.PlaintextMutations

namespace Howy.Storage.PlaintextCrash

open Library Plaintext PlaintextFiles PlaintextReading PlaintextMutations Mode1Faults Howyenc1Exact

def outcome : Option EnrollmentRecord → BackendResult DecodedPlaintextRecord
  | some record => .ok ⟨record, .howypln1⟩
  | none => .error .absent

def Consistent (backend : PlaintextStorageBackend) (m : Mutation)
    (before r : BackendResult DecodedPlaintextRecord) : Prop :=
  r = before ∨ ∃ after, Intends backend before m after ∧ Applies (foundOf before) m after ∧ r = outcome after

def keeps (inode : Inode) (node : FileNode) : Prop := inode.flushed = true → node = inode.node

def restarted (entries : Name → Option FileNode) : Shared Disk :=
  { disk := ⟨fun name => (entries name).map (⟨·, true⟩), []⟩ }

structure Settled (u : CanonicalUsername) (d : Disk) : Prop where
  durable : d.Throughout (binName u) (jsonName u) (· = d.now (binName u)) (· = d.now (jsonName u))
  flushed : ∀ inode, d.now (binName u) = some inode ∨ d.now (jsonName u) = some inode → inode.flushed = true

variable {request : ClearRequest} {q : Prog Choice (Shared Disk) (BackendResult MutationResult)}
  {r : BackendResult DecodedPlaintextRecord} {entries : Name → Option FileNode} {u : CanonicalUsername}
  {inode : Inode}

section

variable {backend : PlaintextStorageBackend} {u : CanonicalUsername} {b j x y : Option Inode} {m : Mutation}

lemma loadOf_some : loadOf backend u (some inode) x = loadOf backend u (some inode) y := by
  cases x <;> cases y <;> rfl

lemma loadOf_newRecord (h : NewRecord backend (loadOf backend (username m) b j) m x) :
    ∃ after, Intends backend (loadOf backend (username m) b j) m after ∧
      ∀ y, loadOf backend (username m) x y = outcome after := by
  obtain ⟨record, encoded, hintends, hencoded, rfl⟩ := h
  simp only [encodeRecord, bind_eq_ok, mapError_eq_ok, failIf_eq_ok, pure_eq_ok, not_lt] at hencoded
  obtain ⟨_, hencode, _, hle, rfl⟩ := hencoded
  exact ⟨some record, hintends, fun y => loadRecord_bin backend (by simp [isRecordFile, ownInode]) hle
    (hintends.applies.named rfl) hintends.model hencode⟩

lemma consistent_intended {after : Option EnrollmentRecord}
    (h : Intends backend (loadOf backend (username m) b j) m after) (hr : r = outcome after) :
    Consistent backend m (loadOf backend (username m) b j) r := .inr ⟨after, h, h.applies, hr⟩

lemma consistent_writing (hx : x = b ∨ NewRecord backend (loadOf backend (username m) b j) m x) (hy : y = j) :
    Consistent backend m (loadOf backend (username m) b j) (loadOf backend (username m) x y) := by
  rcases hx with rfl | hx
  · exact .inl (by rw [hy])
  · obtain ⟨after, hintends, hload⟩ := loadOf_newRecord hx
    exact consistent_intended hintends (hload y)

lemma consistent_clearing
    (h : (x = b ∧ Leaves (Intends backend (loadOf backend request.username b j) (.clear request) none) j y) ∨
      (Leaves (Intends backend (loadOf backend request.username b j) (.clear request) none) b x ∧
        y = none ∧ Leaves (Intends backend (loadOf backend request.username b j) (.clear request) none) j y)) :
    Consistent backend (.clear request) (loadOf backend request.username b j)
    (loadOf backend request.username x y) := by
  have hb : ∀ y, Leaves (Intends backend (loadOf backend request.username b j) (.clear request) none) j y →
      Consistent backend (.clear request) (loadOf backend request.username b j)
      (loadOf backend request.username b y) := by
    intro y hy
    cases b with
    | some inode => exact .inl loadOf_some
    | none =>
      rcases hy with rfl | ⟨rfl, hintends⟩
      · exact .inl rfl
      · exact consistent_intended hintends rfl
  rcases h with ⟨rfl, hy⟩ | ⟨rfl | ⟨rfl, hintends⟩, rfl, hy⟩
  · exact hb y hy
  · exact hb none hy
  · exact consistent_intended hintends rfl

lemma eq_of_keeps {o : Option FileNode} (h : Option.Rel keeps x o) (hx : ∀ inode, x = some inode → inode.flushed) :
    o = x.map (·.node) := by
  cases h with
  | none => rfl
  | some hk => exact congrArg some (hk (hx _ rfl))

end

section

variable {backend : PlaintextStorageBackend} {u : CanonicalUsername}

lemma unblocked_loadRecord : (PlaintextFiles.loadRecord backend u).run.Unblocked := by
  refine unblocked_bindE ?_ fun source => ?_
  · refine unblocked_bindE unblocked_action fun opened => ?_
    cases opened with
    | ok file => exact trivial
    | error kind =>
      cases kind with
      | notFound =>
        refine unblocked_bindE unblocked_action fun opened => ?_
        cases opened with
        | ok file => exact trivial
        | error kind => cases kind <;> exact trivial
      | _ => exact trivial
  · refine unblocked_bindE ?_ fun _ => trivial
    exact unblocked_bindE unblocked_action fun _ => unblocked_bindE unblocked_action fun _ => unblocked_action

lemma answers_restarted : Answers Choice.FaultFree (restarted entries)
      (Plaintext.loadRecord backend u (entries (binName u)) (entries (jsonName u)))
      (PlaintextFiles.loadRecord backend u).run := by
  have hfinds : Finds Choice.FaultFree (Holds u (entries (binName u)) (entries (jsonName u))) (fun _ => False)
      (Plaintext.loadRecord backend u (entries (binName u)) (entries (jsonName u)))
      (PlaintextFiles.loadRecord backend u) :=
    finds_loadRecord backend (.inr fun _ hc => hc)
  refine answers_of_finds hfinds (fun _ he => he) unblocked_loadRecord ⟨?_, ?_⟩
  · simp [Disk.lookup, restarted, Function.comp_def]
  · simp [Disk.lookup, restarted, Function.comp_def]

end

section

variable {I : Disk → Prop} {G : Disk → Disk → Prop} {P : Disk → Prop} {α : Type} {p : Op Disk α}
  {Q : α → Disk → Prop} {s₀ s : Shared Disk} {visited : List (Shared Disk)}
  {q : Prog Choice (Shared Disk) (BackendResult α)}

lemma visits_facts (h : DiskTriple I G P p Q) (hi : I s₀.disk) (hs : P s₀.disk)
    (hrun : Visits (fun _ => True) p.run s₀ visited q s) :
    (s₀ :: visited).IsChain (fun s s' => G s.disk s'.disk) ∧ (∀ v ∈ s₀ :: visited, I v.disk) ∧ I s.disk ∧
      ∀ a, q = .done (.ok a) → Q a s.disk := by
  obtain ⟨hchain, hall, hlast, hsafe⟩ := safe_of_visits hrun (h s₀ hi hs) hi
  refine ⟨hchain, List.forall_mem_cons.mpr ⟨hi, hall⟩, hlast, fun a hq => ?_⟩
  subst hq
  exact hsafe

variable {backend : PlaintextStorageBackend} {u : CanonicalUsername}

lemma watches_states {trace rest : List (Shared Disk)}
    (h : Watches Choice.FaultFree (PlaintextFiles.loadRecord backend u).run trace r rest) :
    ∃ s later t, (s :: later) <:+ trace ∧ t ∈ s :: later ∧
      r = loadOf backend u (s.disk.now (binName u)) (t.disk.now (jsonName u)) := by
  obtain ⟨_, _, ⟨s, later, t, hs, ht, rfl, rfl⟩, rfl⟩ := watches_loadRecord backend h
  exact ⟨s, later, t, hs, ht, rfl⟩

lemma fallback_stays_gone {t : Shared Disk} {later : List (Shared Disk)}
    (hchain : (s :: later).IsChain fun s s' => KeepsFallback u s.disk s'.disk) (ht : t ∈ s :: later)
    (hs : s.disk.now (jsonName u) = none) : t.disk.now (jsonName u) = none := by
  induction later generalizing s with
  | nil =>
    rw [List.mem_singleton] at ht
    rw [ht, hs]
  | cons s' later ih =>
    obtain ⟨hstep, hrest⟩ := List.isChain_cons_cons.mp hchain
    rcases List.mem_cons.mp ht with rfl | ht
    · exact hs
    refine ih hrest ht ?_
    rcases hstep with h | h
    · rw [h, hs]
    · exact h

end

def loadIn (backend : PlaintextStorageBackend) (u : CanonicalUsername) (d : Disk) :
    BackendResult DecodedPlaintextRecord := loadOf backend u (d.now (binName u)) (d.now (jsonName u))

section

variable {backend : PlaintextStorageBackend} {m : Mutation} {s₀ s : Shared Disk} {visited : List (Shared Disk)}

structure Survivable (backend : PlaintextStorageBackend) (m : Mutation) (s₀ : Shared Disk)
    (visited : List (Shared Disk)) (s : Shared Disk) : Prop where
  left : ∀ v ∈ s.disk.moments, ∀ w ∈ s.disk.moments, Consistent backend m (loadIn backend (username m) s₀.disk)
    (loadOf backend (username m) (v (binName (username m))) (w (jsonName (username m))))
  flushed : ∀ v ∈ s.disk.moments, ∀ inode, v (binName (username m)) = some inode ∨
    v (jsonName (username m)) = some inode → inode.flushed = true
  seen : ∀ t later t', (t :: later) <:+ s₀ :: visited → t' ∈ t :: later →
    Consistent backend m (loadIn backend (username m) s₀.disk)
      (loadOf backend (username m) (t.disk.now (binName (username m))) (t'.disk.now (jsonName (username m))))

def Completed (backend : PlaintextStorageBackend) (m : Mutation) (d₀ d : Disk) : Prop :=
  ∃ after x y, Intends backend (loadIn backend (username m) d₀) m after ∧ Files (username m) (· = x) (· = y) d ∧
    loadOf backend (username m) x y = outcome after

variable (backend) in
lemma load_survivor {d : Disk} (hs : d.Survives keeps entries)
    (hflushed : ∀ v ∈ d.moments, ∀ inode, v (binName u) = some inode ∨ v (jsonName u) = some inode →
      inode.flushed) :
    ∃ v ∈ d.moments, ∃ w ∈ d.moments, Plaintext.loadRecord backend u (entries (binName u)) (entries (jsonName u)) =
      loadOf backend u (v (binName u)) (w (jsonName u)) := by
  obtain ⟨v, hv, hbin⟩ := hs (binName u)
  obtain ⟨w, hw, hjson⟩ := hs (jsonName u)
  refine ⟨v, hv, w, hw, ?_⟩
  rw [loadOf, eq_of_keeps hbin fun inode h => hflushed v hv inode (.inl h),
    eq_of_keeps hjson fun inode h => hflushed w hw inode (.inr h)]

lemma survivable_writing (hsettled : Settled (username m) s₀.disk) (hall : ∀ v ∈ s₀ :: visited,
      Writing backend (s₀.disk.now (binName (username m))) (s₀.disk.now (jsonName (username m))) m v.disk)
    (hlast : Writing backend (s₀.disk.now (binName (username m))) (s₀.disk.now (jsonName (username m))) m s.disk) :
    Survivable backend m s₀ visited s where
  left v hv w hw := consistent_writing (hlast v hv).1 (hlast w hw).2
  flushed v hv inode hi := by
    rcases hi with hi | hi
    · rcases (hlast v hv).1 with h | h
      · exact hsettled.flushed inode (.inl (h ▸ hi))
      · obtain ⟨_, _, -, -, hnew⟩ := h
        cases hnew.symm.trans hi
        rfl
    · exact hsettled.flushed inode (.inr ((hlast v hv).2 ▸ hi))
  seen t later t' ht ht' := by
    have hmem := ht.subset List.mem_cons_self
    exact consistent_writing (hall t hmem).now.1 (hall t' (ht.subset ht')).now.2

lemma flushed_leaves {Φ : Prop} {x before : Option Inode} (h : Leaves Φ before x)
    (hb : ∀ inode, before = some inode → inode.flushed) (hx : x = some inode) : inode.flushed := by
  rcases h with rfl | ⟨rfl, -⟩
  · exact hb inode hx
  · cases hx

lemma survivable_clearing (hsettled : Settled request.username s₀.disk)
    (hchain : (s₀ :: visited).IsChain fun s s' => KeepsFallback request.username s.disk s'.disk)
    (hall : ∀ v ∈ s₀ :: visited, Clearing (Intends backend (loadIn backend request.username s₀.disk)
      (.clear request) none) request.username (s₀.disk.now (binName request.username))
      (s₀.disk.now (jsonName request.username)) v.disk)
    (hlast : Clearing (Intends backend (loadIn backend request.username s₀.disk) (.clear request) none)
      request.username (s₀.disk.now (binName request.username)) (s₀.disk.now (jsonName request.username)) s.disk) :
    Survivable backend (.clear request) s₀ visited s where
  left v hv w hw := by
    apply consistent_clearing
    rcases hlast with h | h
    · exact .inl ⟨(h v hv).1, (h w hw).2⟩
    · exact .inr ⟨(h v hv).1, (h w hw).2⟩
  flushed v hv inode hi := by
    have hbin : ∀ inode, s₀.disk.now (binName request.username) = some inode → inode.flushed :=
      fun inode h => hsettled.flushed inode (.inl h)
    have hjson : ∀ inode, s₀.disk.now (jsonName request.username) = some inode → inode.flushed :=
      fun inode h => hsettled.flushed inode (.inr h)
    rcases hlast with h | h <;> obtain ⟨hb, hj⟩ := h v hv <;> rcases hi with hi | hi
    · exact hbin inode (hb ▸ hi)
    · exact flushed_leaves hj hjson hi
    · exact flushed_leaves hb hbin hi
    · exact flushed_leaves hj.2 hjson hi
  seen t later t' ht ht' := by
    have hmem := ht.subset List.mem_cons_self
    apply consistent_clearing
    rcases hall t hmem with h | h
    · refine .inl ⟨h.now.1, ?_⟩
      rcases hall t' (ht.subset ht') with h' | h'
      · exact h'.now.2
      · exact h'.now.2.2
    · -- once the file that decides may be gone, the fallback is, and it does not come back
      have hgone := fallback_stays_gone (hchain.suffix ht) ht' h.now.2.1
      have hleaves := h.now.2.2
      rw [h.now.2.1, ← hgone] at hleaves
      exact .inr ⟨h.now.1, hgone, hleaves⟩

lemma stopped_writing {n : ℕ} (hsettled : Settled (username m) s₀.disk)
    (htriple : DiskTriple (Writing backend (s₀.disk.now (binName (username m)))
      (s₀.disk.now (jsonName (username m))) m) (KeepsFallback (username m))
      (Files (username m) (· = s₀.disk.now (binName (username m))) (· = s₀.disk.now (jsonName (username m))))
      (perform backend n m)
      fun _ => Replaced backend (s₀.disk.now (binName (username m))) (s₀.disk.now (jsonName (username m))) m)
    (hrun : Visits (fun _ => True) (perform backend n m).run s₀ visited q s) :
    Survivable backend m s₀ visited s ∧ ∀ result, q = .done (.ok result) → Completed backend m s₀.disk s.disk := by
  obtain ⟨-, hall, hlast, hdone⟩ := visits_facts htriple (replacing_of_rest hsettled.durable) hsettled.durable hrun
  refine ⟨survivable_writing hsettled hall hlast, fun result hq => ?_⟩
  obtain ⟨x, hnew, hfiles⟩ := hdone result hq
  obtain ⟨after, hintends, hload⟩ := loadOf_newRecord hnew
  exact ⟨after, x, _, hintends, hfiles, hload _⟩

lemma stopped_clearing {n : ℕ} (hsettled : Settled request.username s₀.disk)
    (hrun : Visits (fun _ => True) (perform backend n (.clear request)).run s₀ visited q s) :
    Survivable backend (.clear request) s₀ visited s ∧
      ∀ result, q = .done (.ok result) → Completed backend (.clear request) s₀.disk s.disk := by
  obtain ⟨hchain, hall, hlast, hdone⟩ := visits_facts (triple_clear.map MutationResult.cleared)
    (.inl (hsettled.durable.weaken (fun _ hx => hx) fun _ hx => .inl hx)) hsettled.durable hrun
  refine ⟨survivable_clearing hsettled hchain hall hlast, fun result hq => ?_⟩
  obtain ⟨hintends, hfiles⟩ := hdone result hq
  exact ⟨none, none, none, hintends, hfiles, rfl⟩

end

/-- However a mutation is stopped and whatever fails, a load sees the record from before or the one that was to be
written. -/
theorem mode0_mutation_crash_consistent (backend : PlaintextStorageBackend) (n : ℕ) (m : Mutation)
    (s₀ s : Shared Disk) (visited : List (Shared Disk))
    (q : Prog Choice (Shared Disk) (BackendResult MutationResult))
    (hsettled : Settled (username m) s₀.disk)
    (hrun : Visits (fun _ => True) (perform backend n m).run s₀ visited q s) :
    (∀ entries, s.disk.Survives keeps entries → ∃ r, Consistent backend m (loadIn backend (username m) s₀.disk) r ∧
      Answers Choice.FaultFree (restarted entries) r (PlaintextFiles.loadRecord backend (username m)).run) ∧
    (∀ r rest, Watches Choice.FaultFree (PlaintextFiles.loadRecord backend (username m)).run
      (s₀ :: visited) r rest → Consistent backend m (loadIn backend (username m) s₀.disk) r) ∧
    (∀ result, q = .done (.ok result) → ∃ after, Intends backend (loadIn backend (username m) s₀.disk) m after ∧
      ∀ entries, s.disk.Survives keeps entries → Answers Choice.FaultFree (restarted entries) (outcome after)
        (PlaintextFiles.loadRecord backend (username m)).run) := by
  obtain ⟨hsurvivable, hdone⟩ : Survivable backend m s₀ visited s ∧
      ∀ result, q = .done (.ok result) → Completed backend m s₀.disk s.disk := by
    cases m with
    | append request => exact stopped_writing hsettled (triple_append.map MutationResult.appended) hrun
    | remove request => exact stopped_writing hsettled (triple_remove.map MutationResult.removed) hrun
    | clear request => exact stopped_clearing hsettled hrun
  refine ⟨fun entries hs => ?_, fun r rest hr => ?_, fun result hq => ?_⟩
  · obtain ⟨v, hv, w, hw, hload⟩ := load_survivor backend hs hsurvivable.flushed
    exact ⟨_, hload ▸ hsurvivable.left v hv w hw, answers_restarted⟩
  · obtain ⟨t, later, t', ht, ht', rfl⟩ := watches_states hr
    exact hsurvivable.seen t later t' ht ht'
  obtain ⟨after, x, y, hintends, hfiles, hload⟩ := hdone result hq
  refine ⟨after, hintends, fun entries hs => ?_⟩
  obtain ⟨v, hv, w, hw, hread⟩ := load_survivor backend hs hsurvivable.flushed
  rw [(hfiles v hv).1, (hfiles w hw).2, hload] at hread
  exact hread ▸ answers_restarted

def plainBackend : PlaintextStorageBackend where
  legacy := fun _ _ _ _ _ => .error (.invalidMagic "legacy record")
  expectedOwner := 0
  recognizerModel := .filled 32 7
  limits := ⟨_, _, copyBackend.limits.maxEntries_pos, copyBackend.limits.maxEntries_le,
    copyBackend.limits.maxPlaintextBytes_pos, copyBackend.limits.maxPlaintextBytes_le⟩
  operationReservationBytes := 200000
  cacheLimits := copyBackend.cacheLimits

def emptyDisk : Shared Disk := { disk := ⟨fun _ => none, []⟩ }

lemma settled_emptyDisk : Settled u emptyDisk.disk where
  durable v hv := by
    rw [List.mem_singleton.mp hv]
    exact ⟨rfl, rfl⟩
  flushed inode h := by rcases h with h | h <;> cases h

def aliceStops : Prog Choice (Shared Disk) (Except StorageBackendError MutationResult) × Shared Disk :=
  stopped (perform plainBackend 0 (.append (aliceRequest 1 0))).run (List.replicate 13 {}) emptyDisk

/-- The append is stopped between the rename of its temporary and the sync of the directory. -/
theorem mode0_mutation_crash_consistent_alice :
    (aliceStops.2.disk.now (binName alice)).isSome ∧ aliceStops.2.disk.past.length = 2 ∧
    ∀ entries, aliceStops.2.disk.Survives keeps entries →
      ∃ r, Consistent plainBackend (.append (aliceRequest 1 0)) (.error .absent) r ∧
        Answers Choice.FaultFree (restarted entries) r (PlaintextFiles.loadRecord plainBackend alice).run := by
  obtain ⟨visited, hvisits⟩ := visits_stopped (p := (perform plainBackend 0 (.append (aliceRequest 1 0))).run)
    (s := emptyDisk) (List.replicate 13 {})
  have hload : loadIn plainBackend alice emptyDisk.disk = .error .absent := rfl
  refine ⟨by decide +kernel, by decide +kernel, ?_⟩
  rw [← hload, aliceStops]
  exact (mode0_mutation_crash_consistent plainBackend 0 (.append (aliceRequest 1 0)) emptyDisk _ visited _
    settled_emptyDisk hvisits).1

end Howy.Storage.PlaintextCrash
