import Howy.Storage.Mode1Leftovers
import Howy.Storage.Mode1Permanence

namespace Howy.Storage.Mode1Crash

open Library Function Howyenc1Exact Mode1 Mode1Faults

variable (backend : Mode1StorageBackend) {after : Option EnrollmentRecord} {marker : Marker}

structure Acceptable (w : View) : Prop where
  benign : ∀ name, Benign backend w name
  permitted : ∀ u operation, inspectNode backend u (w (filename u)) ≠ .error (.io operation .permissionDenied)

structure Valid (d : Directory) : Prop where
  acceptable : Acceptable backend (view d)
  entries_le : d.keys.length ≤ maxMode1NamespaceEntries

inductive Fate (m : Mutation) (b w : View) : Prop where
  /-- It has a name that no scan takes away. -/
  | kept {name : Name} (held : w name = b (filename (username m))) (lasting : ¬ Stale backend w name)
  /-- It has a name that a scan takes for a temporary, but the new record is active and nothing is amiss. -/
  | exposed (added : Name) {record : EnrollmentRecord} (hidden : ¬ MarkerFree (username m))
      (commits : Commits backend (b (filename (username m))) m (some record))
      (stores : Stores backend (username m) (w (filename (username m))) (some record))
      (acceptable : Acceptable backend w) (names : ∀ name, (w name).isSome → name = added ∨ (b name).isSome)
  /-- The mutation is complete, and nothing is amiss. -/
  | gone (copies : ∀ name, w name = b (filename (username m)) → b name = b (filename (username m)) ∨
      name = filename (username m)) (acceptable : Acceptable backend w) (names : ∀ name, (w name).isSome →
      (b name).isSome)

variable {record : EnrollmentRecord} {encoded : Bytes} {s : Shared Directory}

section

variable {backend} {b w : View} {m : Mutation} {name : Name} {pre : FileNode}

lemma benign_iff_blameless : (∀ name, Benign backend w name) ↔ Blameless backend (fun _ => none) w := by
  refine forall_congr' fun name => ⟨.inr, fun h => ?_⟩
  rcases h with h | h
  · exact benign_of_none h
  · exact h

lemma stale_of_endsIn (he : EndsIn marker name) (h : Stale backend w name) :
    (marker = .tmp ∧ ∃ node, w name = some node ∧ entryClass name node = .temporary) ∨
      (marker = .staged ∧ ∃ u, parseTransactionArtifact name stagedMarker = some u ∧
        PreExchange backend w name u) := by
  obtain ⟨node, hnode, hclass | ⟨hclass, u, hu, hpre⟩⟩ := h
  · have hc := classifyName_of_entryClass hclass (by simp)
    rw [classifyName_of_endsIn he] at hc
    split at hc
    · cases marker <;> first | exact .inl ⟨rfl, node, hnode, hclass⟩ | cases hc
    · cases hc
  · obtain ⟨suffix, hs, rfl⟩ := artifactName_of_parse hu
    exact .inr ⟨he.unique (endsIn_artifactName .staged u hs), u, hu, hpre⟩

lemma moved_not_preExchange
    (hc : Commits backend (some pre) m (some record)) (hs : Seals backend record encoded)
    (hname : w name = some pre)
    (hactive : w (filename (username m)) = some (recordNode backend.expectedOwner encoded))
    {u : CanonicalUsername} :
    ¬ PreExchange backend w name u := by
  rintro ⟨staged, active, hstaged, hnew, hgeneration⟩
  by_cases hu : u = username m
  · -- the old record would have to be of the generation after the new one
    subst hu
    obtain ⟨before, nonce, hbefore, hpre⟩ := inspectNode_replaced hc
    obtain ⟨nonce', hwritten⟩ := inspectNode_written hc hs
    rw [hname, hpre, Except.ok.injEq, Option.some.injEq] at hstaged
    rw [hactive, hwritten, Except.ok.injEq, Option.some.injEq] at hnew
    subst hstaged hnew
    have hnext := (checkedNextGeneration_eq_ok hgeneration).1
    have hwas := generation_written hc hbefore
    simp only [inspectedRecord, headerOf] at hnext
    omega
  · -- a record is read as its own user's only
    obtain ⟨header, -, hi, -⟩ := hc.readable pre rfl
    rw [hname] at hstaged
    rcases (inspectNode_eq_ok backend).mp hstaged with ⟨h, -⟩ | ⟨file, header', hfile, hi', -⟩
    · cases h
    cases hfile
    have hsame := hi.inspected.symm.trans hi'.inspected
    rw [Except.ok.injEq] at hsame
    exact hu (hi'.username.symm.trans (hsame ▸ hi.username))

lemma Fate.of_active (h : w (filename (username m)) = b (filename (username m))) : Fate backend m b w :=
  .kept h fun hs => hs.ne_filename _ rfl

lemma acceptable_committed (h : Acceptable backend b)
    (hs : NoStaged (username m) b) (hc : Commits backend (b (filename (username m))) m after)
    (hd : Committed backend m b after w) : Acceptable backend w := by
  refine ⟨benign_iff_blameless.mpr (blameless_committed (benign_iff_blameless.mp h.benign) hs hd), ?_⟩
  intro u operation hdenied
  rcases committed_records hc hd with hu | ⟨i, hi⟩
  · exact h.permitted u operation (hu ▸ hdenied)
  · rw [hi] at hdenied
    cases hdenied

lemma acceptable_exposed (h : Acceptable backend b)
    (hs : NoStaged (username m) b) (hc : Commits backend (b (filename (username m))) m (some record))
    (hseals : Seals backend record encoded) (he : EndsIn .tmp name) {node : FileNode}
    (hclass : entryClass name node = .temporary) :
    Acceptable backend (update (update b name (some node)) (filename (username m))
      (some (recordNode backend.expectedOwner encoded))) := by
  have hstaged : NoStaged (username m) (update b name (some node)) := by
    intro x hx
    obtain ⟨suffix, hsuffix, rfl⟩ := artifactName_of_parse hx
    have hne : artifactName stagedMarker (username m) suffix ≠ name := by
      rintro rfl
      cases he.unique (endsIn_artifactName .staged (username m) hsuffix)
    rw [update_of_ne hne]
    exact hs _ hx
  refine ⟨?_, ?_⟩
  · rw [benign_iff_blameless]
    refine blameless_active (blameless_temporary ?_ hclass he.ne_filename) hstaged (.inr ⟨encoded, rfl⟩)
    exact benign_iff_blameless.mp h.benign
  intro u operation hdenied
  by_cases hu : u = username m
  · subst hu
    obtain ⟨nonce, hi⟩ := inspectNode_written hc hseals
    rw [update_self, hi] at hdenied
    cases hdenied
  · have hne : filename u ≠ filename (username m) := fun he => hu (filename_injective he)
    rw [update_of_ne hne, update_of_ne (he.ne_filename u).symm] at hdenied
    exact h.permitted u operation hdenied

lemma fate_moved {b' : View}
    (h : Acceptable backend b') (hs : NoStaged (username m) b') (hsub : ∀ x, (b' x).isSome → (b x).isSome)
    (hsame : b' (filename (username m)) = b (filename (username m))) (hpre : b (filename (username m)) = some pre)
    (hc : Commits backend (b (filename (username m))) m (some record)) (hseals : Seals backend record encoded)
    (he : EndsIn marker name) (htmp : marker = .tmp → ¬ MarkerFree (username m))
    (hw : w = update (update b' name (b (filename (username m)))) (filename (username m))
      (some (recordNode backend.expectedOwner encoded))) : Fate backend m b w := by
  have hactive : w (filename (username m)) =
    some (recordNode backend.expectedOwner encoded) := by rw [hw, update_self]
  have hname : w name = b (filename (username m)) := by
    rw [hw, update_of_ne (he.ne_filename _), update_self]
  by_cases hstale : Stale backend w name
  · rcases stale_of_endsIn he hstale with ⟨rfl, node, hnode, hclass⟩ | ⟨-, u, -, hp⟩
    · rw [hname, hpre] at hnode
      cases hnode
      have hacceptable : Acceptable backend w := by
        rw [hw, hpre]
        exact acceptable_exposed h hs (hsame ▸ hc) hseals he hclass
      refine .exposed name (htmp rfl) hc (hactive ▸ stores_written hc hseals) hacceptable fun x hx => ?_
      by_cases hxn : x = name
      · exact .inl hxn
      right
      rw [hw, update_apply] at hx
      split at hx
      next hxa =>
        rw [hxa, hpre]
        rfl
      · rw [update_of_ne hxn] at hx
        exact hsub x hx
    · exact absurd hp (moved_not_preExchange (hpre ▸ hc) hseals (hname.trans hpre) hactive)
  · exact .kept hname hstale

lemma acceptable_unlink (h : Acceptable backend b) (hn : ∀ v, name ≠ filename v) :
    Acceptable backend (update b name none) := by
  refine ⟨benign_iff_blameless.mpr (blameless_unlink (benign_iff_blameless.mp h.benign) hn), fun u operation => ?_⟩
  rw [update_of_ne (hn u).symm]
  exact h.permitted u operation

lemma isSome_of_unlink {x : Name} (h : (update b name none x).isSome) : (b x).isSome := by
  rw [update_apply] at h
  split at h
  · cases h
  · exact h

section

variable (h : Acceptable backend b) (hs : NoStaged (username m) b) (hpre : b (filename (username m)) = some pre)

include h hs hpre

lemma fate_gone (hc : Commits backend (b (filename (username m))) m after)
    (hd : Committed backend m b after w) : Fate backend m b w := by
  refine .gone (fun x hx => ?_) (acceptable_committed h hs hc hd) fun x hx => ?_
  · by_cases hxa : x = filename (username m)
    · exact .inr hxa
    rcases committed_others hd hxa with he | he
    · exact .inl (he ▸ hx)
    · rw [he, hpre] at hx
      cases hx
  · by_cases hxa : x = filename (username m)
    · rw [hxa, hpre]
      rfl
    rcases committed_others hd hxa with he | he
    · exact he ▸ hx
    · rw [he] at hx
      cases hx

lemma fate_replacing
    (hc : Commits backend (b (filename (username m))) m (some record)) (hseals : Seals backend record encoded)
    (hw : Replacing backend.expectedOwner (username m) b encoded w) : Fate backend m b w := by
  rcases hw with rfl | ⟨random, staged, rollback, -, hn, hw⟩
  · exact .of_active rfl
  have hsa := (hn.staged_ne_filename (v := username m)).symm
  have hra := (hn.rollback_ne_filename (v := username m)).symm
  cases hw with
  | start => exact .of_active rfl
  | written => exact .of_active (update_of_ne temporaryName_ne_filename.symm _ _)
  | prepared | aborted => exact .of_active (update_of_ne hsa _ _)
  | exchanged =>
    rcases hn.staged_cases with ⟨-, suffix, hsuffix, hstaged⟩ | ⟨hnot, he⟩
    · exact fate_moved h hs (fun _ hx => hx) rfl hpre hc hseals
        (hstaged ▸ endsIn_artifactName .staged (username m) hsuffix) (by intro h; cases h) rfl
    · exact fate_moved h hs (fun _ hx => hx) rfl hpre hc hseals he (fun _ => hnot) rfl
  | replaced =>
    exact fate_gone h hs hpre hc (.replaced (by rw [hpre]; rfl) hseals ⟨random, staged, rollback, hn, rfl⟩)
  | rolling =>
    have hrest := acceptable_unlink h fun v => hn.staged_ne_filename
    have hnone : NoStaged (username m) (update b staged none) := noStaged_unlink hs
    have hactive := update_of_ne hsa none b
    rcases hn.rollback_cases with he | ⟨he, -⟩ | ⟨hnot, he⟩
    · exact fate_moved hrest hnone (fun _ => isSome_of_unlink) hactive hpre hc hseals he (by intro h; cases h) rfl
    · exact fate_moved hrest hnone (fun _ => isSome_of_unlink) hactive hpre hc hseals he (by intro h; cases h) rfl
    · exact fate_moved hrest hnone (fun _ => isSome_of_unlink) hactive hpre hc hseals he (fun _ => hnot) rfl
  | returned | restored => exact .of_active (by rw [update_of_ne hra, update_of_ne hsa])

lemma fate_clearing (hc : Commits backend (b (filename (username m))) m none)
    (hw : Clearing (username m) b w) : Fate backend m b w := by
  rcases hw with rfl | ⟨random, hw⟩
  · exact .of_active rfl
  have he := endsIn_artifactName .clear (username m) (hexLower_isSuffix32 random)
  cases hw with
  | start => exact .of_active rfl
  | buried =>
    refine .kept (update_self _ _ _) fun hstale => ?_
    rcases stale_of_endsIn he hstale with ⟨h, -⟩ | ⟨h, -⟩ <;> cases h
  | cleared => exact fate_gone h hs hpre hc .cleared

end

lemma fate_of_callView (h : Acceptable backend b)
    (hs : ∀ after, Commits backend (b (filename (username m))) m after → NoStaged (username m) b)
    (hpre : b (filename (username m)) = some pre) (hw : CallView backend m b w) : Fate backend m b w := by
  cases hw with
  | idle => exact .of_active rfl
  | replacing _ hc hseals hw => exact fate_replacing h (hs _ hc) hpre hc hseals hw
  | creating absent =>
    rw [hpre] at absent
    cases absent
  | clearing hc hw => exact fate_clearing h (hs _ hc) hpre hc hw

end

section

variable {backend} {m : Mutation} {b w : View} {d d₁ : Directory}

lemma keys_length_le (h : ∀ name, (view d₁ name).isSome → (view d name).isSome) :
    d₁.keys.length ≤ d.keys.length := by
  refine (List.subperm_of_subset d₁.keys_nodup fun name hname => ?_).length_le
  exact AList.mem_keys.mp (AList.lookup_isSome.mp (h name (AList.lookup_isSome.mpr (AList.mem_keys.mpr hname))))

lemma keys_length_le_succ {added : Name} (h : ∀ name, (view d₁ name).isSome → name = added ∨
    (view d name).isSome) : d₁.keys.length ≤ d.keys.length + 1 := by
  have hsub : d₁.keys ⊆ added :: d.keys := by
    intro name hname
    rcases h name (AList.lookup_isSome.mpr (AList.mem_keys.mpr hname)) with rfl | hs
    · exact List.mem_cons_self
    · exact List.mem_cons_of_mem _ (AList.mem_keys.mp (AList.lookup_isSome.mp hs))
  exact (List.subperm_of_subset d₁.keys_nodup hsub).length_le

lemma active_of_callView (hw : CallView backend m b w) : w (filename (username m)) = b (filename (username m)) ∨
    ∃ after, Commits backend (b (filename (username m))) m after ∧
      Stores backend (username m) (w (filename (username m))) after := by
  cases hw with
  | idle => exact .inl rfl
  | replacing _ hc hseals hw =>
    rcases hw with rfl | ⟨random, staged, rollback, -, hn, hw⟩
    · exact .inl rfl
    have hsa := (hn.staged_ne_filename (v := username m)).symm
    have hra := (hn.rollback_ne_filename (v := username m)).symm
    cases hw with
    | start => exact .inl rfl
    | written => exact .inl (update_of_ne temporaryName_ne_filename.symm _ _)
    | prepared | aborted => exact .inl (update_of_ne hsa _ _)
    | exchanged | replaced | rolling => exact .inr ⟨_, hc, by rw [update_self]; exact stores_written hc hseals⟩
    | returned | restored => exact .inl (by rw [update_of_ne hra, update_of_ne hsa])
  | creating _ hc hseals hw =>
    rcases hw with rfl | ⟨random, rollback, -, hn, hw⟩
    · exact .inl rfl
    have hra := (hn.rollback_ne_filename (v := username m)).symm
    cases hw with
    | start => exact .inl rfl
    | written => exact .inl (update_of_ne temporaryName_ne_filename.symm _ _)
    | created => exact .inr ⟨_, hc, by rw [update_self]; exact stores_written hc hseals⟩
    | withdrawn | restored => exact .inl (update_of_ne hra _ _)
  | clearing hc hw =>
    rcases hw with rfl | ⟨random, hw⟩
    · exact .inl rfl
    cases hw with
    | start => exact .inl rfl
    | buried => exact .inr ⟨none, hc, by rw [update_of_ne tombstoneName_ne_filename.symm, update_self]; rfl⟩
    | cleared => exact .inr ⟨none, hc, by rw [update_self]; rfl⟩

lemma scan_accepts {choices : List Choice} {e : StorageBackendError} (hvalid : Valid backend d)
    (hfree : ∀ c ∈ choices, Choice.FaultFree c) :
    (scanOuterHeaders backend).run.run choices { disk := d } ≠ some (.error e, s) := by
  intro hrun
  have hswept : Swept backend (view d) (view d) := Swept.refl backend _
  have hfaulty : ¬ Faulty Choice.FaultFree := fun ⟨_, hc, hn⟩ => hn hc
  obtain ⟨hout, -⟩ := post_of_run (moves_scanOuterHeaders backend { disk := d } d rfl) hswept
    hfree hrun
  rcases hout with ⟨_, -, -, hexplained⟩ | ⟨⟨-, hdeadly⟩, -⟩
  · cases hexplained with
    | fault h => exact hfaulty h
    | corrupt h => exact h.elim (hvalid.acceptable.benign _).1 (hvalid.acceptable.benign _).2
    | limit h => exact absurd hvalid.entries_le (Nat.not_le.mpr h)
    | denied h => exact hvalid.acceptable.permitted _ _ h
  · rcases hdeadly with h | ⟨name, h⟩
    · exact hfaulty h
    · exact (hvalid.acceptable.benign name).1 h

lemma swept_of_steps {q : Prog Choice (Shared Directory) _}
    (h : Prog.Steps (fun _ => True) (scanOuterHeaders backend).run { disk := d } q s) :
    Swept backend (view d) (view s.disk) := by
  have hswept : Swept backend (view d) (view d) := Swept.refl backend _
  exact (safe_of_steps h (moves_scanOuterHeaders backend { disk := d } d rfl) hswept).1

end

/-- What a scan makes of the directory `d₁` that a crash in the middle of `m` has left of `d`. -/
structure CrashConsistent (m : Mutation) (d d₁ : Directory) : Prop where
  ends : ∀ choices : ℕ → Choice, ∃ n r s,
    (scanOuterHeaders backend).run.run ((List.range n).map choices) { disk := d₁ } = some (r, s)
  accepted : ∀ choices records s,
    (scanOuterHeaders backend).run.run choices { disk := d₁ } = some (.ok records, s) →
    activeFile s.disk (username m) = activeFile d (username m) ∨
      ∃ after, Applies (foundIn backend (username m) (activeFile d (username m))) m after ∧
        Stores backend (username m) (activeFile s.disk (username m)) after
  refused : ∀ choices e s, (∀ c ∈ choices, Choice.FaultFree c) →
    (scanOuterHeaders backend).run.run choices { disk := d₁ } = some (.error e, s) →
    ∀ pre, activeFile d (username m) = some pre → ∃ name, s.disk.lookup name = some pre
  spares_active : ∀ q s, Prog.Steps (fun _ => True) (scanOuterHeaders backend).run { disk := d₁ } q s →
    ∀ u, activeFile s.disk u = activeFile d₁ u
  spares_moved : ∀ q s, Prog.Steps (fun _ => True) (scanOuterHeaders backend).run { disk := d₁ } q s →
    ∀ pre name, activeFile d (username m) = some pre → d₁.lookup name = some pre → d.lookup name ≠ some pre →
      (∃ kept, s.disk.lookup kept = some pre) ∨ (¬ MarkerFree (username m) ∧
        ∃ record, Applies (foundIn backend (username m) (activeFile d (username m))) m (some record) ∧
          Stores backend (username m) (activeFile s.disk (username m)) (some record))

theorem mode1_transactions_crash_consistent (n : ℕ) (call : Call) (m : Mutation) (hm : call.mutation = some m)
    (s s₁ : Shared Directory) (p : Prog Choice (Shared Directory) (BackendResult Answer))
    (hvalid : Valid backend s.disk)
    (happlies : ∀ after, Applies (foundIn backend (username m) (activeFile s.disk (username m))) m after →
      NoStaged (username m) (view s.disk) ∧
        (MarkerFree (username m) ∨ s.disk.keys.length < maxMode1NamespaceEntries))
    (hcrash : Prog.Steps (fun _ => True) (Call.op backend (files backend) n call).run s p s₁) :
    CrashConsistent backend m s.disk s₁.disk := by
  have hidle : CallView backend m (view s.disk) (view s.disk) := .idle
  have hview : CallView backend m (view s.disk) (view s₁.disk) :=
    (safe_of_steps hcrash (safe_call backend hm) hidle).1
  have hfate {pre : FileNode} (hpre : activeFile s.disk (username m) = some pre) :=
    fate_of_callView hvalid.acceptable (fun after hc => (happlies after hc.applies).1) hpre hview
  refine ⟨fun choices => plain_scanOuterHeaders.unblocked.ends choices _, ?_, ?_, ?_, ?_⟩
  · intro choices records s₂ hrun
    have hswept := swept_of_steps (Prog.steps_of_run (fun _ _ => trivial) hrun)
    have hactive : activeFile s₂.disk (username m) = activeFile s₁.disk (username m) := hswept.active _
    rw [hactive]
    exact (active_of_callView hview).imp_right fun ⟨after, hc, hs⟩ => ⟨after, hc.applies, hs⟩
  · intro choices e s₂ hfree hrun pre hpre
    have hswept := swept_of_steps (Prog.steps_of_run (fun _ _ => trivial) hrun)
    cases hfate hpre with
    | @kept name held lasting =>
      refine ⟨name, ?_⟩
      rcases hswept name with h | ⟨-, hs⟩
      · exact h.trans (held.trans hpre)
      · exact absurd hs lasting
    | exposed _ hidden commits _ acceptable names =>
      have hlt := (happlies _ commits.applies).2.resolve_left hidden
      exact absurd hrun (scan_accepts ⟨acceptable, (keys_length_le_succ names).trans hlt⟩ hfree)
    | gone _ acceptable names =>
      exact absurd hrun (scan_accepts ⟨acceptable, (keys_length_le names).trans hvalid.entries_le⟩ hfree)
  · intro q s₂ hsteps u
    exact (swept_of_steps hsteps).active u
  · intro q s₂ hsteps pre name hpre hname hmoved
    have hswept := swept_of_steps hsteps
    have hactive : activeFile s₂.disk (username m) = activeFile s₁.disk (username m) := hswept.active _
    cases hfate hpre with
    | @kept kept held lasting =>
      refine .inl ⟨kept, ?_⟩
      rcases hswept kept with h | ⟨-, hs⟩
      · exact h.trans (held.trans hpre)
      · exact absurd hs lasting
    | exposed _ hidden commits stores _ _ => exact .inr ⟨hidden, _, commits.applies, hactive ▸ stores⟩
    | gone copies _ _ =>
      rcases copies name (hname.trans hpre.symm) with h | rfl
      · exact absurd (h.trans hpre) hmoved
      · exact .inl ⟨_, hactive.trans hname⟩

lemma acceptable_of_kept {w : View} (h : Kept backend (fun _ => none) w) : Acceptable backend w := by
  refine ⟨benign_iff_blameless.mpr h.blameless, fun u operation hdenied => ?_⟩
  rcases h.records u with hu | ⟨i, hi⟩
  · rw [hu] at hdenied
    cases hdenied
  · rw [hi] at hdenied
    cases hdenied

lemma kept_aliceAppends {answer : Answer} (hrun : aliceAppends = some (.ok answer, s))
    (hserving : s.poisoned = false) : Kept copyBackend (fun _ => none) (view s.disk) :=
  kept_call (m := .append (aliceRequest 1 0)) (Kept.refl copyBackend _) rfl hrun hserving
    (fun _ => markerFree_alice) fun _ _ _ => rfl

theorem mode1_transactions_crash_consistent_alice : ∃ answer s₁ answer' s₂, aliceAppends = some (.ok answer, s₁) ∧
    repeatedAppend s₁ = some (.ok answer', s₂) ∧
    CrashConsistent copyBackend (.append (aliceRequest 2 1)) s₁.disk s₂.disk := by
  have hruns : (aliceAppends.bind fun x₁ => (repeatedAppend x₁.2).map fun x₂ =>
      ((x₁.1.isOk, x₁.2.poisoned, x₁.2.disk.keys), x₂.1.isOk)) = some ((true, false, [filename alice]), true) := by
    decide +kernel
  simp only [Option.bind_eq_some_iff, Option.map_eq_some_iff, Prod.exists, Prod.mk.injEq] at hruns
  obtain ⟨r₁, s₁, h₁, r₂, s₂, h₂, ⟨ho₁, hp₁, hkeys⟩, ho₂⟩ := hruns
  obtain ⟨answer, rfl⟩ := exists_of_isOk ho₁
  obtain ⟨answer', rfl⟩ := exists_of_isOk ho₂
  have hlength : s₁.disk.keys.length = 1 := by rw [hkeys]; rfl
  have hstaged : NoStaged alice (view s₁.disk) := by
    intro name hname
    obtain ⟨suffix, hsuffix, rfl⟩ := artifactName_of_parse hname
    have hne := (endsIn_artifactName .staged alice hsuffix).ne_filename alice
    refine AList.lookup_eq_none.mpr fun hmem => hne ?_
    rwa [AList.mem_keys, hkeys, List.mem_singleton] at hmem
  refine ⟨answer, s₁, answer', s₂, h₁, h₂, ?_⟩
  exact mode1_transactions_crash_consistent copyBackend 2 _ _ rfl s₁ s₂ _
    ⟨acceptable_of_kept copyBackend (kept_aliceAppends h₁ hp₁), hlength ▸ (by decide)⟩
    (fun _ _ => ⟨hstaged, .inl markerFree_alice⟩) (Prog.steps_of_run (fun _ _ => trivial) h₂)

/-- A staged record is left behind by an append that fails, and a scan would accept the directory; the same append
then runs to its end, and the next scan refuses the directory, where the replaced record is nowhere to be found. -/
theorem stranded_stage_breaks_crash_consistency : ({} : Choice).FaultFree ∧
    ∃ answer s₁ e s₂ answer' s₃ s₄ pre, aliceAppends = some (.ok answer, s₁) ∧
      strandedAppend s₁ = some (.error e, s₂) ∧ s₂.poisoned = false ∧ Valid copyBackend s₂.disk ∧
      repeatedAppend s₂ = some (.ok answer', s₃) ∧
      (scanOuterHeaders copyBackend).run.run (List.replicate 90 {}) { disk := s₃.disk } =
      some (.error .corrupt, s₄) ∧
      activeFile s₂.disk alice = some pre ∧ ∀ name, s₄.disk.lookup name ≠ some pre := by
  refine ⟨⟨rfl, fun _ => rfl, rfl⟩, ?_⟩
  have hruns : (aliceAppends.bind fun x₁ => (strandedAppend x₁.2).bind fun x₂ =>
      (repeatedAppend x₂.2).bind fun x₃ =>
      ((scanOuterHeaders copyBackend).run.run (List.replicate 90 {}) { disk := x₃.2.disk }).map fun x₄ =>
        ((x₁.1.isOk, x₁.2.poisoned), (x₂.1.isOk, x₂.2.poisoned, x₂.2.disk.keys.length), x₃.1.isOk,
          decide (x₄.1 = .error .corrupt), (activeFile x₂.2.disk alice).isSome,
          x₄.2.disk.entries.all fun entry => some entry.2 ≠ activeFile x₂.2.disk alice)) =
        some ((true, false), (false, false, 2), true, true, true, true) := by decide +kernel
  simp only [Option.bind_eq_some_iff, Option.map_eq_some_iff, Prod.exists, Prod.mk.injEq,
    decide_eq_true_eq] at hruns
  obtain ⟨r₁, s₁, h₁, r₂, s₂, h₂, r₃, s₃, h₃, r₄, s₄, h₄, ⟨ho₁, hp₁⟩, ⟨ho₂, hp₂, hlength⟩, ho₃, hr₄,
    hsome, hall⟩ := hruns
  subst hr₄
  obtain ⟨pre, hpre⟩ := Option.isSome_iff_exists.mp hsome
  obtain ⟨answer, rfl⟩ := exists_of_isOk ho₁
  obtain ⟨e, rfl⟩ := exists_error_of_isOk ho₂
  obtain ⟨answer', rfl⟩ := exists_of_isOk ho₃
  have hkept := kept_call (m := .append (aliceRequest 2 1)) (kept_aliceAppends h₁ hp₁) rfl h₂ hp₂
    (fun _ => markerFree_alice) (by intro h; cases h)
  refine ⟨answer, s₁, e, s₂, answer', s₃, s₄, pre, h₁, h₂, hp₂,
    ⟨acceptable_of_kept copyBackend hkept, hlength ▸ (by decide)⟩, h₃, h₄, hpre, fun name hname => ?_⟩
  have hmem := List.all_eq_true.mp hall ⟨name, pre⟩ (AList.mem_lookup_iff.mp hname)
  rw [hpre] at hmem
  simp at hmem

end Howy.Storage.Mode1Crash
