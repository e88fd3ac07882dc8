import Howy.Storage.Mode1Leftovers

namespace Howy.Storage.Mode1Restart

open Library Function Mode1 Mode1Faults

variable (backend : Mode1StorageBackend)

section

structure Mutates (m : Mutation) (r : BackendResult Answer) (s s' : Shared Directory) : Prop where
  ran : ∃ n call choices, Call.mutation call = some m ∧
    (Call.op backend (files backend) n call).run.run choices s = some (r, s')
  serving : s'.poisoned = false

structure Tidy (m : Mutation) (r : BackendResult Answer) (s : Shared Directory) : Prop where
  markerFree : Writes m → MarkerFree (username m)
  unstaged : r.isOk = true → NoStaged (username m) (view s.disk)

def TidyStep (s s' : Shared Directory) : Prop := ∃ m r, Mutates backend m r s s' ∧ Tidy m r s

def Unreadable (u : CanonicalUsername) (node : Option FileNode) : Prop :=
  recordStatus (inspectNode backend u node) = .ok (some .corrupt)

variable {backend} in
lemma not_unreadable {u : CanonicalUsername} {node : Option FileNode} {i : Option InspectedRecord}
    (h : inspectNode backend u node = .ok i) : ¬ Unreadable backend u node := by
  rw [Unreadable, h]
  cases i <;> intro h <;> cases h

variable {backend}

lemma kept_run {s₀ s : Shared Directory} (h : Relation.ReflTransGen (TidyStep backend) s₀ s) :
    Kept backend (view s₀.disk) (view s.disk) := by
  induction h with
  | refl => exact Kept.refl backend _
  | tail _ hstep ih =>
    obtain ⟨m, r, ⟨⟨n, call, choices, hm, hrun⟩, hserving⟩, htidy⟩ := hstep
    exact kept_call ih hm hrun hserving htidy.markerFree htidy.unstaged

lemma serving_run {s₀ s : Shared Directory} (hserving : s₀.poisoned = false)
    (h : Relation.ReflTransGen (TidyStep backend) s₀ s) : s.poisoned = false := by
  cases h with
  | refl => exact hserving
  | tail _ hstep =>
    obtain ⟨_, _, hm, -⟩ := hstep
    exact hm.serving

end

structure Blames {α : Type} (A : Choice → Prop) (w : View) (r : BackendResult α)
    (s : Shared Directory) : Prop where
  poisoned : s.poisoned = true → Faulty A ∨ ∃ name, Lethal backend w name
  corrupt : r = .error .corrupt → Faulty A ∨ ∃ name, Lethal backend w name ∨ Junk w name

section

variable {backend} {A : Choice → Prop} {s : Shared Directory}

lemma safe_scan (hserving : s.poisoned = false) : Safe (quietly A (Swept backend (view s.disk)))
      (fun r s' => Blames backend A (view s.disk) r s' ∧
        ∀ records, r = .ok records → ∀ status ∈ records, Told backend A (view s.disk) status)
      (scanOuterHeaders backend).run s := by
  apply Safe.weaken (moves_scanOuterHeaders backend s s.disk rfl)
  intro r s' hr
  cases r with
  | ok records =>
    obtain ⟨d, rfl, -, htold⟩ := hr
    refine ⟨⟨fun hp => ?_, fun h => by cases h⟩, ?_⟩
    · rw [hserving] at hp
      cases hp
    · rintro _ ⟨⟩
      exact htold
  | error e =>
    refine ⟨?_, fun records h => by cases h⟩
    rcases hr with ⟨d, rfl, -, hexplained⟩ | ⟨⟨-, hdeadly⟩, -⟩
    · refine ⟨fun hp => ?_, fun h => ?_⟩
      · rw [hserving] at hp
        cases hp
      cases h
      cases hexplained with
      | fault h => exact .inl h
      | corrupt h => exact .inr ⟨_, h⟩
    · exact ⟨fun _ => hdeadly, fun _ => hdeadly.imp_right fun ⟨name, h⟩ => ⟨name, .inl h⟩⟩

lemma safe_reload {n : ℕ} (hserving : s.poisoned = false) :
    Safe (quietly A (Swept backend (view s.disk))) (Blames backend A (view s.disk))
      (Mode1.reload (files backend) n).run s := by
  have hQ : Swept backend (view s.disk) (view s.disk) := Swept.refl backend _
  have hbody (t : Shared Directory) (hdisk : t.disk = s.disk) (hpoisoned : t.poisoned = false) :
      Safe (quietly A (Swept backend (view s.disk))) (Blames backend A (view s.disk)) (do
        ensureAvailable
        cacheClear
        (files backend).scanOuterHeaders : Op Directory _).run t := by
    have hQt : Swept backend (view s.disk) (view t.disk) := hdisk ▸ hQ
    apply safe_bindE
    apply safe_action
    intro c _
    refine ⟨trivial, hQt, ?_⟩
    rintro _ rfl _
    dsimp only
    rw [hpoisoned]
    apply safe_bindE
    apply safe_action
    intro c _
    refine ⟨trivial, hQt, ?_⟩
    rintro _ rfl _
    rw [← hdisk]
    exact (safe_scan (s := { t with cache := t.cache.clear }) hpoisoned).weaken fun r s' h => h.1
  apply safe_guarded
  apply safe_atomic
  intro c x s' _ hf
  rw [Bool.false_and, if_neg Bool.false_ne_true] at hf
  split at hf
  · cases hf
    refine ⟨trivial, hQ, ?_⟩
    rintro _ rfl _
    apply Safe.weaken ((hbody { s with writer := some n } rfl hserving).with_inv hQ)
    rintro r s' ⟨hr, hi⟩
    refine ⟨trivial, hi, ?_⟩
    rintro _ rfl _
    exact ⟨hr.poisoned, hr.corrupt⟩
  · cases hf

lemma forM_readiness {records : List OuterRecordStatus} (h : records.forM readiness = .error .corrupt) :
    ∃ status ∈ records, status.classification = .corrupt := by
  induction records with
  | nil => cases h
  | cons status records ih =>
    change (readiness status >>= fun _ => records.forM readiness) = _ at h
    cases hstatus : readiness status with
    | ok _ =>
      rw [hstatus] at h
      obtain ⟨status', hmem, hs⟩ := ih h
      exact ⟨status', List.mem_cons_of_mem _ hmem, hs⟩
    | error e =>
      rw [hstatus] at h
      cases h
      refine ⟨status, List.mem_cons_self, ?_⟩
      rw [readiness] at hstatus
      split at hstatus <;> first | assumption | cases hstatus

lemma safe_newWithSources (hserving : s.poisoned = false) :
    Safe (quietly A (Swept backend (view s.disk))) (fun r s' =>
      (s'.poisoned → Faulty A ∨ ∃ name, Lethal backend (view s.disk) name) ∧
      (r = .error .corrupt → Faulty A ∨ (∃ name, Lethal backend (view s.disk) name ∨ Junk (view s.disk) name) ∨
        ∃ u, Unreadable backend u (view s.disk (filename u)))) (newWithSources backend).run s := by
  apply safe_bindE
  apply Safe.weaken (safe_scan hserving)
  intro r s' ⟨hblames, htold⟩
  cases r with
  | error e => exact ⟨hblames.poisoned, fun h => (hblames.corrupt (by cases h; rfl)).imp_right .inl⟩
  | ok records =>
    refine ⟨hblames.poisoned, fun h => ?_⟩
    obtain ⟨status, hmem, hs⟩ := forM_readiness h
    rcases htold records rfl status hmem with hf | ht
    · exact .inl hf
    · exact .inr (.inr ⟨status.username, by rw [Unreadable, ht, hs]⟩)

end

def Misplaced (d₀ d : Directory) : Prop :=
  ∃ name, d.lookup name = d₀.lookup name ∧ (Lethal backend (view d₀) name ∨ Junk (view d₀) name)

/-- A reload or a construction without faults poisons the backend, or calls the directory corrupt, only for what
was there at the start. -/
structure RestartsCleanly (s₀ s : Shared Directory) : Prop where
  reload : ∀ n choices r s', (∀ c ∈ choices, Choice.FaultFree c) →
    (Mode1.reload (files backend) n).run.run choices s = some (r, s') →
    s'.poisoned = true ∨ r = .error .corrupt → Misplaced backend s₀.disk s.disk
  construction : ∀ choices r s', (∀ c ∈ choices, Choice.FaultFree c) →
    (newWithSources backend).run.run choices { disk := s.disk } = some (r, s') →
    s'.poisoned = true ∨ r = .error .corrupt → Misplaced backend s₀.disk s.disk ∨
      ∃ u, activeFile s.disk u = activeFile s₀.disk u ∧ Unreadable backend u (activeFile s₀.disk u)

lemma not_faulty : ¬ Faulty Choice.FaultFree := fun ⟨_, hc, hn⟩ => hn hc

variable {backend} in
lemma misplaced_of_bad {d₀ d : Directory} (hkept : Kept backend (view d₀) (view d))
    (hclean : ∀ name u, parseTransactionArtifact name stagedMarker = some u → d₀.lookup name = none) {name : Name}
    (h : Lethal backend (view d) name ∨ Junk (view d) name) : Misplaced backend d₀ d := by
  rcases hkept.blameless name with hsame | hbenign
  · refine ⟨name, hsame, ?_⟩
    rcases h with ⟨node, hnode, hbad⟩ | ⟨node, hnode, hbad⟩
    · rw [hsame] at hnode
      refine .inl ⟨node, hnode, ?_⟩
      rcases hbad with hbad | hbad | ⟨-, u, hu, -⟩
      · exact .inl hbad
      · exact .inr (.inl hbad)
      -- nothing staged was there at the start
      have hnone : view d₀ name = none := hclean name u hu
      rw [hnone] at hnode
      cases hnode
    · exact .inr ⟨node, hsame ▸ hnode, hbad⟩
  · rcases h with h | h
    · exact absurd h hbenign.1
    · exact absurd h hbenign.2

theorem mode1_leftovers_restart_cleanly (s₀ s : Shared Directory) (hserving : s₀.poisoned = false)
    (hclean : ∀ name marker, (parseTransactionArtifact name (Marker.bytes marker)).isSome = true →
      s₀.disk.lookup name = none)
    (hrun : Relation.ReflTransGen (TidyStep backend) s₀ s) : RestartsCleanly backend s₀ s := by
  have hkept := kept_run hrun
  have hstaged : ∀ name u, parseTransactionArtifact name stagedMarker = some u → s₀.disk.lookup name = none :=
    fun name u hu => hclean name .staged (Option.isSome_iff_exists.mpr ⟨u, hu⟩)
  have hswept {s : Shared Directory} : Swept backend (view s.disk) (view s.disk) := Swept.refl backend _
  constructor
  · intro n choices r s' hfree hr hbad
    obtain ⟨hblames, -⟩ := post_of_run (safe_reload (serving_run hserving hrun)) hswept hfree hr
    rcases hbad with hp | hc
    · obtain ⟨name, h⟩ := (hblames.poisoned hp).resolve_left not_faulty
      exact misplaced_of_bad hkept hstaged (.inl h)
    · obtain ⟨name, h⟩ := (hblames.corrupt hc).resolve_left not_faulty
      exact misplaced_of_bad hkept hstaged h
  · intro choices r s' hfree hr hbad
    obtain ⟨⟨hpoisoned, hcorrupt⟩, -⟩ := post_of_run (safe_newWithSources rfl) hswept hfree hr
    rcases hbad with hp | hc
    · obtain ⟨name, h⟩ := (hpoisoned hp).resolve_left not_faulty
      exact .inl (misplaced_of_bad hkept hstaged (.inl h))
    rcases (hcorrupt hc).resolve_left not_faulty with ⟨name, h⟩ | ⟨u, hu⟩
    · exact .inl (misplaced_of_bad hkept hstaged h)
    · have hsame := (hkept.records u).resolve_right fun ⟨i, hi⟩ => not_unreadable hi hu
      rw [hsame] at hu
      exact .inr ⟨u, hsame, hu⟩

theorem mode1_leftovers_restart_cleanly_alice : ∃ answer s, aliceAppends = some (.ok answer, s) ∧
    RestartsCleanly copyBackend { disk := ∅ } s := by
  have hok : aliceAppends.map (fun x => (x.1.isOk, x.2.poisoned)) = some (true, false) := by decide +kernel
  obtain ⟨⟨r, s⟩, hrun, hr⟩ := Option.map_eq_some_iff.mp hok
  obtain ⟨ho, hp⟩ := Prod.mk.inj hr
  obtain ⟨answer, rfl⟩ := exists_of_isOk ho
  refine ⟨answer, s, hrun, mode1_leftovers_restart_cleanly copyBackend _ _ rfl (fun _ _ _ => rfl) (.single ?_)⟩
  exact ⟨.append (aliceRequest 1 0), .ok answer, ⟨⟨0, _, _, rfl, hrun⟩, hp⟩,
    fun _ => markerFree_alice, fun _ _ _ => rfl⟩

/-- An append that fails leaves a staged record; the same append, without a fault, succeeds; the next reload is
poisoned. -/
theorem stranded_stage_poisons_reload : freshSuffix.FaultFree ∧ ({} : Choice).FaultFree ∧
    ∃ answer s₁ e s₂ answer' s₃ s₄, aliceAppends = some (.ok answer, s₁) ∧
      strandedAppend s₁ = some (.error e, s₂) ∧ s₂.poisoned = false ∧
      repeatedAppend s₂ = some (.ok answer', s₃) ∧ s₃.poisoned = false ∧
      (Mode1.reload (files copyBackend) 3).run.run (List.replicate 90 {}) s₃ = some (.error .corrupt, s₄) ∧
      s₄.poisoned = true := by
  refine ⟨⟨rfl, fun _ => rfl, rfl⟩, ⟨rfl, fun _ => rfl, rfl⟩, ?_⟩
  have hruns : (aliceAppends.bind fun x₁ => (strandedAppend x₁.2).bind fun x₂ =>
      (repeatedAppend x₂.2).bind fun x₃ =>
      ((Mode1.reload (files copyBackend) 3).run.run (List.replicate 90 {}) x₃.2).map fun x₄ =>
        ((x₁.1.isOk, x₂.1.isOk, x₂.2.poisoned), (x₃.1.isOk, x₃.2.poisoned), decide (x₄.1 = .error .corrupt),
          x₄.2.poisoned)) = some ((true, false, false), (true, false), true, true) := by decide +kernel
  simp only [Option.bind_eq_some_iff, Option.map_eq_some_iff, Prod.exists, Prod.mk.injEq,
    decide_eq_true_eq] at hruns
  obtain ⟨r₁, s₁, h₁, r₂, s₂, h₂, r₃, s₃, h₃, r₄, s₄, h₄, ⟨ho₁, ho₂, hp₂⟩, ⟨ho₃, hp₃⟩, hr₄, hp₄⟩ := hruns
  subst hr₄
  obtain ⟨answer, rfl⟩ := exists_of_isOk ho₁
  obtain ⟨e, rfl⟩ := exists_error_of_isOk ho₂
  obtain ⟨answer', rfl⟩ := exists_of_isOk ho₃
  exact ⟨answer, s₁, e, s₂, answer', s₃, s₄, h₁, h₂, hp₂, h₃, hp₃, h₄, hp₄⟩

end Howy.Storage.Mode1Restart
