import Howy.Security.AtomicSteps

namespace Howy.Security.Reconciliation

open Library Storage Provisioning

variable {sha256 : Sha256} {plan : AtomicWritePlanV1} {s : AtomicFileIdentityV1} {w x y : World} {path : Path}

lemma stopped_commit (h : Stopped (commitAtomicStage sha256 plan s) x y) : y = x ∨ Renames plan x y := by
  obtain ⟨q, hq⟩ := h
  exact (triple_commitAtomicStage.steps (.inl rfl) rfl hq).1

lemma stopped_reconcile (h : Stopped (reconcileAtomicWrite sha256 plan (some s)) x y) :
    y = x ∨ Removes sha256 plan s x y := by
  obtain ⟨q, hq⟩ := h
  exact (triple_reconcileAtomicWrite.steps (.inl rfl) rfl hq).1

def Holds (sha256 : Sha256) : AtomicExpectedTargetV1 → Option Node → Prop
  | .absent, none => True
  | .present identity, some node =>
    atomicIdentity sha256 node.bytes node = identity ∧ node.bytes.length = identity.byteLength.toNat
  | _, _ => False

def backupOf : AtomicExpectedTargetV1 → Option AtomicFileIdentityV1
  | .absent => none
  | .present identity => some identity

lemma operation_cases (h : plan.validateOperation = .ok ()) :
    plan.operation = .noReplace ∧ plan.expectedTarget = .absent ∨
      plan.operation = .exchange ∧ ∃ old, plan.expectedTarget = .present old ∧ old.validate = .ok () := by
  rw [AtomicWritePlanV1.validateOperation] at h
  split at h
  next hoperation hexpected _ =>
    exact .inl ⟨hoperation, hexpected⟩
  next old _ hoperation hexpected _ =>
    exact .inr ⟨hoperation, old, hexpected, (then_eq_ok.mp h).1⟩
  · cases h

structure Staged (sha256 : Sha256) (plan : AtomicWritePlanV1) (s : AtomicFileIdentityV1)
    (x y : World) (node : Node) : Prop where
  created : Created sha256 plan s x y
  holds : Holds sha256 plan.expectedTarget (y.files.lookup (located plan.targetPath))
  same : y.files.lookup (located plan.targetPath) = x.files.lookup (located plan.targetPath)
  unlinked : y.unlinked = x.unlinked
  directories : SameDirectories x y
  stage : y.files.lookup (located plan.stagingPath) = some node
  kind : node.kind = .regularFile
  nlink : node.nlink = 1
  length : node.bytes.length ≤ plan.byteLength.toNat
  identity : atomicIdentity sha256 node.bytes node = s
  fresh : identityAt sha256 y (located plan.targetPath) ≠ some s

lemma staged_of_created (h : Created sha256 plan s x y)
    (hholds : Holds sha256 plan.expectedTarget (x.files.lookup (located plan.targetPath))) :
    ∃ node, Staged sha256 plan s x y node := by
  obtain ⟨-, node, hfresh, hy, hkind, hnlink, hlength, hidentity⟩ := h.completed
  have hne := (sound_of_validate h.valid).stage_ne
  have hsame : y.files.lookup (located plan.targetPath) = x.files.lookup (located plan.targetPath) := by
    rw [hy]
    exact AList.lookup_insert_ne hne.symm
  have hstage : y.files.lookup (located plan.stagingPath) = some node := by
    rw [hy]
    exact AList.lookup_insert _
  refine ⟨node, h, hsame ▸ hholds, hsame, by rw [hy], by rw [hy]; rfl, hstage, hkind, hnlink,
    hlength, hidentity, ?_⟩
  intro htarget
  rw [identityAt, hsame, Option.map_eq_some_iff] at htarget
  obtain ⟨other, hother, hs⟩ := htarget
  rw [← hidentity] at hs
  exact hfresh _ other hother ⟨congrArg AtomicFileIdentityV1.deviceId hs, congrArg AtomicFileIdentityV1.inode hs⟩

variable {node : Node}

lemma identity_of_holds {expected : AtomicExpectedTargetV1} {o : Option Node} (h : Holds sha256 expected o) :
    (o.map fun node => atomicIdentity sha256 node.bytes node) = backupOf expected := by
  cases expected with
  | absent =>
    cases o with
    | none => rfl
    | some node => exact h.elim
  | present identity =>
    cases o with
    | none => exact h.elim
    | some node => exact congrArg some h.1

lemma isExpectedTarget_backupOf (expected : AtomicExpectedTargetV1) :
    isExpectedTarget expected (backupOf expected) := by
  cases expected with
  | absent => rfl
  | present identity => exact beq_self_eq_true identity

abbrev maximumOf (plan : AtomicWritePlanV1) : ℕ := max plan.byteLength.toNat (expectedAtomicLength plan)

lemma observable_of_holds (hoperation : plan.validateOperation = .ok ())
    (h : Holds sha256 plan.expectedTarget (w.files.lookup path)) : Observable w path (maximumOf plan) := by
  intro node hnode
  rw [hnode] at h
  obtain ⟨-, hexpected⟩ | ⟨-, old, hexpected, hvalid⟩ := operation_cases hoperation
  · rw [hexpected] at h
    exact h.elim
  rw [hexpected] at h
  obtain ⟨hidentity, hlength⟩ := h
  obtain ⟨⟨-, -, hkind, -, hlink, -⟩, -⟩ := by
    simpa only [AtomicFileIdentityV1.validate, then_eq_ok, require_eq_ok] using hvalid
  rw [← hidentity] at hkind hlink
  refine ⟨hkind, hlink, hlength.le.trans ?_⟩
  rw [maximumOf, expectedAtomicLength, hexpected]
  exact le_max_right _ _

namespace Staged

section

variable (h : Staged sha256 plan s x y node)

include h

lemma sound : Sound plan := sound_of_validate h.created.valid

lemma validate_identity : s.validate = .ok () := asOperation_eq_ok.mp (then_eq_ok.mp h.created.completed.1).1

lemma matches_plan : newAtomicIdentityMatches plan s := require_eq_ok.mp (then_eq_ok.mp h.created.completed.1).2

lemma observable (hpath : w.files.lookup path = some node) : Observable w path (maximumOf plan) := by
  intro other hother
  rw [hpath] at hother
  cases hother
  exact ⟨h.kind, h.nlink, h.length.trans (le_max_left _ _)⟩

lemma sure_paths (hw : SameDirectories x w) :
    Sure Calm (openAtomicPaths plan) w (located plan.targetPath, located plan.stagingPath) :=
  sure_openAtomicPaths (h.created.opens w hw) h.sound h.created.splitStage

lemma renames (hw : Renames plan y w) : w.files.lookup (located plan.targetPath) = some node ∧
      w.files.lookup (located plan.stagingPath) = y.files.lookup (located plan.targetPath) ∧
      w.unlinked = y.unlinked ∧ SameDirectories y w := by
  obtain ⟨files, hfiles, rfl⟩ := hw
  have hne := h.sound.stage_ne
  obtain ⟨hoperation, hexpected⟩ | ⟨hoperation, old, hexpected, -⟩ := operation_cases h.sound.validateOperation
  · have hnone : y.files.lookup (located plan.targetPath) = none :=
      Option.map_eq_none_iff.mp ((identity_of_holds h.holds).trans (congrArg backupOf hexpected))
    rw [hoperation, renamedFiles, renameNoReplaceFiles, h.stage, hnone, Option.some.injEq] at hfiles
    subst hfiles
    refine ⟨AList.lookup_insert _, ?_, rfl, rfl⟩
    rw [hnone, AList.lookup_insert_ne hne, AList.lookup_erase]
  · obtain ⟨other, htarget, -⟩ :=
      Option.map_eq_some_iff.mp ((identity_of_holds h.holds).trans (congrArg backupOf hexpected))
    rw [hoperation, renamedFiles, exchangeFiles, h.stage, htarget, Option.some.injEq] at hfiles
    subst hfiles
    refine ⟨AList.lookup_insert _, ?_, rfl, rfl⟩
    rw [htarget, AList.lookup_insert_ne hne, AList.lookup_insert]

lemma validateForPlan : AtomicWriteObservationV1.validateForPlan ⟨s, backupOf plan.expectedTarget⟩
    plan = .ok () := by
  have hmatches := h.matches_plan
  rw [newAtomicIdentityMatches, decide_eq_true_eq] at hmatches
  obtain ⟨-, huid, hgid, hpermissions, -, hlength, hsha⟩ := hmatches
  simp only [AtomicWriteObservationV1.validateForPlan, then_eq_ok, require_eq_ok]
  refine ⟨h.created.valid, h.validate_identity, ⟨huid, hgid, hpermissions, hlength, hsha⟩, ?_⟩
  obtain ⟨-, hexpected⟩ | ⟨-, old, hexpected, hold⟩ := operation_cases h.sound.validateOperation
  · rw [hexpected]
    rfl
  · rw [hexpected]
    exact (if_pos rfl).trans hold

lemma committedObservation_eq :
    committedObservation plan s (backupOf plan.expectedTarget) = .ok ⟨s, backupOf plan.expectedTarget⟩ := by
  obtain ⟨hoperation, hexpected⟩ | ⟨hoperation, old, hexpected, -⟩ := operation_cases h.sound.validateOperation
  · rw [committedObservation, hoperation, hexpected]
    rfl
  · have hold := isExpectedTarget_backupOf (.present old)
    rw [committedObservation, hoperation, hexpected, hold]
    rfl

lemma returns_committed (hw : Renames plan y w) :
    Returns (reconcileAtomicWrite sha256 plan (some s)) w (.ok (.committed ⟨s, backupOf plan.expectedTarget⟩))
      fun z => z = w := by
  obtain ⟨htarget, hstage, -, hdirectories⟩ := h.renames hw
  have hholds := h.holds
  rw [← hstage] at hholds
  apply returns_of_total
  refine total_reconcileAtomicWrite (h.sure_paths (h.directories.trans hdirectories)) (h.observable htarget)
    (observable_of_holds h.sound.validateOperation hholds) ?_
  have hcommitted : identityAt sha256 w (located plan.targetPath) = some s := by
    rw [identityAt, htarget, Option.map_some, h.identity]
  have hbackup : identityAt sha256 w (located plan.stagingPath) = backupOf plan.expectedTarget :=
    identity_of_holds hholds
  rw [hcommitted, hbackup]
  refine total_after (sure_fromExcept h.created.completed.1) ?_
  rw [if_pos rfl]
  refine total_after (sure_fromExcept h.committedObservation_eq) ?_
  exact total_after (sure_adapt (sure_fromExcept (asOperation_eq_ok.mpr h.validateForPlan))) ⟨rfl, rfl⟩

lemma returns_notCommitted : Returns (reconcileAtomicWrite sha256 plan (some s)) y (.ok .notCommitted)
      fun z => Unlinks (located plan.stagingPath) y z := by
  have hlength : Observable y (located plan.stagingPath) s.byteLength.toNat := by
    have hmatches := h.matches_plan
    rw [newAtomicIdentityMatches, decide_eq_true_eq] at hmatches
    intro other hother
    rw [h.stage] at hother
    cases hother
    rw [hmatches.2.2.2.2.2.1]
    exact ⟨h.kind, h.nlink, h.length⟩
  have hstaged : identityAt sha256 y (located plan.stagingPath) = some s := by
    rw [identityAt, h.stage, Option.map_some, h.identity]
  have hold : isExpectedTarget plan.expectedTarget (identityAt sha256 y (located plan.targetPath)) := by
    rw [identityAt, identity_of_holds h.holds]
    exact isExpectedTarget_backupOf _
  apply returns_of_total
  refine total_reconcileAtomicWrite (h.sure_paths h.directories)
    (observable_of_holds h.sound.validateOperation h.holds) (h.observable h.stage) ?_
  refine total_after (sure_fromExcept h.created.completed.1) ?_
  rw [if_neg h.fresh, if_pos ⟨hold, hstaged⟩]
  refine total_bindE (total_removeFileExact (h.created.opens y h.directories) h.sound h.created.splitStage
    h.validate_identity h.stage hlength h.identity fun z hz => ?_)
  exact ⟨rfl, hz⟩

lemma returns_uncertain (hw : Unlinks (located plan.stagingPath) y w) :
    Returns (reconcileAtomicWrite sha256 plan (some s)) w
      (.error (.uncertain "atomic recovery found target/stage identities outside the journaled plan"))
      fun z => z = w := by
  obtain ⟨hstage, hothers, hdirectories⟩ := hw.spec
  have hholds := h.holds
  have hfresh := h.fresh
  rw [identityAt] at hfresh
  rw [← hothers _ h.sound.stage_ne.symm] at hholds hfresh
  apply returns_of_total
  refine total_reconcileAtomicWrite (h.sure_paths (h.directories.trans hdirectories))
    (observable_of_holds h.sound.validateOperation hholds) ?_ ?_
  · intro other hother
    rw [hstage] at hother
    cases hother
  have hgone : identityAt sha256 w (located plan.stagingPath) = none := by rw [identityAt, hstage, Option.map_none]
  refine total_after (sure_fromExcept h.created.completed.1) ?_
  rw [identityAt, if_neg hfresh, hgone, if_neg fun hboth => Option.some_ne_none s hboth.2.symm]
  exact ⟨rfl, rfl⟩

lemma history_renamed {r : World} (hr : Renames plan y r)
    (hw : Relation.ReflTransGen (Stopped (reconcileAtomicWrite sha256 plan (some s))) r w) : w = r := by
  induction hw with
  | refl => rfl
  | tail _ hstopped ih =>
    subst ih
    rcases stopped_reconcile hstopped with hsame | ⟨hne, -, -⟩
    · exact hsame
    · rw [identityAt, (h.renames hr).1, Option.map_some, h.identity] at hne
      exact (hne rfl).elim

lemma history_staged (hw : Relation.ReflTransGen (Stopped (reconcileAtomicWrite sha256 plan (some s))) y w) :
    w = y ∨ Unlinks (located plan.stagingPath) y w := by
  induction hw with
  | refl => exact .inl rfl
  | tail _ hstopped ih =>
    rcases stopped_reconcile hstopped with hsame | ⟨-, hstage, hremoved⟩
    · rw [hsame]
      exact ih
    rcases ih with rfl | hunlinks
    · exact .inr hremoved
    · rw [identityAt, hunlinks.spec.1] at hstage
      cases hstage

end

end Staged

def OnlyStage (sha256 : Sha256) (plan : AtomicWritePlanV1) (s : AtomicFileIdentityV1) (x y : World) : Prop :=
  ∀ e ∈ y.unlinked, e ∈ x.unlinked ∨ e.1 = located plan.stagingPath ∧ atomicIdentity sha256 e.2.bytes e.2 = s

lemma onlyStage_of_eq (h : y.unlinked = x.unlinked) : OnlyStage sha256 plan s x y := fun _ he => .inl (h ▸ he)

lemma Staged.onlyStage (h : Staged sha256 plan s x y node) (hw : Unlinks (located plan.stagingPath) y w) :
    OnlyStage sha256 plan s x w := by
  obtain ⟨other, hother, rfl⟩ := hw
  rw [h.stage] at hother
  cases hother
  intro e he
  rcases List.mem_append.mp he with he | he
  · exact .inl (h.unlinked ▸ he)
  · cases List.mem_singleton.mp he
    exact .inr ⟨rfl, h.identity⟩

lemma staged_of_run {bytes : Bytes} {cs : List Choice}
    (htarget : Holds sha256 plan.expectedTarget (x.files.lookup (located plan.targetPath)))
    (hcreate : (createAtomicStage sha256 plan bytes).run.run cs x = some (.ok s, y)) :
    ∃ node, Staged sha256 plan s x y node :=
  staged_of_created (post_of_run (attains_createAtomicStage x trivial rfl) trivial (fun _ _ => trivial)
    hcreate).1 htarget

/-- A stage is created and recorded, a commit is stopped somewhere, and so is any number of reconciliations. The
next one tells whether the rename happened exactly as long as none of these has unlinked the stage. -/
theorem reconciliation_exact {bytes : Bytes} {cs : List Choice} {w₀ w₁ w₂ w : World}
    (htarget : Holds sha256 plan.expectedTarget (w₀.files.lookup (located plan.targetPath)))
    (hcreate : (createAtomicStage sha256 plan bytes).run.run cs w₀ = some (.ok s, w₁))
    (hcommit : Stopped (commitAtomicStage sha256 plan s) w₁ w₂)
    (hreconcile : Relation.ReflTransGen (Stopped (reconcileAtomicWrite sha256 plan (some s))) w₂ w) :
    OnlyStage sha256 plan s w₀ w ∧
      (w.unlinked = w₀.unlinked ↔
        Renames plan w₁ w₂ ∧
            Returns (reconcileAtomicWrite sha256 plan (some s)) w
              (.ok (.committed ⟨s, backupOf plan.expectedTarget⟩)) (fun y => y = w) ∨
          w₂ = w₁ ∧
            Returns (reconcileAtomicWrite sha256 plan (some s)) w (.ok .notCommitted) fun y =>
              y.files.lookup (located plan.targetPath) = w₀.files.lookup (located plan.targetPath) ∧
                y.files.lookup (located plan.stagingPath) = none ∧ OnlyStage sha256 plan s w₀ y) := by
  obtain ⟨node, h⟩ := staged_of_run htarget hcreate
  rcases stopped_commit hcommit with rfl | hrenames
  · rcases h.history_staged hreconcile with rfl | hunlinks
    · refine ⟨onlyStage_of_eq h.unlinked, iff_of_true h.unlinked (.inr ⟨rfl, fun choices hchoices => ?_⟩)⟩
      obtain ⟨n, y, hrun, hy⟩ := h.returns_notCommitted choices hchoices
      obtain ⟨hstage, hothers, -⟩ := hy.spec
      exact ⟨n, y, hrun, (hothers _ h.sound.stage_ne.symm).trans h.same, hstage, h.onlyStage hy⟩
    -- an earlier reconciliation has unlinked the stage: the log has grown, and the call returns an error
    have huncertain := h.returns_uncertain hunlinks
    refine ⟨h.onlyStage hunlinks, iff_of_false ?_ ?_⟩
    · obtain ⟨other, -, rfl⟩ := hunlinks
      intro hkept
      have hlength := congrArg List.length (hkept.trans h.unlinked.symm)
      rw [List.length_append, List.length_singleton] at hlength
      omega
    · rintro (⟨-, hreturns⟩ | ⟨-, hreturns⟩) <;> cases huncertain.unique hreturns
  · obtain rfl := h.history_renamed hrenames hreconcile
    obtain ⟨-, -, hunlinked, -⟩ := h.renames hrenames
    have hsame := hunlinked.trans h.unlinked
    exact ⟨onlyStage_of_eq hsame, iff_of_true hsame (.inl ⟨hrenames, h.returns_committed hrenames⟩)⟩

def sampleSha256 : Sha256 := fun _ => .filled 32 0

def samplePlan : AtomicWritePlanV1 where
  schemaVersion := 1
  transactionId := "txn-00000000000000000000000000000000"
  targetPath := "/etc/howy/config.toml"
  parentDirectory := ⟨"/etc/howy", .directory, 1, 2, 0, 0, 0o700, 1⟩
  expectedTarget := .absent
  stagingPath :=
    "/etc/howy/.howy-txn-00000000000000000000000000000000-config.toml-" ++
      "0000000000000000000000000000000000000000000000000000000000000000.stage"
  backupPath := none
  uid := 0
  gid := 0
  permissions := 0o600
  timestamps := none
  bytesSha256 := ⟨"0000000000000000000000000000000000000000000000000000000000000000"⟩
  byteLength := 1
  operation := .noReplace

def sampleWorld : World := ⟨∅, fun _ => some ⟨.directory, 1, 2, 0, 0, 0o700, 1⟩, [], true⟩

def sampleIdentity : AtomicFileIdentityV1 := ⟨1, 1, .regularFile, 0, 0, 0o600, 1, 1, samplePlan.bytesSha256⟩

lemma holds_sample :
    Holds sampleSha256 samplePlan.expectedTarget (sampleWorld.files.lookup (located samplePlan.targetPath)) :=
  trivial

lemma created_sample : ∃ y, (createAtomicStage sampleSha256 samplePlan [7]).run.run
    (List.replicate 64 {}) sampleWorld = some (.ok sampleIdentity, y) := by
  have h : ((createAtomicStage sampleSha256 samplePlan [7]).run.run (List.replicate 64 {})
      sampleWorld).map Prod.fst = some (.ok sampleIdentity) := by
    decide +kernel
  obtain ⟨⟨r, y⟩, hrun, rfl⟩ := Option.map_eq_some_iff.mp h
  exact ⟨y, hrun⟩

/-- The commit renames and is not recorded, and so is a first reconciliation; the second one tells the same. -/
theorem reconciliation_exact_sample : ∃ w₁ r w₂ r' w,
    (createAtomicStage sampleSha256 samplePlan [7]).run.run (List.replicate 64 {}) sampleWorld =
      some (.ok sampleIdentity, w₁) ∧
    (commitAtomicStage sampleSha256 samplePlan sampleIdentity).run.run (List.replicate 64 {}) w₁ = some (r, w₂) ∧
    (reconcileAtomicWrite sampleSha256 samplePlan (some sampleIdentity)).run.run (List.replicate 64 {}) w₂ =
      some (r', w) ∧
    Returns (reconcileAtomicWrite sampleSha256 samplePlan (some sampleIdentity)) w
      (.ok (.committed ⟨sampleIdentity, none⟩)) fun y => y = w := by
  obtain ⟨w₁, hcreate⟩ := created_sample
  have hruns : (((createAtomicStage sampleSha256 samplePlan [7]).run.run (List.replicate 64 {}) sampleWorld).bind
      fun x =>
      ((commitAtomicStage sampleSha256 samplePlan sampleIdentity).run.run (List.replicate 64 {}) x.2).bind fun y =>
      ((reconcileAtomicWrite sampleSha256 samplePlan (some sampleIdentity)).run.run (List.replicate 64 {}) y.2).map
        fun z => (z.2.unlinked.length, (x.2.files.lookup (located samplePlan.targetPath)).isSome,
          (y.2.files.lookup (located samplePlan.targetPath)).isSome)) = some (0, false, true) := by decide +kernel
  simp only [hcreate, Option.bind_some, Option.bind_eq_some_iff, Option.map_eq_some_iff, Prod.exists,
    Prod.mk.injEq] at hruns
  obtain ⟨r, w₂, hcommit, r', w, hreconcile, hkept, habsent, hpresent⟩ := hruns
  obtain ⟨-, hexact⟩ := reconciliation_exact holds_sample hcreate
    ⟨_, Prog.steps_of_run (fun _ _ => trivial) hcommit⟩
    (.single ⟨_, Prog.steps_of_run (fun _ _ => trivial) hreconcile⟩)
  rcases hexact.mp (List.length_eq_zero_iff.mp hkept) with ⟨-, hreturns⟩ | ⟨rfl, -⟩
  · exact ⟨w₁, r, w₂, r', w, hcreate, hcommit, hreconcile, hreturns⟩
  · rw [habsent] at hpresent
    cases hpresent

/-- The first reconciliation unlinks the stage; if it ends before that is recorded, the second one refuses. -/
theorem reconciliation_repeated_uncertain : ∃ y z,
    Holds sampleSha256 samplePlan.expectedTarget (sampleWorld.files.lookup (located samplePlan.targetPath)) ∧
    (createAtomicStage sampleSha256 samplePlan [7]).run.run (List.replicate 64 {}) sampleWorld =
      some (.ok sampleIdentity, y) ∧
    Stopped (commitAtomicStage sampleSha256 samplePlan sampleIdentity) y y ∧
    Stopped (reconcileAtomicWrite sampleSha256 samplePlan (some sampleIdentity)) y z ∧
    Returns (reconcileAtomicWrite sampleSha256 samplePlan (some sampleIdentity)) z
      (.error (.uncertain "atomic recovery found target/stage identities outside the journaled plan"))
      fun z' => z' = z := by
  obtain ⟨y, hcreate⟩ := created_sample
  obtain ⟨node, h⟩ := staged_of_run holds_sample hcreate
  obtain ⟨n, z, hrun, hunlinks⟩ := h.returns_notCommitted (fun _ => {}) fun _ => rfl
  exact ⟨y, z, holds_sample, hcreate, ⟨_, .refl _ _⟩, ⟨_, Prog.steps_of_run (fun _ _ => trivial) hrun⟩,
    h.returns_uncertain hunlinks⟩

end Howy.Security.Reconciliation
