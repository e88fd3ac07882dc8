import Howy.Storage.Mode1Atomicity

namespace Howy.Storage.Mode1

open Library Function

variable (backend : Mode1StorageBackend) {u : CanonicalUsername} {count : ℕ} {d : Directory}

def entryClass (name : Name) (node : FileNode) : NamespaceEntryClassification :=
  classifyMode1NamespaceEntry name node.kind node.nlink

def PreExchange (w : View) (name : Name) (u : CanonicalUsername) : Prop :=
  ∃ staged active, inspectNode backend u (w name) = .ok (some staged) ∧
    inspectNode backend u (w (filename u)) = .ok (some active) ∧
    checkedNextGeneration active.header.recordGeneration = .ok staged.header.recordGeneration

def Stale (w : View) (name : Name) : Prop :=
  ∃ node, w name = some node ∧ (entryClass name node = .temporary ∨
    entryClass name node = .staged ∧ ∃ u, parseTransactionArtifact name stagedMarker = some u ∧
      PreExchange backend w name u)

def Lethal (w : View) (name : Name) : Prop :=
  ∃ node, w name = some node ∧ (entryClass name node = .clear ∨ entryClass name node = .rollback ∨
    entryClass name node = .staged ∧ ∃ u, parseTransactionArtifact name stagedMarker = some u ∧
      ¬ PreExchange backend w name u)

def Junk (w : View) (name : Name) : Prop :=
  ∃ node, w name = some node ∧ entryClass name node ∈
    [NamespaceEntryClassification.symlink, .directory, .hardlink, .nonUtf8, .unknown]

def Swept (w v : View) : Prop := ∀ name, v name = w name ∨ (v name = none ∧ Stale backend w name)

lemma Swept.refl (w : View) : Swept backend w w := fun _ => .inl rfl

variable {node : FileNode} {bad : StorageBackendError → View → Prop}

section

variable {backend} {w v : View} {name : Name}

lemma Swept.unlink (h : Swept backend w v) (hs : Stale backend w name) : Swept backend w (update v name none) := by
  intro x
  rw [update_apply]
  split
  next hx =>
    exact .inr ⟨rfl, hx ▸ hs⟩
  · exact h x

lemma classifyName_of_entryClass {c : NamespaceEntryClassification} (h : entryClass name node = c)
    (hc : c ∉ [NamespaceEntryClassification.symlink, .directory, .hardlink, .nonUtf8, .unknown]) :
    classifyName name = c := by
  simp only [entryClass, classifyMode1NamespaceEntry] at h
  split at h
  · subst h
    simp at hc
  · subst h
    simp at hc
  · subst h
    simp at hc
  · subst h
    simp at hc
  · split at h
    · subst h
      simp at hc
    · exact h

lemma Stale.ne_filename (h : Stale backend w name) (u : CanonicalUsername) : name ≠ filename u := by
  rintro rfl
  obtain ⟨node, -, h | ⟨h, -⟩⟩ := h
  · have := classifyName_of_entryClass h (by simp)
    rw [classifyName_eq_authoritative.mpr rfl] at this
    cases this
  · have := classifyName_of_entryClass h (by simp)
    rw [classifyName_eq_authoritative.mpr rfl] at this
    cases this

lemma Swept.active (h : Swept backend w v) (u : CanonicalUsername) : v (filename u) = w (filename u) := by
  rcases h (filename u) with h | ⟨-, hs⟩
  · exact h
  · exact absurd rfl (hs.ne_filename u)

end

variable {α : Type} {A : Choice → Prop} {Q : View → Prop} {v : View} {good : α → View → Prop}
  {bad : StorageBackendError → View → Prop} {fatal : StorageBackendError → Prop}

lemma calm_faulty : Calm A false (Faulty A) := by
  by_cases h : Faulty A
  · exact .inl h
  · refine .inr ⟨rfl, fun c hc => ?_⟩
    by_contra hfree
    exact h ⟨c, hc, hfree⟩

lemma moves_looks {x : BackendResult α} {p : Op Directory α}
    (h : Reports A (fun s : Shared Directory => view s.disk = v) (Faulty A) x p) (hQ : Q v)
    (hgood : ∀ a, x = .ok a → good a v) (hbad : ∀ e, x = .error e ∨ Faulty A → bad e v) :
    Moves A Q v good bad fatal p := by
  refine moves_of_within h hQ (fun a ha => ?_) fun e he => ?_
  · rcases ha with rfl | ⟨e, -, he⟩
    · exact hgood a rfl
    · cases he
  · rcases he with rfl | ⟨-, hf, -⟩
    · exact hbad e (.inl rfl)
    · exact hbad e (.inr hf)

lemma moves_captured_looks {β : Type} {x : BackendResult α} {p : Op Directory α}
    {k : BackendResult α → Op Directory β}
    {good : β → View → Prop} (h : Reports A (fun s : Shared Directory => view s.disk = v)
      (Faulty A) x p) (hQ : Q v)
    (hk : ∀ r, (x = r ∨ Faulty A) → (∀ a, r = .ok a → x = .ok a) → Moves A Q v good bad fatal (k r)) :
    Moves A Q v good bad fatal (captured p >>= k) := by
  refine (moves_captured (G := fun a w => w = v ∧ x = .ok a) (B := fun e w => w = v ∧ (x = .error e ∨ Faulty A))
    (moves_looks h hQ (fun a ha => ⟨rfl, ha⟩) fun e he => ⟨rfl, he⟩)).bind ?_
  intro r w hr
  cases r with
  | ok a =>
    obtain ⟨rfl, ha⟩ := hr
    exact hk _ (.inl ha) fun _ h => h ▸ ha
  | error e =>
    obtain ⟨rfl, he⟩ := hr
    exact hk _ he nofun

lemma reports_inspectName {name : Name} :
    Reports A (fun s : Shared Directory => view s.disk = v) (Faulty A) (inspectNode backend u (v name))
      (inspectNamedRecord backend (·.lookup name) u false) :=
  Within.restrict (reports_inspectNamedRecord backend calm_faulty (fun d : Directory => d.lookup name) u)
    fun _ hs => congrFun hs name

lemma reports_inspectActive :
    Reports A (fun s : Shared Directory => view s.disk = v) (Faulty A) (inspectNode backend u (v (filename u)))
      (inspectRecord backend activeFile u false) :=
  (reports_checkCancelled calm_faulty).ok_bind (reports_inspectName backend)

variable {w : View} {name : Name}

lemma moves_stagedWriteIsPreExchange (hQ : Q v) :
    Moves A Q v (fun r w' => w' = v ∧ (r = true → PreExchange backend v name u) ∧
      (r = false → ¬ PreExchange backend v name u ∨ Faulty A)) bad fatal
      (stagedWriteIsPreExchange backend name u) := by
  refine moves_captured_looks (reports_inspectName backend) hQ fun r hr hok => ?_
  cases r with
  | error e =>
    refine moves_pure ⟨rfl, nofun, fun _ => hr.imp_left fun he hp => ?_⟩
    obtain ⟨staged, _, hs, -⟩ := hp
    rw [he] at hs
    cases hs
  | ok i =>
    have hi := hok i rfl
    cases i with
    | none =>
      refine moves_pure ⟨rfl, nofun, fun _ => .inl fun hp => ?_⟩
      obtain ⟨staged, _, hs, -⟩ := hp
      rw [hi] at hs
      cases hs
    | some staged =>
      refine moves_captured_looks (reports_inspectActive backend) hQ fun r hr hok => ?_
      cases r with
      | error e =>
        refine moves_pure ⟨rfl, nofun, fun _ => hr.imp_left fun he hp => ?_⟩
        obtain ⟨_, active, -, ha, -⟩ := hp
        rw [he] at ha
        cases ha
      | ok j =>
        have hj := hok j rfl
        cases j with
        | none =>
          refine moves_pure ⟨rfl, nofun, fun _ => .inl fun hp => ?_⟩
          obtain ⟨_, active, -, ha, -⟩ := hp
          rw [hj] at ha
          cases ha
        | some active =>
          have hiff : PreExchange backend v name u ↔
              checkedNextGeneration active.header.recordGeneration = .ok staged.header.recordGeneration := by
            constructor
            · rintro ⟨staged', active', hs, ha, hg⟩
              rw [hi] at hs
              rw [hj] at ha
              cases hs
              cases ha
              exact hg
            · exact fun hg => ⟨staged, active, hi, hj, hg⟩
          refine moves_pure ⟨rfl, ?_⟩
          rw [hiff]
          split
          next g hg =>
            rw [hg]
            by_cases hgs : g = staged.header.recordGeneration <;> simp [hgs]
          next he =>
            rw [he]
            simp

lemma moves_openRecord {good : Except IoKind FileNode → View → Prop}
    {look : Directory → Option FileNode} (hQ : Q v) (hgood : ∀ x, good x v) :
    Moves A Q v good bad fatal (openRecord look) := by
  refine moves_query hQ fun c s _ _ => ?_
  split
  · exact hgood _
  · exact hgood _
  · exact hgood _
  · split <;> exact hgood _

lemma moves_cleanupStaleTemp (hQ : Q v) (hQ' : Q (update v name none)) :
    Moves A Q v (fun _ w' => w' = v ∨ w' = update v name none) bad fatal (cleanupStaleTemp backend name) := by
  have hstay : Moves A Q v (fun _ w' => w' = v ∨ w' = update v name none) bad fatal (pure false) :=
    moves_pure (.inl rfl)
  apply moves_bind
  refine moves_openRecord hQ fun x => ?_
  cases x with
  | error kind => exact hstay
  | ok file =>
    refine (moves_captured (G := fun _ w' => w' = v)
      (tries_action.stays hQ (fun _ _ => rfl) rfl)).bind ?_
    intro r w' hr
    cases r with
    | error e =>
      cases hr
      exact hstay
    | ok x =>
      cases hr
      dsimp only
      split
      · refine (moves_captured (G := fun _ w' => w' = update v name none) (B := fun _ w' => w' = v)
          (tries_hooked.moves hQ (fun _ _ => rfl) (fun _ _ _ _ _ => rfl) fun d d' hd hf => ?_)).bind ?_
        · rw [view_unlink hf, hd]
          exact ⟨hQ', rfl⟩
        intro r w' hr
        cases r with
        | error e => exact moves_pure (.inl hr)
        | ok x => exact moves_pure (.inr hr)
      · exact hstay

inductive Explained (A : Choice → Prop) (w : View) (count : ℕ) : StorageBackendError → Prop where
  | fault {e : StorageBackendError} (h : Faulty A) : Explained A w count e
  | corrupt {name : Name} (h : Lethal backend w name ∨ Junk w name) : Explained A w count .corrupt
  | limit (h : maxMode1NamespaceEntries < count) :
      Explained A w count (.invalidInput "mode 1 namespace entry limit")
  | denied {u : CanonicalUsername} {operation : IoOperation}
      (h : inspectNode backend u (w (filename u)) = .error (.io operation .permissionDenied)) :
      Explained A w count (.io operation .permissionDenied)

def Deadly (A : Choice → Prop) (w : View) (e : StorageBackendError) : Prop :=
  e = .corrupt ∧ (Faulty A ∨ ∃ name, Lethal backend w name)

def Told (A : Choice → Prop) (w : View) (status : OuterRecordStatus) : Prop :=
  Faulty A ∨ recordStatus (inspectNode backend status.username (w (filename status.username))) =
    .ok (some status.classification)

lemma moves_tryReserve {good : Unit → View → Prop} {e : StorageBackendError}
    (hQ : Q v) (hgood : good () v) (hbad : Faulty A → bad e v) : Moves A Q v good bad fatal (tryReserve e) := by
  refine moves_query hQ fun c s hc _ => ?_
  cases hx : c.exhausted with
  | false => exact hgood
  | true =>
    refine hbad ⟨c, hc, fun hfree => ?_⟩
    rw [hfree.exhausted] at hx
    cases hx

lemma moves_scanRecord (hQ : Q v) (hv : v (filename u) = w (filename u)) :
    Moves A Q v (fun r w' => w' = v ∧ ∀ status ∈ r.records, Told backend A w status)
      (fun e w' => w' = v ∧ Explained backend A w count e) fatal (scanRecord backend u) := by
  refine moves_captured_looks (reports_inspectActive backend) hQ fun r hr _ => ?_
  rw [hv] at hr
  apply moves_bind
  cases hstatus : recordStatus r with
  | error e =>
    refine moves_throw ⟨rfl, ?_⟩
    -- only a denied permission is not turned into a status
    cases r with
    | ok i => cases i <;> cases hstatus
    | error e' =>
      cases e' with
      | io operation kind =>
        cases kind with
        | permissionDenied =>
          cases hstatus
          rcases hr with h | h
          · exact .denied h
          · exact .fault h
        | _ => cases hstatus
      | _ => cases hstatus
  | ok classification =>
    refine moves_pure ?_
    cases classification with
    | none => exact moves_pure ⟨rfl, by simp⟩
    | some classification =>
      apply moves_bind
      refine moves_tryReserve hQ (moves_pure ⟨rfl, ?_⟩) fun hf => ⟨rfl, .fault hf⟩
      intro status hs
      rw [List.mem_singleton] at hs
      subst hs
      rcases hr with h | h
      · exact .inr (h ▸ hstatus)
      · exact .inl h

lemma moves_scanStale (hQ : Swept backend w v) (hs : Stale backend w name) :
    Moves A (Swept backend w) v (fun r w' => (w' = v ∨ w' = update v name none) ∧
      Stale backend w name ∧ r.records = [])
      (fun e w' => w' = v ∧ Explained backend A w count e) fatal (scanStale backend name) := by
  refine (moves_cleanupStaleTemp backend hQ (hQ.unlink hs)).bind ?_
  exact fun cleaned w' hw => moves_pure ⟨hw, hs, rfl⟩

lemma parse_of_staged (h : entryClass name node = .staged) :
    ∃ u, parseTransactionArtifact name stagedMarker = some u := by
  have hc := classifyName_of_entryClass h (by simp)
  rw [classifyName] at hc
  split at hc
  · cases hc
  split at hc
  · cases hc
  split at hc
  · exact Option.isSome_iff_exists.mp ‹_›
  · split at hc
    · cases hc
    · split at hc <;> cases hc

lemma moves_namespaceEntryMetadata {good : FileNode → View → Prop} (hQ : Q v)
    (hnode : v name = some node) (hgood : good node v) :
    Moves A Q v good (fun e w' => w' = v ∧ Explained backend A w count e) fatal (namespaceEntryMetadata name) := by
  apply moves_bind
  refine moves_query hQ fun c s hc hs => ?_
  have hlookup : s.disk.lookup name = some node := (congrFun hs name).trans hnode
  rw [hlookup]
  cases hfault : c.fault with
  | some fault =>
    refine ⟨rfl, .fault ⟨c, hc, fun hfree => ?_⟩⟩
    rw [hfree.fault] at hfault
    cases hfault
  | none =>
    apply moves_bind
    exact tries_action.stays hQ (fun hf _ => ⟨rfl, .fault hf⟩) (moves_pure hgood)

lemma moves_scanEntry (hQ : Swept backend w v) (hnode : w name = some node) (hv : v name = w name) :
    Moves A (Swept backend w) v (fun r w' => (w' = v ∨ w' = update v name none ∧ Stale backend w name) ∧
        ∀ status ∈ r.records, Told backend A w status)
      (fun e w' => w' = v ∧ Explained backend A w count e) (Deadly backend A w) (scanEntry backend name) := by
  have hstale (hs : Stale backend w name) : Moves A (Swept backend w) v
      (fun r w' => (w' = v ∨ w' = update v name none ∧ Stale backend w name) ∧
        ∀ status ∈ r.records, Told backend A w status)
      (fun e w' => w' = v ∧ Explained backend A w count e) (Deadly backend A w) (scanStale backend name) := by
    refine (moves_scanStale backend hQ hs).post ?_
    rintro r w' ⟨hw, -, hr⟩
    exact ⟨hw.imp_right fun h => ⟨h, hs⟩, by simp [hr]⟩
  have hjunk (h : entryClass name node ∈
      [NamespaceEntryClassification.symlink, .directory, .hardlink, .nonUtf8, .unknown]) :
      Explained backend A w count .corrupt := .corrupt (.inr ⟨node, hnode, h⟩)
  apply moves_bind
  refine moves_namespaceEntryMetadata backend hQ (hv.trans hnode) ?_
  cases hclass : classifyMode1NamespaceEntry name node.kind node.nlink with
  | authoritative u =>
    refine (moves_scanRecord backend hQ (hQ.active u)).post ?_
    exact fun r w' hr => ⟨.inl hr.1, hr.2⟩
  | temporary => exact hstale ⟨node, hnode, .inl hclass⟩
  | staged =>
    obtain ⟨u, hu⟩ := parse_of_staged hclass
    rw [hu]
    have hsame : PreExchange backend v name u ↔ PreExchange backend w name u := by
      rw [PreExchange, PreExchange, hv, hQ.active u]
    refine (moves_stagedWriteIsPreExchange backend hQ).bind ?_
    rintro r w' ⟨rfl, htrue, hfalse⟩
    cases r with
    | true => exact hstale ⟨node, hnode, .inr ⟨hclass, u, hu, hsame.mp (htrue rfl)⟩⟩
    | false =>
      refine moves_poison hQ ⟨rfl, ?_⟩
      rcases hfalse rfl with h | h
      · exact .inr ⟨name, node, hnode, .inr (.inr ⟨hclass, u, hu, fun hp => h (hsame.mpr hp)⟩)⟩
      · exact .inl h
  | clear => exact moves_poison hQ ⟨rfl, .inr ⟨name, node, hnode, .inl hclass⟩⟩
  | rollback => exact moves_poison hQ ⟨rfl, .inr ⟨name, node, hnode, .inr (.inl hclass)⟩⟩
  | symlink | directory | hardlink | nonUtf8 | unknown =>
    exact moves_throw ⟨rfl, hjunk (by rw [entryClass, hclass]; decide)⟩

lemma moves_scanNames {names : List Name} {remaining : ℕ} (hn : names.Nodup)
    (hnames : ∀ name ∈ names, v name = w name ∧ (w name).isSome) (hQ : Swept backend w v)
    (hcount : remaining + count = maxMode1NamespaceEntries + names.length) :
    Moves A (Swept backend w) v (fun r w' => Swept backend w w' ∧ ∀ status ∈ r.records, Told backend A w status)
      (fun e w' => Swept backend w w' ∧ Explained backend A w count e) (Deadly backend A w)
      (scanNames backend remaining names) := by
  induction names generalizing v remaining with
  | nil =>
    rw [scanNames]
    apply moves_bind
    exact tries_action.stays hQ (fun hf _ => ⟨hQ, .fault hf⟩) (moves_pure ⟨hQ, by simp⟩)
  | cons name names ih =>
    rw [List.nodup_cons] at hn
    obtain ⟨hname, hsome⟩ := hnames name List.mem_cons_self
    obtain ⟨node, hnode⟩ := Option.isSome_iff_exists.mp hsome
    cases remaining with
    | zero =>
      apply moves_bind
      refine tries_action.stays hQ (fun hf _ => ⟨hQ, .fault hf⟩) (moves_throw ⟨hQ, .limit ?_⟩)
      rw [List.length_cons] at hcount
      omega
    | succ remaining =>
      apply moves_bind
      refine tries_action.stays hQ (fun hf _ => ⟨hQ, .fault hf⟩) ?_
      apply moves_bind
      refine (moves_scanEntry backend hQ hnode hname).weaken ?_ (fun e w' h => ⟨h.1 ▸ hQ, h.2⟩) fun _ hf => hf
      rintro entry w' ⟨hw, htold⟩
      have hQ' : Swept backend w w' := by
        rcases hw with rfl | ⟨rfl, hs⟩
        · exact hQ
        · exact hQ.unlink hs
      have hrest : ∀ x ∈ names, w' x = w x ∧ (w x).isSome := by
        intro x hx
        obtain ⟨hvx, hsx⟩ := hnames x (List.mem_cons_of_mem _ hx)
        rcases hw with rfl | ⟨rfl, -⟩
        · exact ⟨hvx, hsx⟩
        · have hne : x ≠ name := fun he => hn.1 (he ▸ hx)
          exact ⟨(update_of_ne hne _ _).trans hvx, hsx⟩
      refine (ih hn.2 hrest hQ' (by rw [List.length_cons] at hcount; omega)).bind ?_
      rintro rest w'' ⟨hQ'', htold'⟩
      refine moves_pure ⟨hQ'', fun status hs => ?_⟩
      rcases List.mem_append.mp hs with h | h
      · exact htold status h
      · exact htold' status h

lemma keys_perm_of_view {d' : Directory} (h : view d = view d') : d.keys.Perm d'.keys := by
  refine (List.perm_ext_iff_of_nodup d.keys_nodup d'.keys_nodup).mpr fun name => ?_
  rw [← AList.mem_keys, ← AList.mem_keys, ← AList.lookup_isSome, ← AList.lookup_isSome]
  exact iff_of_eq (congrArg (fun x : Option FileNode => x.isSome = true) (congrFun h name))

lemma moves_scanOuterHeaders : Moves A (Swept backend (view d)) (view d)
      (fun records w' => Swept backend (view d) w' ∧ ∀ status ∈ records, Told backend A (view d) status)
      (fun e w' => Swept backend (view d) w' ∧ Explained backend A (view d) d.keys.length e)
      (Deadly backend A (view d)) (scanOuterHeaders backend) := by
  have hQ := Swept.refl backend (view d)
  apply moves_bind
  refine tries_hook.stays hQ (fun hf _ => ⟨hQ, .fault hf⟩) ?_
  apply moves_bind
  refine tries_action.stays hQ (fun hf _ => ⟨hQ, .fault hf⟩) ?_
  apply moves_bind
  refine moves_query hQ fun c s hc hs => ?_
  cases hfault : c.fault with
  | some fault =>
    refine ⟨hQ, .fault ⟨c, hc, fun hfree => ?_⟩⟩
    rw [hfree.fault] at hfault
    cases hfault
  | none =>
    have hperm := (c.order.property s.disk.keys).trans (keys_perm_of_view hs)
    refine (moves_scanNames backend (hperm.nodup_iff.mpr d.keys_nodup) (fun name hname => ⟨rfl, ?_⟩) hQ
      (by rw [hperm.length_eq])).bind ?_
    · exact AList.lookup_isSome.mpr (AList.mem_keys.mpr (hperm.mem_iff.mp hname))
    rintro scanned w' ⟨hQ', htold⟩
    have hsorted : ∀ status ∈ scanned.records.insertionSort statusLe, Told backend A (view d) status := by
      intro status hstatus
      exact htold status ((List.mem_insertionSort _).mp hstatus)
    split
    · refine (moves_captured (G := fun _ w'' => w'' = w') (B := fun _ w'' => w'' = w')
        (tries_hooked.stays hQ' (fun _ _ => rfl) rfl)).bind ?_
      intro r w'' hr
      have hw : w'' = w' := by cases r <;> exact hr
      exact moves_pure ⟨hw ▸ hQ', hsorted⟩
    · exact moves_pure ⟨hQ', hsorted⟩

end Howy.Storage.Mode1
