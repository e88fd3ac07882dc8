import Howy.Storage.CacheSpec
import Howy.Storage.Mode1Records
import Howy.Storage.Mutations

namespace Howy.Storage.Mode1

open Library Howyenc1Exact

variable {D ρ α : Type} (backend : Mode1StorageBackend) {request : AppendRequest} {x : BackendResult α}
  {good : α → Prop} {cancellable : Bool} {expected : UInt64} {p : Op D α}

def Quiet (s s' : Shared D) : Prop := ∃ cache, s' = { s with cache } ∧ Shrinks s.cache cache

lemma Quiet.refl (s : Shared D) : Quiet s s := ⟨s.cache, rfl, Shrinks.refl s.cache⟩

def foundIn (u : CanonicalUsername) (node : Option FileNode) : Option Found :=
  (node.bind (recordIn backend u)).map fun record => ⟨record, false⟩

structure Commits (node : Option FileNode) (m : Mutation) (after : Option EnrollmentRecord) : Prop where
  applies : Applies (foundIn backend (username m) node) m after
  readable : ∀ file, node = some file → ∃ header record, Inspects backend (username m) file header ∧
    recordIn backend (username m) file = some record
  fits : ∀ record, after = some record → Fits backend record

structure Planned (node : Option FileNode) (m : Mutation) (prepared : Prepared ρ) : Prop where
  mutation : prepared.mutation = m
  commits : Commits backend node m prepared.record
  model : ∀ model, prepared.model = some model →
    ∃ record, prepared.record = some record ∧ AuthModel.fromRecord record = .ok model

variable {A : Choice → Prop} {P : Shared D → Prop}

lemma within_reserveOperationExcept (hP : ∀ s s', Quiet s s' → P s → P s') (bytes : ℕ)
    (protected_ : Option CanonicalUsername) : Within A Quiet P (OnResult (fun _ => True) fun _ => True)
      (reserveOperationExcept bytes protected_ : Op D BudgetPermit).run := by
  have hcache : Within A Quiet P (OnResult (fun _ => True) fun _ => True) (onCache fun c s =>
      s.reserveOperationExcept bytes protected_ c.refusals c.available).run := by
    apply within_action
    intro c s _ hs
    have hq : Quiet s
        { s with cache := (s.cache.reserveOperationExcept bytes protected_ c.refusals c.available).2 } :=
      ⟨_, rfl, (evicts_reserveOperationExcept s.cache bytes protected_ c.refusals).shrinks⟩
    refine ⟨hq, hP s _ hq hs, ?_⟩
    generalize (s.cache.reserveOperationExcept bytes protected_ c.refusals c.available).1 = r
    cases r with
    | ok bytes | error e => exact trivial
  exact Within.bindE hcache fun _ _ => trivial

lemma within_ensureAvailable : Within A Quiet P (OnResult (fun _ => True) fun _ => True)
    (ensureAvailable : Op D Unit).run := by
  apply within_query Quiet.refl
  intro c s _ _
  split <;> trivial

variable {active : D → CanonicalUsername → Option FileNode} {u : CanonicalUsername} {node : Option FileNode}
  {operation : BudgetPermit}

def Reads (A : Choice → Prop) (active : D → CanonicalUsername → Option FileNode) (u : CanonicalUsername)
    (node : Option FileNode) (good : α → Prop) (p : Op D α) : Prop :=
  Within A Quiet (fun s => active s.disk u = node) (OnResult good fun _ => True) p.run

lemma stable_active (s s' : Shared D) (h : Quiet s s') (hs : active s.disk u = node) :
    active s'.disk u = node := by
  obtain ⟨cache, rfl, -⟩ := h
  exact hs

lemma Reads.bind {β : Type} {good' : β → Prop} {k : α → Op D β}
    (hp : Reads A active u node good p) (hk : ∀ a, good a → Reads A active u node good' (k a)) :
    Reads A active u node good' (p >>= k) := Within.bindE hp hk

lemma reads_of_reports
    (h : Reports A (fun s => active s.disk u = node) True x p) : Reads A active u node (fun a => x = .ok a) p :=
  h.within Quiet.refl

lemma calm_true : Calm A cancellable True := .inl trivial

lemma reads_pure {a : α} (h : good a) : Reads A active u node good (pure a) := h

lemma reads_fromExcept :
    Reads A active u node (fun a => x = .ok a) (fromExcept x) := reads_of_reports finds_fromExcept

lemma reads_refuseIf {p : Prop} [Decidable p] {e : StorageBackendError} :
    Reads A active u node (fun _ => ¬ p) (refuseIf p e) := by
  apply Within.weaken (reads_of_reports reports_refuseIf)
  intro r hr
  cases r with
  | error e => trivial
  | ok a => exact failIf_eq_ok.mp hr

lemma reads_reserve {bytes : ℕ} {v : CanonicalUsername} :
    Reads A active u node (fun _ => True) (reserveOperationForUser bytes v) :=
  within_reserveOperationExcept stable_active bytes (some v)

lemma reads_inspectRecord :
    Reads A active u node (fun i => inspectNode backend u node = .ok i)
    (inspectRecord backend active u cancellable) :=
  reads_of_reports ((reports_checkCancelled calm_true).ok_bind (reports_inspectNamedRecord backend calm_true
    (active · u) u))

structure Loads (u : CanonicalUsername) (node : Option FileNode) (loaded : Option EnrollmentRecord) : Prop where
  record : loaded = node.bind (recordIn backend u)
  complete : ∀ file, node = some file → ∃ header record, Inspects backend u file header ∧
    recordIn backend u file = some record

variable {i : Option InspectedRecord} {loaded : Option EnrollmentRecord}

lemma reads_loadOptional (hi : inspectNode backend u node = .ok i) {permit : BudgetPermit} :
    Reads A active u node (Loads backend u node) (loadOptionalForMutation backend u i permit) := by
  rcases (inspectNode_eq_ok backend).mp hi with ⟨rfl, rfl⟩ | ⟨file, header, rfl, hh, rfl⟩
  · exact reads_pure ⟨rfl, fun file hf => by cases hf⟩
  refine (reads_of_reports (reports_decryptInspected backend calm_true hh)).bind fun loaded hl => ?_
  have hr := decryptFile_eq_ok backend hl
  refine reads_pure ⟨hr.symm, fun file' hf => ?_⟩
  cases hf
  exact ⟨header, loaded.record, hh, hr⟩

lemma Loads.header (h : Loads backend u node loaded) (hi : inspectNode backend u node = .ok i) :
    ∃ nonce, i.map (·.header) = loaded.map (headerOf · .aeadCached backend.keyEpoch nonce) := by
  rcases (inspectNode_eq_ok backend).mp hi with ⟨rfl, rfl⟩ | ⟨file, header, rfl, hh, rfl⟩
  · exact ⟨.filled 12 0, by rw [h.record]; rfl⟩
  obtain ⟨_, record, -, hr⟩ := h.complete file rfl
  obtain ⟨nonce, rfl⟩ := header_eq backend hh hr
  refine ⟨nonce, ?_⟩
  rw [h.record, Option.bind_some, hr]
  rfl

lemma Loads.foundIn_eq (h : Loads backend u node loaded) :
    foundIn backend u node = loaded.map fun record => ⟨record, false⟩ := by rw [foundIn, h.record]

lemma nextGeneration_of_ok {g : UInt64}
    (h : (loaded.elim (.ok 1) fun record => (checkedNextGeneration record.generation).mapError mapStorageError) =
      .ok g) :
    g.toNat = nextGeneration (loaded.map fun record => ⟨record, false⟩) := by
  cases loaded with
  | none =>
    cases h
    rfl
  | some record =>
    rw [Option.elim_some, mapError_eq_ok] at h
    exact (checkedNextGeneration_eq_ok h).1

lemma planned_append (hi : inspectNode backend request.username node = .ok i) :
    Reads A active request.username node (Planned backend node (.append request))
      (prepareAppend backend request i operation) := by
  refine reads_fromExcept.bind fun estimate hestimate => ?_
  refine reads_refuseIf.bind fun _ _ => ?_
  refine (reads_loadOptional backend hi).bind fun loaded hl => ?_
  refine reads_refuseIf.bind fun _ hgen => ?_
  refine reads_fromExcept.bind fun total _ => ?_
  refine reads_refuseIf.bind fun _ _ => ?_
  refine reads_fromExcept.bind fun generation hnext => ?_
  refine reads_fromExcept.bind fun record hrecord => ?_
  refine reads_fromExcept.bind fun model hmodel => ?_
  rw [mapError_eq_ok, EnrollmentRecord.new_eq_ok] at hrecord
  obtain ⟨hg, hdigest, hname, hentries⟩ := hrecord
  obtain ⟨nonce, hheader⟩ := hl.header backend hi
  have hfound := hl.foundIn_eq backend
  refine reads_pure ⟨rfl, ⟨?_, hl.complete, ?_⟩, ?_⟩
  · rw [username, hfound]
    refine .append ?_ hname ?_ ?_
    · rw [generationOf, Option.elim_map]
      exact (not_not.mp hgen).symm
    · rw [hentries, foundEntries, Option.elim_map]
      rfl
    · rw [hg]
      exact nextGeneration_of_ok hnext
  · rintro _ ⟨⟩
    exact fits_append backend hheader hestimate hdigest hentries
  · rintro _ ⟨⟩
    exact ⟨record, rfl, hmodel⟩

variable (store : RecordStore D)

lemma reads_checkGeneration : Reads A active u node (fun _ => True) (checkGeneration i expected) := by
  apply Within.weaken reads_refuseIf
  intro r _
  cases r <;> trivial

lemma planned_planAppend : Reads A store.active request.username node (Planned backend node (.append request))
      (planAppend backend store request) := by
  refine (reads_inspectRecord backend).bind fun i hi => ?_
  refine reads_checkGeneration.bind fun _ _ => ?_
  refine reads_fromExcept.bind fun estimate _ => ?_
  refine reads_reserve.bind fun operation _ => ?_
  exact .bind within_ensureAvailable fun _ _ => planned_append backend hi

lemma planned_planAppendAdmitted : Reads A store.active request.username node
      (Planned backend node (.append request)) (planAppendAdmitted backend store request operation) := by
  refine (reads_inspectRecord backend).bind fun i hi => ?_
  exact reads_checkGeneration.bind fun _ _ => planned_append backend hi

lemma reads_loadExpected (hi : inspectNode backend u node = .ok i) :
    Reads A active u node (fun record => Loads backend u node (some record) ∧ record.generation = expected)
      (loadExpected backend u i operation expected) := by
  refine (reads_loadOptional backend hi).bind fun loaded hl => ?_
  cases loaded with
  | none => exact trivial
  | some record =>
    exact reads_refuseIf.bind fun _ hgen => reads_pure ⟨hl, not_not.mp hgen⟩

variable {request : RemoveRequest}

lemma planned_prepareRemove {record : EnrollmentRecord}
    {prepared : Prepared RemoveResult} (hl : Loads backend request.username node (some record))
    (hgen : record.generation = request.expectedGeneration)
    (h : prepareRemove backend request record operation = .ok prepared) :
    Planned backend node (.remove request) prepared := by
  simp only [prepareRemove, bind_eq_ok, pure_eq_ok, mapError_eq_ok, EnrollmentRecord.new_eq_ok] at h
  obtain ⟨index, hindex, generation, hnext, replacement, ⟨hg, hdigest, hname, hentries⟩, model, hmodel, rfl⟩ := h
  have hfind : record.entries.findIdx? (·.enrollmentId = request.enrollmentId) = some index := by
    generalize record.entries.findIdx? (·.enrollmentId = request.enrollmentId) = x at hindex ⊢
    cases x with
    | none => cases hindex
    | some j =>
      cases hindex
      rfl
  obtain ⟨hmem, hfilter⟩ := eraseIdx_eq_filter record.nodup_ids hfind
  have hfound := hl.foundIn_eq backend
  refine ⟨rfl, ⟨?_, hl.complete, ?_⟩, ?_⟩
  · rw [username, hfound]
    refine .remove rfl hgen.symm hname hmem (hentries.trans hfilter) ?_
    rw [hg]
    exact (checkedNextGeneration_eq_ok hnext).1
  · rintro _ ⟨⟩
    cases node with
    | none => cases hl.record
    | some file =>
      obtain ⟨header, record', hh, hr⟩ := hl.complete file rfl
      have hsame := hl.record
      rw [Option.bind_some, hr, Option.some.injEq] at hsame
      subst hsame
      exact fits_sublist backend (fits_of_inspects backend hh hr) hdigest (hentries ▸ List.eraseIdx_sublist _ _)
  · rintro model' rfl
    refine ⟨replacement, rfl, ?_⟩
    rw [modelOf] at hmodel
    split at hmodel
    · cases hmodel
    rw [map_eq_pure_bind, bind_eq_ok] at hmodel
    obtain ⟨m, hm, he⟩ := hmodel
    cases he
    exact hm

lemma planned_planRemove : Reads A store.active request.username node (Planned backend node (.remove request))
      (planRemove backend store request) := by
  refine (reads_inspectRecord backend).bind fun i hi => ?_
  refine reads_checkGeneration.bind fun _ _ => ?_
  refine reads_fromExcept.bind fun required _ => ?_
  refine reads_reserve.bind fun operation _ => ?_
  refine (reads_loadExpected backend hi).bind fun record hrecord => ?_
  apply Within.weaken reads_fromExcept
  intro r hr
  cases r with
  | error e => exact trivial
  | ok prepared => exact planned_prepareRemove backend hrecord.1 hrecord.2 hr

lemma planned_planClear {request : ClearRequest} :
    Reads A store.active request.username node (Planned backend node (.clear request))
      (planClear backend store request) := by
  refine (reads_inspectRecord backend).bind fun i hi => ?_
  refine reads_checkGeneration.bind fun _ _ => ?_
  refine reads_fromExcept.bind fun required _ => ?_
  refine reads_reserve.bind fun operation _ => ?_
  refine (reads_loadExpected backend hi).bind fun record hrecord => ?_
  obtain ⟨hl, hgen⟩ := hrecord
  refine reads_pure ⟨rfl, ⟨?_, hl.complete, nofun⟩, nofun⟩
  rw [username, hl.foundIn_eq backend]
  exact .clear rfl hgen.symm

end Howy.Storage.Mode1
