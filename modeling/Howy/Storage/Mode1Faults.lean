import Howy.Storage.Mode1Atomicity

namespace Howy.Storage.Mode1Faults

open Library Function Howyenc1Exact Mode1

variable (backend : Mode1StorageBackend) {A : Choice → Prop} {after : Option EnrollmentRecord}
  {s₀ s : Shared Directory} {m : Mutation} {name : Name} {v : CanonicalUsername}

inductive Artifact (u : CanonicalUsername) : Name → Prop where
  | parsed {name : Name} (marker : Marker) (h : parseTransactionArtifact name marker.bytes =
      some u) : Artifact u name
  | staged {random : FixedArray UInt8 16} {staged rollback : Name}
      (h : WriteNames u (temporaryName u random) staged rollback) : Artifact u staged
  | rollback {random : FixedArray UInt8 16} {staged rollback : Name}
      (h : WriteNames u (temporaryName u random) staged rollback) : Artifact u rollback
  | withdrawn {random : FixedArray UInt8 16} {rollback : Name}
      (h : CreateNames u (temporaryName u random) rollback) : Artifact u rollback

lemma Artifact.ne_filename {u : CanonicalUsername} (h : Artifact u name) : name ≠ filename v := by
  cases h with
  | parsed marker h =>
    obtain ⟨suffix, hs, rfl⟩ := artifactName_of_parse h
    exact (endsIn_artifactName marker u hs).ne_filename v
  | staged h => exact h.staged_ne_filename
  | rollback h | withdrawn h => exact h.rollback_ne_filename

def Stores (u : CanonicalUsername) (node : Option FileNode) (record : Option EnrollmentRecord) : Prop :=
  node.map (recordIn backend u) = record.map some

section

variable {backend} {m : Mutation} {b w : View}

lemma stores_written {node : Option FileNode} {record : EnrollmentRecord} {encoded : Bytes}
    (hc : Commits backend node m (some record)) (hs : Seals backend record encoded) :
    Stores backend (username m) (some (recordNode backend.expectedOwner encoded)) (some record) := by
  have hrecord : recordIn backend (username m) (recordNode backend.expectedOwner encoded) = some record :=
    (recordIn_eq_some backend).mpr ⟨hc.applies.named rfl, (hc.fits record rfl).model, hs⟩
  rw [Stores, Option.map_some, hrecord]
  rfl

lemma committed_stores (h : Committed backend m b after w)
    (hc : Commits backend (b (filename (username m))) m after) :
    Stores backend (username m) (w (filename (username m))) after := by
  cases h with
  | replaced _ hs h =>
    obtain ⟨random, staged, rollback, -, rfl⟩ := h
    rw [update_self]
    exact stores_written hc hs
  | created _ hs =>
    rw [update_self]
    exact stores_written hc hs
  | cleared =>
    rw [update_self]
    rfl

lemma committed_others (h : Committed backend m b after w)
    (hn : name ≠ filename (username m)) : w name = b name ∨ w name = none := by
  cases h with
  | replaced _ _ h =>
    obtain ⟨random, staged, rollback, -, rfl⟩ := h
    rw [update_of_ne hn, update_apply]
    split
    · exact .inr rfl
    · exact .inl rfl
  | created | cleared => exact .inl (update_of_ne hn _ _)

lemma abandoned_active (h : Abandoned backend m b w) : w (filename v) = b (filename v) := by
  cases h with
  | idle => rfl
  | notReplaced _ _ _ h =>
    rcases h with rfl | ⟨random, staged, rollback, -, hn, h⟩
    · rfl
    have hs := hn.staged_ne_filename (v := v)
    have hr := hn.rollback_ne_filename (v := v)
    cases h with
    | start => rfl
    | written => exact update_of_ne temporaryName_ne_filename.symm _ _
    | prepared | aborted => exact update_of_ne hs.symm _ _
    | restored => rw [update_of_ne hr.symm, update_of_ne hs.symm]
  | notCreated _ h =>
    rcases h with rfl | ⟨random, rollback, -, hn, h⟩
    · rfl
    cases h with
    | start => rfl
    | written => exact update_of_ne temporaryName_ne_filename.symm _ _
    | restored => exact update_of_ne hn.rollback_ne_filename.symm _ _

end

lemma safe_mapE {α β : Type} {L : Logic Choice (Shared Directory)}
    {post : BackendResult β → Shared Directory → Prop} {f : α → β} {x : Op Directory α}
    (h : Safe L (fun r s => post (r.map f) s) x.run s) : Safe L post (f <$> x).run s := by
  apply safe_bind
  apply Safe.weaken h
  intro r s' hr
  cases r with
  | ok a | error e => exact hr

lemma ended_map {α β : Type} {f : α → β} {r : BackendResult α}
    (h : Ended backend A m s₀ r s) : Ended backend A m s₀ (r.map f) s := by
  cases r with
  | ok a | error e => exact h

lemma safe_call {n : ℕ} {call : Call} (hm : call.mutation = some m) :
    Concludes backend A m s₀ (Call.op backend (files backend) n call) s₀ := by
  cases call with
  | append request =>
    cases hm
    exact safe_mapE ((safe_mutate backend (planned_planAppend backend (files backend))).weaken
      fun _ _ => ended_map backend)
  | appendAdmitted request operation =>
    cases hm
    exact safe_mapE ((safe_mutate backend
      (planned_planAppendAdmitted backend (files backend))).weaken fun _ _ => ended_map backend)
  | remove request =>
    cases hm
    exact safe_mapE ((safe_mutate backend (planned_planRemove backend (files backend))).weaken
      fun _ _ => ended_map backend)
  | clear request =>
    cases hm
    exact safe_mapE ((safe_mutate backend (planned_planClear backend (files backend))).weaken
      fun _ _ => ended_map backend)
  | _ => cases hm

/-- The ends of a mutation: exactly the new record and no artifact; or an error, the old record and at most the old
model in the cache; or a poisoned backend. -/
def FaultAtomic (m : Mutation) (s s' : Shared Directory) (r : BackendResult Answer) : Prop :=
  (∃ answer after, r = .ok answer ∧ s'.poisoned = false ∧
    Applies (foundIn backend (username m) (activeFile s.disk (username m))) m after ∧
    Stores backend (username m) (activeFile s'.disk (username m)) after ∧
    (∀ name, name ≠ filename (username m) →
      s'.disk.lookup name = s.disk.lookup name ∨ s'.disk.lookup name = none) ∧
    ((∀ name, Artifact (username m) name → s.disk.lookup name = none) →
      ∀ name, Artifact (username m) name → s'.disk.lookup name = none)) ∨
  (∃ e, r = .error e ∧ s'.poisoned = false ∧
    activeFile s'.disk (username m) = activeFile s.disk (username m) ∧
    ∀ entry', s'.cache.entries.lookup (username m) = some entry' →
      ∃ entry, s.cache.entries.lookup (username m) = some entry ∧ entry.model = entry'.model) ∨
  s'.poisoned = true

def copyBackend : Mode1StorageBackend where
  gcm := copyCipher
  key := .filled 32 5
  keyEpoch := 1
  keyEpoch_ne_zero := aliceRecord.generation_ne_zero
  recognizerModel := .filled 32 7
  expectedOwner := 0
  limits := ⟨4, 100000, by decide, by decide, by decide, by decide⟩
  cacheLimits := ⟨4, 100000, by decide, by decide, by decide, by decide⟩
  backendIdentity := .filled 32 1

def aliceRequest (k : ℕ) (expectedGeneration : UInt64) : AppendRequest :=
  ⟨alice, expectedGeneration, [zeroEntry k glasses], List.cons_ne_nil _ _⟩

def aliceAppends : Option (BackendResult Answer × Shared Directory) :=
  (Call.op copyBackend (files copyBackend) 0 (.append (aliceRequest 1 0))).run.run
    (List.replicate 60 {}) { disk := ∅ }

def failingStage : Choice where
  hook point := if point = .transactionStageSync ∨ point = .staleTempCleanupUnlink then some .unavailable else none

def strandedAppend (s : Shared Directory) : Option (BackendResult Answer × Shared Directory) :=
  (Call.op copyBackend (files copyBackend) 1 (.append (aliceRequest 2 1))).run.run
    (List.replicate 90 failingStage) s

end Howy.Storage.Mode1Faults
