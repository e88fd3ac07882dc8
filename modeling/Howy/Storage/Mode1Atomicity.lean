import Howy.Storage.Mode1Outcomes
import Howy.Storage.Mode1Prepare
import Howy.Storage.Mode1Scan

namespace Howy.Storage.Mode1

open Library Function

variable (backend : Mode1StorageBackend) {model : Option Storage.AuthModel} {record : EnrollmentRecord}
  {permit : BudgetPermit} {s : Shared Directory} {cancellable : Bool}

inductive CallView (m : Mutation) (b : View) : View → Prop where
  | idle : CallView m b b
  | replacing {record : EnrollmentRecord} {encoded : Bytes} {w : View}
      (exists_ : (b (filename (username m))).isSome)
      (commits : Commits backend (b (filename (username m))) m (some record))
      (seals : Seals backend record encoded)
      (h : Replacing backend.expectedOwner (username m) b encoded w) : CallView m b w
  | creating {record : EnrollmentRecord} {encoded : Bytes} {w : View} (absent : b (filename (username m)) = none)
      (commits : Commits backend (b (filename (username m))) m (some record))
      (seals : Seals backend record encoded)
      (h : Creating backend.expectedOwner (username m) b encoded w) : CallView m b w
  | clearing {w : View} (commits : Commits backend (b (filename (username m))) m none)
      (h : Clearing (username m) b w) : CallView m b w

inductive Abandoned (m : Mutation) (b : View) : View → Prop where
  | idle : Abandoned m b b
  | notReplaced {record : EnrollmentRecord} {encoded : Bytes} {w : View}
      (exists_ : (b (filename (username m))).isSome)
      (commits : Commits backend (b (filename (username m))) m (some record))
      (seals : Seals backend record encoded)
      (h : NotReplaced backend.expectedOwner (username m) b encoded w) : Abandoned m b w
  | notCreated {w : View} (absent : b (filename (username m)) = none)
      (h : NotCreated backend.expectedOwner (username m) b w) : Abandoned m b w

inductive Committed (m : Mutation) (b : View) : Option EnrollmentRecord → View → Prop where
  | replaced {record : EnrollmentRecord} {encoded : Bytes} {w : View}
      (exists_ : (b (filename (username m))).isSome)
      (seals : Seals backend record encoded) (h : Replaced backend.expectedOwner (username m) b encoded w) :
      Committed m b (some record) w
  | created {record : EnrollmentRecord} {encoded : Bytes} (absent : b (filename (username m)) = none)
      (seals : Seals backend record encoded) :
      Committed m b (some record)
        (update b (filename (username m)) (some (recordNode backend.expectedOwner encoded)))
  | cleared : Committed m b none (update b (filename (username m)) none)

variable {A : Choice → Prop}

lemma anyhow : Calm A false True := .inl trivial

variable {m : Mutation} {after : Option EnrollmentRecord} {b v : View} {s' : Shared Directory}
  {u : CanonicalUsername} {α : Type} {Q : View → Prop} {good : α → View → Prop}
  {bad : StorageBackendError → View → Prop}
  {fatal : StorageBackendError → Prop}

lemma kind_of_readable {node : Option FileNode}
    (hc : Commits backend node m after) {file : FileNode} (hfile : node = some file) : file.kind ≠ .directory := by
  obtain ⟨header, -, hi, -⟩ := hc.readable file hfile
  have hr := hi.isRecordFile
  simp only [isRecordFile, Bool.and_eq_true, beq_iff_eq] at hr
  rw [hr.1.1.1]
  decide

lemma moves_hook {point : BackendHookPoint} {good : Unit → View → Prop} (hQ : Q v) (hgood : good () v)
    (hbad : ∀ e, bad e v) : Moves A Q v good bad fatal (hook point) := tries_hook.stays hQ (fun _ => hbad) hgood

lemma moves_encryptRecord {good : Bytes → View → Prop} (hQ : Q v)
    (hgood : ∀ encoded, Seals backend record encoded → good encoded v) (hbad : ∀ e, bad e v) :
    Moves A Q v good bad fatal (encryptRecord backend record) := by
  refine moves_query hQ fun c s _ _ => ?_
  cases hr : (do
    let nonce ← c.nonce
    Storage.encodeHowyenc1WithNonce backend.gcm record .aeadCached backend.keyEpoch backend.key nonce).mapError
      mapWriteStorageError with
  | error e => exact hbad e
  | ok encoded =>
    rw [mapError_eq_ok, bind_eq_ok] at hr
    obtain ⟨nonce, -, hn⟩ := hr
    exact hgood encoded ⟨nonce, hn⟩

lemma moves_openActive
    {good : Except IoKind FileNode → View → Prop} (hQ : Q b)
    (hopened : ∀ file, b (filename u) = some file → good (.ok file) b)
    (habsent : b (filename u) = none → good (.error .notFound) b)
    (hfailed : ∀ kind, kind ≠ .notFound → good (.error kind) b) :
    Moves A Q b good bad fatal (openRecord fun d => activeFile d u) := by
  have hlook : Within A Eq (fun s : Shared Directory => view s.disk = b) (OnResult
      (fun v => v = openNode (b (filename u)) ∨ True ∧ ∃ kind, kind ≠ .notFound ∧ v = .error kind) fun _ => False)
      (openRecord fun d => activeFile d u).run := by
    intro c s x s' hc hs hf
    have hnode := congrFun hs (filename u)
    obtain ⟨hg, -, hr⟩ := within_openRecord anyhow c s x s' hc hnode hf
    exact ⟨hg, hg ▸ hs, hr⟩
  refine moves_of_within hlook hQ ?_ fun e he => he.elim
  rintro v (rfl | ⟨-, kind, hk, rfl⟩)
  · cases hnode : b (filename u) with
    | none => exact habsent hnode
    | some file =>
      rw [openNode]
      split
      · exact hfailed _ (by decide)
      · exact hopened file hnode
  · exact hfailed kind hk

lemma moves_writeRecord (hc : Commits backend (b (filename (username m))) m (some record)) :
    Moves A (CallView backend m b) b (fun _ w => Committed backend m b (some record) w)
      (fun _ w => Abandoned backend m b w) (Fatal A) (writeRecord backend (files backend) record) := by
  have hname := hc.applies.named rfl
  have hidle : ∀ _ : StorageBackendError, Abandoned backend m b b := fun _ => .idle
  apply moves_bind
  refine moves_hook .idle ?_ hidle
  apply moves_bind
  refine moves_hook .idle ?_ hidle
  apply moves_bind
  refine moves_hook .idle ?_ hidle
  apply moves_bind
  refine moves_encryptRecord backend .idle (fun encoded hs => ?_) hidle
  apply moves_bind
  refine moves_of_reports reports_refuseIf .idle (fun _ _ => ?_) hidle
  apply moves_bind
  refine moves_openActive .idle (fun file hfile => ?_) (fun hnone => ?_) fun kind hk => ?_
  · apply moves_bind
    refine moves_of_reports (reports_reading anyhow) .idle (fun _ _ => ?_) hidle
    rw [hname] at hfile ⊢
    have hex := Option.isSome_iff_exists.mpr ⟨file, hfile⟩
    exact ((moves_installReplace _ _ b encoded hfile (kind_of_readable backend hc hfile)).weaken
      (fun _ w hw => .replaced hex hs hw)
      (fun _ w hw => .notReplaced hex hc hs hw) fun _ hf => hf).within fun w hw => .replacing hex hc hs hw
  · rw [hname] at hnone ⊢
    refine ((moves_installCreate _ _ b encoded).weaken (fun _ w hw => ?_)
      (fun _ w hw => .notCreated hnone hw) fun _ hf => hf).within fun w hw => .creating hnone hc hs hw
    rw [hw]
    exact .created hnone hs
  · cases kind with
    | notFound => exact absurd rfl hk
    | permissionDenied | alreadyExists | other => exact moves_throw .idle

lemma moves_clear (hc : Commits backend (b (filename (username m))) m none) :
    Moves A (CallView backend m b) b (fun _ w => Committed backend m b none w) (fun _ w => Abandoned backend m b w)
      (Fatal A) ((files backend).clearRecord (username m)) := by
  obtain ⟨file, hfile⟩ : ∃ file, b (filename (username m)) = some file := by
    cases hnode : b (filename (username m)) with
    | some file => exact ⟨file, rfl⟩
    | none =>
      have happlies := hc.applies
      rw [hnode] at happlies
      cases happlies with
      | clear present _ => cases present
  refine ((moves_clearRecord _ b hfile (kind_of_readable backend hc hfile)).weaken (fun _ w hw => ?_)
    (fun _ w hw => ?_) fun _ hf => hf).within fun w hw => .clearing hc hw
  · rw [hw]
    exact .cleared
  · rw [hw]
    exact .idle

structure Steady (s s' : Shared Directory) : Prop where
  disk : s'.disk = s.disk
  poisoned : s'.poisoned = s.poisoned
  cache : Shrinks s.cache s'.cache

lemma Steady.refl (s : Shared Directory) : Steady s s := ⟨rfl, rfl, Shrinks.refl s.cache⟩

lemma Steady.trans {s'' : Shared Directory} (h : Steady s s') (h' : Steady s' s'') : Steady s s'' :=
  ⟨h'.disk.trans h.disk, h'.poisoned.trans h.poisoned, h.cache.trans h'.cache⟩

lemma steady_of_quiet (h : Quiet s s') : Steady s s' := by
  obtain ⟨cache, rfl, hs⟩ := h
  exact ⟨rfl, rfl, hs⟩

variable {ρ : Type} {P : Shared Directory → Prop} {s₀ s : Shared Directory}

lemma safe_steady {R : α → Prop} {p : Prog Choice (Shared Directory) α} {post : α → Shared Directory → Prop}
    (h : Within A Steady P R p) (hP : P s) (hs : Steady s₀ s) (hQ : Q (view s₀.disk))
    (hpost : ∀ a s', R a → P s' → Steady s₀ s' → post a s') : Safe (quietly A Q) post p s := by
  have hkeep := h.keeping (I := Steady s₀) fun s s' _ hg hs => hs.trans hg
  have hQ' {s' : Shared Directory} (hs' : Steady s₀ s') : Q (view s'.disk) := hs'.disk.symm ▸ hQ
  refine hkeep.safe (fun _ hA => hA) ?_ ?_ ?_ ⟨hP, hs⟩ (hQ' hs)
  · intro s s' hs _ hg
    exact ⟨trivial, hQ' (hs.2.trans hg)⟩
  · rintro s _ hs rfl -
    exact hs
  · intro a s' hr hs' _
    exact hpost a s' hr hs'.1 hs'.2

lemma within_locks {acquire : Op Directory Unit} (h : Locks A acquire) :
    Within A Steady (fun _ => True) (OnResult (fun _ => True) fun _ => True) acquire.run := by
  apply (h.relax fun s s' hs => ⟨hs.disk, hs.poisoned, hs.cache ▸ Shrinks.refl s.cache⟩).weaken
  rintro (e | x) _ <;> trivial

lemma within_available : Within A Steady (fun _ => True) (OnResult (fun _ => True) fun _ => True)
    (ensureAvailable : Op Directory Unit).run := within_ensureAvailable.relax fun _ _ => steady_of_quiet

def Ended (A : Choice → Prop) (m : Mutation) (s₀ : Shared Directory) : BackendResult α → Shared Directory → Prop :=
  Results
    (fun _ s => s.poisoned = false ∧ ∃ after, Commits backend (activeFile s₀.disk (username m)) m after ∧
      Committed backend m (view s₀.disk) after (view s.disk))
    fun _ s => (s.poisoned = true ∧ (Faulty A ∨ s₀.poisoned = true)) ∨
      (s.poisoned = s₀.poisoned ∧ Shrinks s₀.cache s.cache ∧ Abandoned backend m (view s₀.disk) (view s.disk))

def Settled (s s' : Shared Directory) : Prop := s'.disk = s.disk ∧ s'.poisoned = s.poisoned

lemma within_cacheCommittedModel : Within A Settled (fun _ => True) (OnResult (fun _ => True) fun _ => False)
      (cacheCommittedModel backend u model permit : Op Directory Unit).run := by
  have honCache {β : Type} (f : Choice → CacheState → BackendResult β × CacheState) :
      Within A Settled (fun _ => True) (fun _ => True) (onCache f : Op Directory β).run :=
    within_action fun c s _ _ => ⟨⟨rfl, rfl⟩, trivial, trivial⟩
  refine Within.andThen (within_action fun c s _ _ => ⟨⟨rfl, rfl⟩, trivial, trivial⟩) fun _ => ?_
  cases model with
  | none => exact trivial
  | some model =>
    dsimp only
    split
    · exact trivial
    · exact Within.andThen (within_bind ((honCache _).weaken fun _ _ => trivial)) fun _ => trivial

lemma ended_of_steady (e : StorageBackendError) (h : Steady s₀ s) :
    Ended backend A m s₀ (.error e : BackendResult α) s := .inr ⟨h.poisoned, h.cache, h.disk ▸ .idle⟩

lemma safe_tail {result : ρ} {commit : Commit} (hQ : Q (view s.disk))
    (hc : Commits backend (activeFile s₀.disk (username m)) m after)
    (hd : Committed backend m (view s₀.disk) after (view s.disk)) (hpoisoned : s.poisoned = s₀.poisoned) :
    Safe (quietly A Q) (Ended backend A m s₀) (do
      ensureAvailable
      note commit
      cacheCommittedModel backend u model permit
      pure result : Op Directory ρ).run s := by
  apply safe_bindE
  apply safe_action
  intro c _
  refine ⟨trivial, hQ, ?_⟩
  rintro _ rfl _
  dsimp only
  split
  · exact .inl ⟨‹_›, .inr (hpoisoned ▸ ‹_›)⟩
  rename_i hp
  have hrest : Within A Settled (fun _ => True) (OnResult (fun _ => True) fun _ => False) (do
      note commit
      cacheCommittedModel backend u model permit
      pure result : Op Directory ρ).run :=
    Within.andThen (within_action fun c s _ _ => ⟨⟨rfl, rfl⟩, trivial, trivial⟩) fun _ =>
      Within.andThen (within_cacheCommittedModel backend) fun _ => trivial
  have hkeep := hrest.keeping (I := Settled s) fun a b _ hg hs => ⟨hg.1.trans hs.1, hg.2.trans hs.2⟩
  refine hkeep.safe (fun _ hA => hA) ?_ ?_ ?_ ⟨trivial, rfl, rfl⟩ hQ
  · intro a b _ hi hg
    exact ⟨trivial, show Q (view b.disk) from hg.1 ▸ hi⟩
  · rintro a _ hs rfl -
    exact hs
  rintro r b hr ⟨-, hdisk, hpois⟩ -
  cases r with
  | error e => exact hr.elim
  | ok x => exact ⟨hpois.trans (Bool.not_eq_true _ ▸ hp), after, hc, hdisk ▸ hd⟩

lemma ended_unlock {r : BackendResult α}
    (h : Ended backend A m s₀ r s) (hdisk : s'.disk = s.disk) (hpoisoned : s'.poisoned = s.poisoned)
    (hcache : s'.cache = s.cache) : Ended backend A m s₀ r s' := by
  cases r with
  | ok a =>
    rw [Ended, Results, hdisk, hpoisoned]
    exact h
  | error e =>
    rw [Ended, Results, hdisk, hpoisoned, hcache]
    exact h

abbrev Concludes (A : Choice → Prop) (m : Mutation) (s₀ : Shared Directory) (p : Op Directory ρ)
    (s : Shared Directory) : Prop :=
  Safe (quietly A (CallView backend m (view s₀.disk))) (Ended backend A m s₀) p.run s

variable {m : Mutation}

lemma safe_step {x : Op Directory α} {k : α → Op Directory ρ} {R : α → Prop}
    (h : Within A Steady P (OnResult R fun _ => True) x.run) (hP : P s) (hs : Steady s₀ s)
    (hk : ∀ a s', R a → Steady s₀ s' → Concludes backend A m s₀ (k a) s') :
    Concludes backend A m s₀ (x >>= k) s := by
  apply safe_bindE
  apply safe_steady h hP hs .idle
  intro r s' hr _ hs'
  cases r with
  | error e => exact ended_of_steady (α := ρ) backend e hs'
  | ok a => exact hk a s' hr hs'

lemma safe_locked {acquire : Op Directory Unit} {release : Shared Directory → Shared Directory}
    {body : Op Directory ρ} (h : Within A Steady (fun _ => True) (OnResult (fun _ => True) fun _ =>
      True) acquire.run)
    (hs : Steady s₀ s) (hrelease : ∀ s, Steady s (release s) ∧ (release s).cache = s.cache)
    (hbody : ∀ s', Steady s₀ s' → Concludes backend A m s₀ body s') :
    Concludes backend A m s₀ (guarded acquire release body) s := by
  apply safe_guarded
  apply safe_steady h trivial hs .idle
  intro r s hr _ hs
  cases r with
  | error e => exact ended_of_steady (α := ρ) backend e hs
  | ok x =>
    have hi : CallView backend m (view s₀.disk) (view s.disk) := hs.disk.symm ▸ .idle
    apply Safe.weaken ((hbody s hs).with_inv hi)
    rintro r s ⟨hr, hi⟩
    obtain ⟨hst, hcache⟩ := hrelease s
    refine ⟨trivial, show CallView backend m (view s₀.disk) (view (release s).disk) from hst.disk.symm ▸ hi, ?_⟩
    rintro _ rfl _
    exact ended_unlock backend hr hst.disk hst.poisoned hcache

lemma safe_commit {step : Op Directory Unit} {k : Unit → Op Directory ρ}
    (h : Moves A (CallView backend m (view s₀.disk)) (view s₀.disk)
      (fun _ w => Committed backend m (view s₀.disk) after w)
      (fun _ w => Abandoned backend m (view s₀.disk) w) (Fatal A) step) (hs : Steady s₀ s)
    (hk : ∀ s', Committed backend m (view s₀.disk) after (view s'.disk) →
      CallView backend m (view s₀.disk) (view s'.disk) → s'.poisoned = s₀.poisoned →
      Concludes backend A m s₀ (k ()) s') : Concludes backend A m s₀ (step >>= k) s := by
  have hi : CallView backend m (view s₀.disk) (view s.disk) := hs.disk.symm ▸ .idle
  have hstep := h s s.disk (congrArg view hs.disk)
  apply safe_bindE
  apply Safe.weaken (hstep.with_inv hi)
  rintro r s' ⟨hr, hi'⟩
  cases r with
  | ok x =>
    obtain ⟨d, rfl, hd⟩ := hr
    exact hk _ hd hi' hs.poisoned
  | error e =>
    rcases hr with ⟨d, rfl, hd⟩ | ⟨⟨hf, -⟩, d, rfl⟩
    · exact .inr ⟨hs.poisoned, hs.cache, hd⟩
    · exact .inl ⟨rfl, .inl hf⟩

lemma safe_mutate {n : ℕ} {prepare : Op Directory (Prepared ρ)}
    (hprepare : Reads A activeFile (username m) (activeFile s₀.disk (username m))
      (Planned backend (activeFile s₀.disk (username m)) m) prepare) :
    Concludes backend A m s₀ (mutate backend (files backend) n (username m) prepare) s₀ := by
  have hunlock : ∀ s : Shared Directory, Steady s (unlockReload n s) ∧ (unlockReload n s).cache = s.cache :=
    fun s => ⟨⟨rfl, rfl, Shrinks.refl s.cache⟩, rfl⟩
  have hunlockUser : ∀ s : Shared Directory, Steady s (unlockUser (username m) s) ∧
      (unlockUser (username m) s).cache = s.cache := fun s => ⟨⟨rfl, rfl, Shrinks.refl s.cache⟩, rfl⟩
  refine safe_locked backend (within_locks locks_lockReload) (Steady.refl s₀) hunlock fun s hs => ?_
  refine safe_step backend within_available trivial hs fun _ s _ hs => ?_
  refine safe_locked backend (within_locks locks_lockUser) hs hunlockUser fun s hs => ?_
  refine safe_step backend within_available trivial hs fun _ s _ hs => ?_
  refine safe_step backend (hprepare.relax fun _ _ => steady_of_quiet) (by rw [hs.disk]) hs
    fun prepared s hp hs => ?_
  have hcommits := hp.commits
  cases hrecord : prepared.record with
  | some record =>
    rw [hrecord] at hcommits
    exact safe_commit backend (moves_writeRecord backend hcommits) hs fun s hd hQ hp =>
      safe_tail backend hQ hcommits hd hp
  | none =>
    rw [hrecord] at hcommits
    exact safe_commit backend (moves_clear backend hcommits) hs fun s hd hQ hp =>
      safe_tail backend hQ hcommits hd hp

end Howy.Storage.Mode1
