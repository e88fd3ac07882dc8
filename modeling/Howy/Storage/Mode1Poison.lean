import Howy.Storage.Mode1Faults
import Howy.Storage.Mode1Permanence

namespace Howy.Storage.Mode1Poison

open Library Mode1 Mode1Faults
open Howyenc1Exact (zeroEntry glasses)

variable {D α β : Type} {bad : BackendResult α → Prop} {n : ℕ} {call : Call} {e : StorageBackendError}
  {u : CanonicalUsername} {acquire : Op D Unit} {provisional : Bool} {holder : Holder}

def Failed (r : BackendResult α) : Prop := ∃ e, r = .error e

/-- In a closed backend the program ends in `bad`; stopped anywhere, it is heedless or would still end so. -/
structure Guards (good bad : BackendResult α → Prop) (p : Op D α) : Prop where
  lasts : Lasts p
  dead : Dead Closed bad p.run
  checked : Checked Closed setPoisoned good bad p.run

abbrev Vetted (p : Op D α) : Prop := Guards (fun _ => True) Failed p

abbrev Refuses (p : Op D α) : Prop := Dead Closed (fun r => r = .error .unavailable) p.run

variable {x : Op D α} {cancellable : Bool} {f : α → β} {release : Shared D → Shared D} {k : α → Op D β}
  {k' : Unit → Op D α}

section

variable {good bad : BackendResult α → Prop} {good' bad' : BackendResult β → Prop}

lemma dead_of_lasts (h : Lasts x) : Dead Closed (fun _ => True) x.run := dead_of_within closed_of_permanent h

section

variable (hx : Guards good bad x) (herror : ∀ e, good' (.error e) ∧ bad' (.error e))

include hx herror

lemma guards_bind (hk : ∀ a, Lasts (k a))
    (hgood : ∀ a, good (.ok a) → Heedless good' (k a)) (hbad : ∀ a, bad (.ok a) → Dead Closed bad' (k a).run)
    (hchecked : ∀ a, Checked Closed setPoisoned good' bad' (k a).run) : Guards good' bad' (x >>= k) where
  lasts := lasts_bind hx.lasts hk
  dead := by
    refine within_bind (hx.dead.weaken fun r hr => ?_)
    cases r with
    | ok a => exact hbad a hr
    | error e => exact (herror e).2
  checked := checked_bindE hx.checked herror hgood hbad hchecked

lemma guards_cases
    (hk : ∀ a, (¬ bad (.ok a) ∧ Lasts (k a) ∧ Heedless good' (k a)) ∨ (¬ good (.ok a) ∧ Guards good' bad' (k a))) :
    Guards good' bad' (x >>= k) := by
  refine guards_bind hx herror (fun a => ?_) (fun a h => ?_) (fun a h => ?_) fun a => ?_
  · exact (hk a).elim (fun h => h.2.1) fun h => h.2.lasts
  · exact (hk a).elim (fun h => h.2.2) fun hg => absurd h hg.1
  · exact (hk a).elim (fun hb => absurd h hb.1) fun h => h.2.dead
  · exact (hk a).elim (fun h => checked_of_blind h.2.2) fun h => h.2.checked

end

lemma guards_after (hx : Lasts x) (herror : ∀ e, good' (.error e) ∧ bad' (.error e))
    (hk : ∀ a, Guards good' bad' (k a)) : Guards good' bad' (x >>= k) := by
  have hfree : Guards (fun _ => False) (fun _ => True) x :=
    ⟨hx, dead_of_lasts hx, checked_of_follows closed_of_permanent hx⟩
  exact guards_bind hfree herror (fun a => (hk a).lasts) (fun _ h => h.elim) (fun a _ => (hk a).dead)
    fun a => (hk a).checked

lemma guards_pure {a : α} (h : bad (.ok a)) : Guards good bad (pure a : Op D α) := ⟨trivial, h, trivial⟩

lemma guards_throw (h : bad (.error e)) : Guards good bad (throw e : Op D α) := ⟨trivial, h, trivial⟩

lemma guards_last (hx : Vetted x) (herror : ∀ e, good' (.error e) ∧ bad' (.error e))
    (hk : ∀ a, Lasts (k a)) (hheedless : ∀ a, Heedless good' (k a)) : Guards good' bad' (x >>= k) :=
  guards_bind hx herror hk (fun a _ => hheedless a) (fun a h => by obtain ⟨e, he⟩ := h; cases he)
    fun a => checked_of_blind (hheedless a)

variable {body : Op D α}

lemma guards_guarded (ha : Lasts acquire)
    (hr : ∀ s, Permanent s (release s)) (hput : ∀ b s, release (setPoisoned b s) = setPoisoned b (release s))
    (herror : ∀ e, good (.error e) ∧ bad (.error e)) (hall : ∀ r, good r ∨ bad r) (h : Guards good bad body) :
    Guards good bad (guarded acquire release body) where
  lasts := follows_guarded ha hr h.lasts
  dead := by
    refine dead_guarded ((dead_of_lasts ha).weaken fun r _ => ?_) (fun s => closed_of_permanent _ _ (hr s)) h.dead
    cases r with
    | ok _ => exact trivial
    | error e => exact (herror e).2
  checked := checked_guarded closed_of_permanent ha hr hput herror hall h.dead h.checked

section

variable (herror : ∀ e, good (.error e) ∧ bad (.error e)) (hall : ∀ r, good r ∨ bad r)

include herror hall

lemma guards_holdingReload (h : ∀ a, Guards good bad (k' a)) :
    Guards good bad (holdingReload n cancellable (ensureAvailable >>= k')) :=
  guards_guarded (lasts_of_locks locks_lockReload) permanent_unlockReload (fun _ _ => rfl) herror hall
    (guards_after lasts_query herror h)

lemma guards_holdingUser (h : ∀ a, Guards good bad (k' a)) :
    Guards good bad (holdingUser holder u cancellable (ensureAvailable >>= k')) :=
  guards_guarded (lasts_of_locks locks_lockUser) permanent_unlockUser (fun _ _ => rfl) herror hall
    (guards_after lasts_query herror h)

end

lemma failing (e : StorageBackendError) : True ∧ Failed (.error e : BackendResult α) := ⟨trivial, e, rfl⟩

lemma vetted_after (hx : Lasts x) (hk : ∀ a, Vetted (k a)) : Vetted (x >>= k) := guards_after hx failing hk

lemma vetted_last (hx : Vetted x) (hk : ∀ a, Free (k a)) : Vetted (x >>= k) :=
  guards_last hx failing (fun a => (hk a).lasts) fun a => (hk a).heedless

lemma vetted_throw : Vetted (throw e : Op D α) := guards_throw ⟨e, rfl⟩

lemma vetted_holdingReload (h : ∀ a, Vetted (k' a)) :
    Vetted (holdingReload n cancellable (ensureAvailable >>= k')) :=
  guards_holdingReload failing (fun _ => .inl trivial) h

lemma vetted_holdingUser (h : ∀ a, Vetted (k' a)) :
    Vetted (holdingUser holder u cancellable (ensureAvailable >>= k')) :=
  guards_holdingUser failing (fun _ => .inl trivial) h

lemma dead_ensureAvailable : Refuses (ensureAvailable : Op D Unit) := by
  apply within_action
  intro c s _ hs
  refine ⟨trivial, hs, ?_⟩
  dsimp only
  rw [if_pos hs.1]

lemma vetted_ensureAvailable : Vetted (ensureAvailable : Op D Unit) := by
  have hdead : Dead Closed Failed (ensureAvailable : Op D Unit).run :=
    dead_ensureAvailable.weaken fun r h => ⟨_, h⟩
  exact ⟨lasts_query, hdead, .inr hdead, fun _ _ _ _ _ => trivial⟩

lemma vetted_result {x : BackendResult α} : Vetted (ensureAvailable >>= fun _ => fromExcept x : Op D α) :=
  vetted_last vetted_ensureAvailable fun _ => plain_fromExcept

lemma vetted_map (hx : Vetted x) : Vetted (f <$> x) := by
  exact vetted_last hx fun a => plain_pure

end

section

variable {backend : Mode1StorageBackend} {n : ℕ} {u : CanonicalUsername}

lemma vetted_mutate {ρ : Type} {prepare : Op Directory (Prepared ρ)} (h : Lasts prepare) :
    Vetted (mutate backend (files backend) n u prepare) := by
  refine vetted_holdingReload fun _ => ?_
  refine vetted_holdingUser fun _ => ?_
  refine vetted_after h fun prepared => ?_
  have hcommit (after : Option EnrollmentRecord) : Vetted (do
      ensureAvailable
      note ⟨n, prepared.mutation, after⟩
      cacheCommittedModel backend u prepared.model prepared.permit
      pure prepared.result : Op Directory ρ) := by
    refine vetted_last vetted_ensureAvailable fun _ => ?_
    refine (plain_aside (fun _ _ => rfl) (fun _ _ => rfl) fun _ _ b => ⟨rfl, b, rfl⟩).bind fun _ => ?_
    exact plain_cacheCommittedModel.bind fun _ => plain_pure
  cases prepared.record with
  | some record => exact vetted_after plain_writeRecord.lasts fun _ => hcommit _
  | none => exact vetted_after plain_clearRecord.lasts fun _ => hcommit _

lemma vetted_authenticate : Vetted (authenticate backend (files backend) n u) := by
  refine vetted_holdingReload fun _ => ?_
  refine vetted_after (plain_onCache fun _ s => endures_touch).lasts fun found => ?_
  cases found with
  | some lease => exact vetted_result
  | none =>
    refine vetted_holdingUser fun _ => ?_
    refine vetted_after (plain_onCache fun _ s => endures_touch).lasts fun found => ?_
    cases found with
    | some lease => exact vetted_result
    | none =>
      refine vetted_after (plain_captured plain_authenticateCold).lasts fun result => ?_
      exact vetted_result

lemma vetted_unavailableIfDisturbed : Vetted (unavailableIfDisturbed cancellable : Op D Unit) := by
  refine vetted_after lasts_query fun cancelled => ?_
  cases cancelled with
  | true => exact vetted_throw
  | false => exact vetted_ensureAvailable

def Passed : BackendResult Lookup → Prop
  | .ok (.warm _) => True
  | .ok _ => False
  | .error _ => True

def Pending : BackendResult Lookup → Prop
  | .ok (.warm _) => False
  | _ => True

lemma passed_or_pending (r : BackendResult Lookup) : Passed r ∨ Pending r := by
  cases r with
  | error e => exact .inl trivial
  | ok found =>
    cases found with
    | warm lease => exact .inl trivial
    | warmLocked lease | cold result => exact .inr trivial

lemma guards_lookupModel : Guards Passed Pending (lookupModel backend (files backend) n u cancellable
    provisional) := by
  have herror (e : StorageBackendError) : Passed (.error e) ∧ Pending (.error e) := ⟨trivial, trivial⟩
  refine guards_holdingReload herror passed_or_pending fun _ => ?_
  refine guards_after (plain_onCache fun _ s => endures_touch).lasts herror fun found => ?_
  cases found with
  | some lease => exact guards_last vetted_unavailableIfDisturbed herror (fun _ => trivial) fun _ => trivial
  | none =>
    refine guards_holdingUser herror passed_or_pending fun _ => ?_
    refine guards_after (plain_onCache fun _ s => endures_touch).lasts herror fun found => ?_
    cases found with
    | some lease => exact guards_pure trivial
    | none =>
      refine guards_after (plain_captured plain_authenticateCold).lasts herror fun result => ?_
      exact guards_pure trivial

def Available : BackendResult (BackendResult Unit) → Prop
  | .ok (.error _) => False
  | _ => True

def Unavailable : BackendResult (BackendResult Unit) → Prop
  | .ok (.ok _) => False
  | _ => True

lemma guards_capturedAvailable : Guards Available Unavailable (captured ensureAvailable : Op D _) := by
  have hdead : Dead Closed Unavailable (captured ensureAvailable : Op D _).run := by
    refine within_bind (dead_ensureAvailable.weaken fun r hr => ?_)
    rw [hr]
    exact trivial
  exact ⟨follows_bind lasts_query fun _ => trivial, hdead, .inr hdead, fun _ _ _ _ _ => trivial⟩

lemma vetted_authenticateActiveInternal :
    Vetted (authenticateActiveInternal backend (files backend) n u cancellable provisional) := by
  refine guards_cases guards_lookupModel failing fun found => ?_
  cases found with
  | warm lease => exact .inl ⟨fun h => h, trivial, trivial⟩
  | warmLocked lease =>
    refine .inr ⟨fun h => h, ?_⟩
    exact vetted_last vetted_unavailableIfDisturbed fun _ => plain_pure
  | cold result =>
    refine .inr ⟨fun h => h, guards_cases guards_capturedAvailable failing fun available => ?_⟩
    cases available with
    | ok _ => exact .inl ⟨fun h => h, trivial, trivial⟩
    | error e =>
      refine .inr ⟨fun h => h, vetted_after ?_ fun _ => vetted_throw⟩
      exact lasts_action fun _ s => permanent_of_endures rfl (.refl _)

lemma lasts_snapshotGeneration : Lasts (snapshotGeneration n u : Op D (Option UInt64)) := by
  apply lasts_action
  intro c s
  have htouch : Endures s.cache (s.cache.generation u).2 := endures_touch
  split
  next hcache =>
    rw [hcache] at htouch
    exact permanent_of_endures rfl htouch
  next cache hcache =>
    rw [hcache] at htouch
    exact permanent_of_endures rfl htouch

lemma vetted_promptSnapshot : Vetted (promptSnapshot backend (files backend) n u) := by
  refine vetted_holdingReload fun _ => ?_
  refine vetted_after lasts_snapshotGeneration fun found => ?_
  cases found with
  | some g => exact vetted_result
  | none =>
    refine vetted_last ?_ fun candidate => plain_pure
    refine vetted_holdingUser fun _ => ?_
    refine vetted_after lasts_snapshotGeneration fun found => ?_
    cases found with
    | some g => exact vetted_result
    | none =>
      refine vetted_after (lasts_action fun _ s => permanent_of_endures rfl (.refl _)) fun _ => ?_
      refine vetted_after plain_inspectRecord.lasts fun inspected => ?_
      cases inspected with
      | none => exact vetted_result
      | some i => exact vetted_result

lemma vetted_candidatePresence : Vetted (candidatePresence backend (files backend) n u) := by
  have hgeneration : Lasts (cacheGeneration u : Op Directory (Option UInt64)) :=
    (plain_onCache fun _ s => endures_touch).lasts
  refine vetted_holdingReload fun _ => ?_
  refine vetted_after hgeneration fun found => ?_
  cases found with
  | some g => exact vetted_result
  | none =>
    refine vetted_holdingUser fun _ => ?_
    refine vetted_after hgeneration fun found => ?_
    cases found with
    | some g => exact vetted_result
    | none =>
      refine vetted_after (plain_captured plain_loadRecord).lasts fun result => ?_
      exact vetted_result

lemma vetted_listMetadata : Vetted (listMetadata backend (files backend) n u) := by
  refine vetted_holdingReload fun _ => ?_
  refine vetted_holdingUser fun _ => ?_
  refine vetted_after (plain_captured plain_loadRecord).lasts fun result => ?_
  exact vetted_result

lemma vetted_admitEnrollment {plaintextBytes : ℕ} {shape : AppendAdmissionShape} {held : Bool} :
    Vetted (admitEnrollment backend (files backend) n u plaintextBytes shape held) := by
  refine vetted_after plain_refuseIf.lasts fun _ => ?_
  refine vetted_holdingReload fun _ => ?_
  refine vetted_holdingUser fun _ => ?_
  refine vetted_after plain_inspectRecord.lasts fun inspected => ?_
  refine vetted_after plain_fromExcept.lasts fun estimate => ?_
  refine vetted_after ?_ fun admission => vetted_result
  refine (Free.bind ?_ fun _ => plain_pure).lasts
  exact plain_onCache fun c s => .of_evicts evicts_reserveEnrollmentExcept

lemma vetted_reload : Vetted (reload (files backend) n) := by
  have hunlock (s : Shared Directory) : Permanent s (unlockReloadWrite s) := permanent_of_endures rfl (.refl _)
  refine guards_guarded (lasts_of_locks locks_lockReloadWrite) hunlock (fun _ _ => rfl) failing
    (fun _ => .inl trivial) ?_
  refine vetted_last vetted_ensureAvailable fun _ => ?_
  refine (plain_onCache fun _ s => ⟨rfl, fun _ _ => rfl⟩).bind fun _ => ?_
  exact plain_scanOuterHeaders

lemma refuses_first : Refuses (ensureAvailable >>= k') := by
  refine within_bind (dead_ensureAvailable.weaken fun r hr => ?_)
  rw [hr]
  exact rfl

lemma refuses_guarded (ha : Locks (fun _ => True) acquire) (hr : ∀ s, Permanent s (release s)) :
    Refuses (guarded acquire release (ensureAvailable >>= k')) := by
  have hlock : Dead Closed (OnResult (fun _ => True) fun e => (.error e : BackendResult α) = .error .unavailable)
      acquire.run := by
    refine (dead_of_within closed_of_permanent (ha.relax fun _ _ => permanent_of_onlyLocks)).weaken fun r hr => ?_
    cases r with
    | ok _ => exact trivial
    | error e => exact congrArg Except.error hr
  exact dead_guarded hlock (fun s => closed_of_permanent _ _ (hr s)) refuses_first

lemma refuses_holdingReload : Refuses (holdingReload n cancellable (ensureAvailable >>= k')) :=
  refuses_guarded locks_lockReload permanent_unlockReload

lemma refuses_bind (h : Refuses x) :
    Refuses (x >>= k) := by
  refine within_bind (h.weaken fun r hr => ?_)
  rw [hr]
  exact rfl

lemma refuses_map (h : Refuses x) :
    Refuses (f <$> x) := by
  exact refuses_bind h

end

def Refused : Request → BackendResult Reply → Prop
  | .health, r => r = .ok (.health (.unavailable .integrity))
  | .call (.promoteIf _), r => r ≠ .ok (.answer (.promoted true))
  | _, r => r = .error .unavailable

def Failing : Request → BackendResult Reply → Prop
  | .health, r => r = .ok (.health (.unavailable .integrity))
  | .call (.promoteIf _), r => r ≠ .ok (.answer (.promoted true))
  | _, r => Failed r

def Checks : Request → Prop
  | .health => False
  | .call (.promoteIf _) => False
  | _ => True

variable (backend : Mode1StorageBackend)

abbrev Body := Prog Choice (Shared Directory) (BackendResult Reply)

def body (n : ℕ) (request : Request) : Body := (request.op backend (files backend) n).run

abbrev Vigilant (request : Request) : Body → Prop :=
  Checked Closed setPoisoned (fun _ => Checks request) (Failing request)

section

variable (n : ℕ)

lemma vetted_call (h : ∀ k, call ≠ .promoteIf k) : Vetted (call.op backend (files backend) n) := by
  cases call with
  | append request => exact vetted_map (vetted_mutate lasts_planAppend)
  | appendAdmitted request operation =>
    exact vetted_map (vetted_mutate plain_planAppendAdmitted.lasts)
  | remove request => exact vetted_map (vetted_mutate plain_planRemove.lasts)
  | clear request => exact vetted_map (vetted_mutate plain_planClear.lasts)
  | reload => exact vetted_map vetted_reload
  | authenticate u => exact vetted_map vetted_authenticate
  | authenticateCancellable u => exact vetted_map vetted_authenticateActiveInternal
  | authenticateActive u => exact vetted_map vetted_authenticateActiveInternal
  | promoteIf k => exact absurd rfl (h k)
  | promptSnapshot u => exact vetted_map vetted_promptSnapshot

lemma refuses_call (h : ∀ k, call ≠ .promoteIf k) :
    Refuses (call.op backend (files backend) n) := by
  cases call with
  | reload => exact refuses_map (refuses_guarded locks_lockReloadWrite fun _ => permanent_of_endures rfl (.refl _))
  | authenticateCancellable u | authenticateActive u => exact refuses_map (refuses_bind refuses_holdingReload)
  | promoteIf k => exact absurd rfl (h k)
  | _ => exact refuses_map refuses_holdingReload

abbrev Sudden (bad : BackendResult α → Prop) (p : Op D α) : Prop := Guards (fun _ => False) bad p

lemma sudden_action {f : Choice → Shared D → BackendResult α × Shared D} (h : ∀ c s, Permanent s (f c s).2)
    (hbad : ∀ c s, Closed s → bad (f c s).1) : Sudden bad (action f) := by
  have hdead : Dead Closed bad (action f).run :=
    within_action fun c s _ hs => ⟨trivial, closed_of_permanent _ _ (h c s) hs, hbad c s hs⟩
  exact ⟨lasts_action h, hdead, .inr hdead, fun _ _ _ _ _ => trivial⟩

lemma sudden_map {bad' : BackendResult β → Prop}
    (hx : Sudden bad x) (h : ∀ r, bad r → bad' (r.map f)) : Sudden bad' (f <$> x) := by
  have hresult (r : BackendResult α) (hr : bad r) :
      Dead (C := Choice) (Closed (D := D)) bad' (ExceptT.bindCont (fun a => pure (f a)) r) := by
    have hr' := h r hr
    cases r with
    | ok a | error e => exact hr'
  refine ⟨lasts_bind hx.lasts fun a => trivial, within_bind (hx.dead.weaken hresult), ?_⟩
  refine checked_bind hx.checked (fun _ h => h.elim) hresult fun r => ?_
  cases r <;> exact trivial

lemma sudden_promoteIf {k : ℕ} : Sudden (fun r => r ≠ .ok true) (promoteIf backend.cacheLimits k : Op D Bool) := by
  apply sudden_action
  · intro c s
    cases hk : s.promotions k with
    | none => exact .refl s
    | some p =>
      exact permanent_of_endures rfl (.of_inserts inserts_insertProvisional)
  · intro c s hs
    cases hk : s.promotions k with
    | none => exact fun h => by cases h
    | some p => exact insertProvisional_refused hs.2.1

lemma sudden_health : Sudden (fun r => r = .ok (.unavailable .integrity)) (health : Op D BackendHealth) := by
  refine sudden_action (fun _ s => .refl s) fun c s hs => ?_
  dsimp only
  rw [if_pos hs.1]

lemma guards_body (request : Request) :
    Guards (fun _ => Checks request) (Failing request) (request.op backend (files backend) n) := by
  cases request with
  | call c =>
    cases c with
    | promoteIf k =>
      have hpromoted : Sudden (fun r => r ≠ .ok (.promoted true))
          (Call.op backend (files backend) n (.promoteIf k)) := by
        refine sudden_map (sudden_promoteIf backend) fun r hr => ?_
        cases r with
        | error e => exact fun h => by cases h
        | ok published => exact fun h => hr (by cases h; rfl)
      refine sudden_map hpromoted fun r hr => ?_
      cases r with
      | error e => exact fun h => by cases h
      | ok answer => exact fun h => hr (by cases h; rfl)
    | _ => exact vetted_map (vetted_call backend n fun k => by simp)
  | candidatePresence u => exact vetted_map vetted_candidatePresence
  | listMetadata u | verifyRecord u => exact vetted_map vetted_listMetadata
  | admitEnrollment u plaintextBytes shape held =>
    exact vetted_map vetted_admitEnrollment
  | health =>
    refine sudden_map sudden_health fun r hr => ?_
    rw [hr]
    exact rfl

lemma refuses_body (request : Request) : Dead Closed (Refused request) (body backend n request) := by
  cases request with
  | call c =>
    cases c with
    | promoteIf k => exact (guards_body backend n (.call (.promoteIf k))).dead
    | _ => exact refuses_map (refuses_call backend n fun k => by simp)
  | admitEnrollment u plaintextBytes shape held =>
    refine refuses_map ?_
    cases held with
    | true => exact rfl
    | false => exact refuses_holdingReload
  | health => exact (guards_body backend n .health).dead
  | _ => exact refuses_map refuses_holdingReload

end

def Idle (s : Shared D) : Prop := s.readers = [] ∧ s.writer = none

def Returns (p : Op D α) : Prop :=
  ∀ s choices, Closed s → Idle s → 3 ≤ choices.length → ∃ r s', p.run.run choices s = some (r, s')

lemma returns_bind (hx : Returns x)
    (hdead : Refuses x) : Returns (x >>= k) := by
  intro s choices hs hidle hlength
  obtain ⟨r, s', hrun⟩ := hx s choices hs hidle hlength
  cases hdead.result_of_run (fun _ _ => trivial) hs hrun
  exact ⟨.error .unavailable, s', Prog.run_bind_of_done hrun rfl⟩

lemma returns_map (hx : Returns x) : Returns (f <$> x) := by
  intro s choices hs hidle hlength
  obtain ⟨r, s', hrun⟩ := hx s choices hs hidle hlength
  cases r with
  | ok a => exact ⟨.ok (f a), s', Prog.run_bind_of_done hrun rfl⟩
  | error e => exact ⟨.error e, s', Prog.run_bind_of_done hrun rfl⟩

lemma returns_action {f : Choice → Shared D → BackendResult α × Shared D} : Returns (action f) := by
  intro s choices _ _ hlength
  match choices, hlength with
  | c :: _, _ => exact ⟨(f c s).1, (f c s).2, rfl⟩

lemma returns_guarded {lock : Choice → Shared D → Option (BackendResult Unit × Shared D)}
    (h : ∀ c s, Closed s → Idle s → ∃ r s', lock c s = some (r, s') ∧ Closed s') :
    Returns (guarded (ExceptT.mk (Prog.atomic lock)) release (ensureAvailable >>= k')) := by
  intro s choices hs hidle hlength
  match choices, hlength with
  | c₁ :: c₂ :: c₃ :: rest, _ =>
    obtain ⟨r, s₁, hlock, hs₁⟩ := h c₁ s hs hidle
    cases r with
    | error e => exact ⟨.error e, s₁, Prog.run_act hlock⟩
    | ok _ =>
      have hcheck : some ((if s₁.poisoned then .error .unavailable else .ok () : BackendResult Unit), s₁) =
          some (.error .unavailable, s₁) := by rw [if_pos hs₁.1]
      refine ⟨.error .unavailable, release s₁, (Prog.run_act hlock).trans ?_⟩
      exact (Prog.run_act (x := (.error .unavailable : BackendResult Unit)) hcheck).trans rfl

lemma returns_holdingReload : Returns (holdingReload n cancellable (ensureAvailable >>= k')) := by
  refine returns_guarded fun c s hs hidle => ?_
  split
  · exact ⟨_, s, rfl, hs⟩
  · rw [if_pos hidle.2]
    exact ⟨_, _, rfl, hs⟩

lemma returns_call : Returns (call.op backend (files backend) n) := by
  cases call with
  | reload =>
    refine returns_map (returns_guarded fun c s hs hidle => ?_)
    rw [Bool.false_and, if_neg Bool.false_ne_true, if_pos ⟨hidle.2, hidle.1⟩]
    exact ⟨_, _, rfl, hs⟩
  | authenticateCancellable u | authenticateActive u =>
    exact returns_map (returns_bind returns_holdingReload refuses_holdingReload)
  | promoteIf k => exact returns_map returns_action
  | _ => exact returns_map returns_holdingReload

lemma returns_body (n : ℕ) (request : Request) : Returns (request.op backend (files backend) n) := by
  cases request with
  | call c => exact returns_map (returns_call backend)
  | admitEnrollment u plaintextBytes shape held =>
    refine returns_map ?_
    cases held with
    | true => exact fun s _ _ _ _ => ⟨.error .unavailable, s, rfl⟩
    | false => exact returns_holdingReload
  | health => exact returns_map returns_action
  | _ => exact returns_map returns_holdingReload

structure Shut (backend : Mode1StorageBackend) (x y : System Choice (Shared Directory) Request
    (BackendResult Reply)) : Prop where
  poisoned : y.shared.poisoned = true
  disabled : y.shared.cache.disabled = true
  empty : y.shared.cache.entries = ∅
  later : ∀ n request r, x.next ≤ n → y.calls n = some (request, .done r) → Refused request r
  overtaken : ∀ n request p r, x.calls n = some (request, p) → (∀ r', p ≠ .done r') →
    y.calls n = some (request, .done r) → Failing request r ∨
    (Checks request ∧ Blind setPoisoned (fun _ => True) p)
  returns : Idle y.shared → ∀ n request choices, 3 ≤ choices.length →
    ∃ r s', (body backend n request).run choices y.shared = some (r, s') ∧ Refused request r

/-- Once the flag is set and the cache disabled, whatever was under way and whatever comes later: the cache stays
empty, later requests are refused, and of those under way only a request that makes no further check can still
succeed. -/
theorem mode1_poisoning_permanent (d : Directory) (events later : List (Event Choice Request))
    (hpoisoned : (reached (body backend) { disk := d } events).shared.poisoned = true)
    (hdisabled : (reached (body backend) { disk := d } events).shared.cache.disabled = true) :
    Shut backend (reached (body backend) { disk := d } events)
    (reached (body backend) { disk := d } (events ++ later)) := by
  have hbody (n : ℕ) (request : Request) : Follows Permanent (body backend n request) ∧
      Vigilant request (body backend n request) :=
    ⟨(guards_body backend n request).lasts, (guards_body backend n request).checked⟩
  have hQ (request : Request) : HandedOn (fun _ => True) (Vigilant request) := handedOn_checked
  -- a cache is empty as soon as it is disabled
  have hspent : (reached (body backend) { disk := d } events).shared.cache.disabled = true →
      Spent (reached (body backend) { disk := d } events).shared.cache :=
    kept_reached
      (fun s s' h hs hd => (h.disabled hd).elim (fun hd => h.spent (hs hd)) id) hQ hbody
      (fun h => absurd h Bool.false_ne_true) events
  have hrun := running_reached hQ hbody { disk := d } events
  have hresumes := resumes_reached closed_of_permanent hQ hbody ⟨hpoisoned, hspent hdisabled⟩ later
  obtain ⟨hflag, hd, he⟩ := hresumes.holds
  refine ⟨hflag, hd, he, fun n request r hn hr => ?_, fun n request p r hp hopen hr => ?_,
    fun hidle n request choices hlength => ?_⟩
  · exact hresumes.begun n request _ hn hr _ handedOn_dead (refuses_body backend n request)
  · obtain ⟨p', hp', hkept⟩ := hresumes.resumed n request p hp
    rw [hr, Option.some.injEq] at hp'
    obtain ⟨-, rfl⟩ := hp'
    have hchecked := hrun.inherits n request p hp
    cases p with
    | done r' => exact absurd rfl (hopen r')
    | act γ f k =>
      rcases hchecked.1 with hblind | hdead
      · have hchecks := hkept _ (handedOn_blind Closed setPoisoned fun _ => Checks request) hblind
        exact .inr ⟨hchecks, Blind.weaken hblind fun _ _ => trivial⟩
      · exact .inl (hkept _ handedOn_dead hdead)
  · obtain ⟨r, s', hrun⟩ := returns_body backend n request _ choices ⟨hflag, hd, he⟩ hidle hlength
    exact ⟨r, s', hrun, (refuses_body backend n request).result_of_run (fun _ _ => trivial) ⟨hflag, hd, he⟩ hrun⟩

def bob : CanonicalUsername := ⟨"bob", by decide⟩

def failingCommit : Choice where
  hook point := if point = .afterRename ∨ point = .rollbackRename then some .unavailable else none

def aliceAppend : Request := .call (.append (aliceRequest 1 0))

def bobAppend : Request :=
  .call (.append ⟨bob, 0, [zeroEntry 1 glasses], List.cons_ne_nil _ _⟩)

def overtakingEvents : List (Event Choice Request) :=
  .invoke aliceAppend :: List.replicate 28 (.step 0 {}) ++ .invoke bobAppend :: List.replicate 40
    (.step 1 failingCommit)

def unlockingEvents : List (Event Choice Request) := List.replicate 2 (.step 0 {})

lemma overtaking_poisons : (reached (body copyBackend) { disk := ∅ } overtakingEvents).shared.poisoned ∧
      (reached (body copyBackend) { disk := ∅ } overtakingEvents).shared.cache.disabled := by decide +kernel

theorem mode1_poisoning_permanent_overtaking :
    Shut copyBackend (reached (body copyBackend) { disk := ∅ } overtakingEvents)
      (reached (body copyBackend) { disk := ∅ } (overtakingEvents ++ unlockingEvents)) :=
  mode1_poisoning_permanent copyBackend ∅ overtakingEvents unlockingEvents overtaking_poisons.1
    overtaking_poisons.2

def returned : Option (Request × Body) → Option (BackendResult Reply)
  | some (_, .done r) => some r
  | _ => none

lemma returned_eq_some {x : Option (Request × Body)} {r : BackendResult Reply} (h : returned x = some r) :
    ∃ request, x = some (request, .done r) := by
  cases x with
  | none => cases h
  | some call =>
    obtain ⟨request, p⟩ := call
    cases p with
    | done r' =>
      cases h
      exact ⟨request, rfl⟩
    | act γ f k => cases h

/-- The first append had passed its last check when the second one poisoned the backend, and still succeeds. -/
theorem overtaken_append_succeeds : ∃ (events later : List (Event Choice Request)) (n : ℕ) (result : AppendResult),
    (reached (body copyBackend) { disk := ∅ } events).shared.poisoned = true ∧
    (reached (body copyBackend) { disk := ∅ } events).shared.cache.disabled = true ∧
    returned ((reached (body copyBackend) { disk := ∅ } events).calls n) = none ∧
    ∃ request, (reached (body copyBackend) { disk := ∅ } (events ++ later)).calls n =
      some (request, .done (.ok (.answer (.appended result)))) := by
  have hreturned : returned ((reached (body copyBackend) { disk := ∅ } overtakingEvents).calls 0) = none ∧
      returned ((reached (body copyBackend) { disk := ∅ } (overtakingEvents ++ unlockingEvents)).calls 0) =
        some (.ok (.answer (.appended ⟨1, 1, 1⟩))) := by decide +kernel
  exact ⟨overtakingEvents, unlockingEvents, 0, ⟨1, 1, 1⟩, overtaking_poisons.1, overtaking_poisons.2, hreturned.1,
    returned_eq_some hreturned.2⟩

end Howy.Storage.Mode1Poison
