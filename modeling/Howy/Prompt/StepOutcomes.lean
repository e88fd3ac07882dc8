import Howy.Prompt.Outcomes

namespace Howy.Prompt

open Library Storage
open Daemon.Access (CanonicalIdentity)

/-- The world in which a call takes the lock: a handle may be gone and control blocks may be cancelled. -/
structure Prelude (w v : World) : Prop where
  state : v.state = w.state
  nextHandle : v.nextHandle = w.nextHandle
  hashed : w.hashed ⊆ v.hashed
  covered : Covered w → Covered v
  handles : ∀ h x, v.handles.lookup h = some x → w.handles.lookup h = some x
  controls : ∀ id c, v.controls.lookup id = some c → c.cancelled = true ∨ w.controls.lookup id = some c
  keeps : ∀ id c, w.controls.lookup id = some c → ∃ c', v.controls.lookup id = some c'

structure Follows (m : ManagerInner) (w w' : World) : Prop where
  invariant : Invariant m w'
  covered : Covered w → Covered w'
  keeps : ∀ id c, w.controls.lookup id = some c → ∃ c', w'.controls.lookup id = some c'
  nextHandle : w.nextHandle ≤ w'.nextHandle
  closed : w.state.terminal = true → w'.state = w.state

structure Calm (m : ManagerInner) (w w' : World) : Prop extends Follows m w w' where
  frame : Frame w w'
  handles : ∀ h x, w'.handles.lookup h = some x → w.handles.lookup h = some x ∨ Plain x

structure Stepped (m : ManagerInner) (w : World) (e : Event) (r : World × Response) : Prop where
  follows : Follows m w r.1
  happened : Happened m w e r.1 r.2
  answer : Answer e r.2

variable {m : ManagerInner} {w v w' w'' : World} {e : Event} {h handle : ℕ} {now : Instant} {x : Handle}
  {peerUid targetUid : UInt32} {claim : CommitClaim} {token t : PromptToken} {nonce : PromptNonce}
  {s' : ManagerState}

lemma Prelude.refl (w : World) : Prelude w w :=
  ⟨rfl, rfl, fun _ hm => hm, id, fun _ _ hx => hx, fun _ _ => .inr, fun _ c hc => ⟨c, hc⟩⟩

lemma Prelude.consume (w : World) (h : ℕ) : Prelude w (consume w h) :=
  { Prelude.refl w with handles := fun _ _ hx => (lookup_of_erase hx).1 }

lemma Prelude.noteHashed (hv : Prelude w v) (inputs : List Bytes) : Prelude w (noteHashed v inputs) :=
  { hv with hashed := fun _ hm => List.mem_append_left _ (hv.hashed hm) }

lemma Prelude.cancelControl (hv : Prelude w v) (id : ℕ) : Prelude w (cancelControl v id) := by
  have hcov : Covered v → Covered (Prompt.cancelControl v id) :=
    fun hc => covered_cancelControl fun j c _ => hc j c
  have hl := lookup_cancelControl v id
  obtain ⟨controls, hc⟩ := cancelControl_eq
  rw [hc] at hl hcov ⊢
  refine { hv with covered := hcov ∘ hv.covered, controls := fun j c hj => ?_, keeps := fun j c hj => ?_ }
  · rw [hl] at hj
    split at hj
    · obtain ⟨c', -, rfl⟩ := Option.map_eq_some_iff.mp hj
      exact .inl rfl
    · exact hv.controls j c hj
  · obtain ⟨c', hc'⟩ := hv.keeps j c hj
    rw [hl]
    split
    next hid =>
      exact ⟨_, by rw [← hid, hc']; rfl⟩
    · exact ⟨c', hc'⟩

lemma Prelude.runCleanup {k : FailClosedCleanup} {rest : List FailClosedCleanup} (hk : w.cleanups = k :: rest) :
    Prelude w (runCleanup { w with cleanups := rest } k) := by
  have hcov := fun hw : Covered w => covered_runCleanup hw hk
  have hl := lookup_foldl_cancelControl k.controls
    { w with cleanups := rest, shutStreams := w.shutStreams ++ k.shutdownWakers }
  obtain ⟨controls, hc⟩ := foldl_cancelControl_eq
    { w with cleanups := rest, shutStreams := w.shutStreams ++ k.shutdownWakers }
  rw [Prompt.runCleanup, hc] at hcov
  rw [hc] at hl
  rw [Prompt.runCleanup, hc]
  refine { Prelude.refl w with covered := hcov, controls := fun j c hj => ?_, keeps := fun j c hj => ?_ }
  · rw [hl] at hj
    obtain ⟨c', hc', rfl⟩ := Option.map_eq_some_iff.mp hj
    split
    · exact .inl rfl
    · exact .inr hc'
  · exact ⟨_, by rw [hl, hj]; rfl⟩

lemma Prelude.fresh (hv : Prelude w v) (hi : Invariant m w) (h : ℕ) (x : Handle)
    (hx : v.handles.lookup h = some x) : h < v.nextHandle := hv.nextHandle ▸ hi.fresh h x (hv.handles h x hx)

lemma Prelude.frame (hv : Prelude w v) (hc : w'.controls = v.controls) (hh : w'.hashed = v.hashed)
    (hs : w'.state.instanceSecret = w.state.instanceSecret)
    (hi : w.state.issuanceCounter ≤ w'.state.issuanceCounter)
    (hp : ∀ l r, w'.state.pending.lookup l = some r → w.state.pending.lookup l = some r) : Frame w w' where
  secret := hs
  counter := hi
  hashed := hh ▸ hv.hashed
  pending := hp
  controls id c hid hn := by
    rw [hc] at hid
    exact (hv.controls id c hid).resolve_left (by simp [hn])

lemma Prelude.calm (hv : Prelude w v) (hi : Invariant m v) : Calm m w v where
  invariant := hi
  covered := hv.covered
  keeps := hv.keeps
  nextHandle := hv.nextHandle.ge
  closed _ := hv.state
  frame := hv.frame rfl rfl (by rw [hv.state]) (by rw [hv.state]) fun _ _ hr => hv.state ▸ hr
  handles h x hx := .inl (hv.handles h x hx)

lemma Prelude.calm_failClosed (hv : Prelude w v) (hi : Invariant m w) : Calm m w (failClosed v) where
  invariant := invariant_of_terminal rfl empty_failClosed (hv.fresh hi)
  covered hw := covered_failClosed (hv.covered hw)
  keeps := hv.keeps
  nextHandle := hv.nextHandle.ge
  closed ht := (failClosed_state (hv.state ▸ ht) (hv.state ▸ hi.closed ht)).trans hv.state
  frame := hv.frame rfl rfl (by rw [failClosed, failClosedLocked, hv.state])
    (by rw [failClosed, failClosedLocked, hv.state]) fun l r hr => by cases (AList.lookup_empty l).symm.trans hr
  handles h x hx := .inl (hv.handles h x hx)

lemma Calm.trans (h : Calm m w w') (h' : Calm m w' w'') : Calm m w w'' where
  invariant := h'.invariant
  covered := h'.covered ∘ h.covered
  keeps id c hc := by
    obtain ⟨c', hc'⟩ := h.keeps id c hc
    exact h'.keeps id c' hc'
  nextHandle := h.nextHandle.trans h'.nextHandle
  closed ht := (h'.closed (by rw [h.closed ht, ht])).trans (h.closed ht)
  frame := h.frame.trans h'.frame
  handles k x hx := (h'.handles k x hx).elim (h.handles k x) .inr

lemma Calm.stepped {r : Response} (h : Calm m w w') (hr : Quiet r) (ha : Answer e r) : Stepped m w e (w', r) :=
  ⟨h.toFollows, .quiet h.frame h.handles hr, ha⟩

lemma Calm.refused {x : PromptStateError} (h : Calm m w w') : Stepped m w e (w', .refused x) :=
  h.stepped trivial (.refused _ _)

lemma stepped_noHandle (hi : Invariant m w) : Stepped m w e (w, .noHandle) :=
  ((Prelude.refl w).calm hi).stepped trivial (.noHandle _)

lemma locked_split (hi : Invariant m w) (hv : Prelude w v) {α : Type} {f : ManagerState → Outcome α} :
    (∃ w', locked v f = (.error .unavailable, w') ∧ Calm m w w' ∧ w'.state.terminal) ∨
    (w.state.terminal = false ∧ v.poisoned = false ∧
      locked v f = ((f w.state).1, { v with state := (f w.state).2 })) := by
  rcases locked_cases f with ⟨-, hl⟩ | ⟨-, ht, hl⟩ | ⟨hp, ht, hl⟩
  · exact .inl ⟨_, hl, hv.calm_failClosed hi, rfl⟩
  · exact .inl ⟨_, hl,
      hv.calm (invariant_of_terminal ht (hv.state ▸ hi.closed (hv.state ▸ ht)) (hv.fresh hi)), ht⟩
  · rw [hv.state] at hl ht
    exact .inr ⟨ht, hp, hl⟩

lemma follows_run (ht : w.state.terminal = false) (hv : Prelude w v) (hi : Invariant m w')
    (hc : w'.controls = v.controls) (hk : w'.cleanups = v.cleanups) (hn : v.nextHandle ≤ w'.nextHandle)
    (ha : ∀ id ∈ w.state.active, id ∈ w'.state.active ∨ ∀ c, v.controls.lookup id = some c → c.cancelled) :
    Follows m w w' where
  invariant := hi
  covered hw id c hid := by
    rw [hc] at hid
    rw [hk]
    rcases hv.covered hw id c hid with hcancel | hactive | hclean
    · exact .inl hcancel
    · rw [hv.state] at hactive
      exact (ha id hactive).symm.imp (fun h => h c hid) .inl
    · exact .inr (.inr hclean)
  keeps := hc ▸ hv.keeps
  nextHandle := hv.nextHandle ▸ hn
  closed h := by
    rw [ht] at h
    cases h

lemma calm_run {freed filled : Option Slot} (he : Effect m w.state w'.state freed filled) (hv : Prelude w v)
    (hf : Follows m w w') (hc : w'.controls = v.controls) (hh : w'.hashed = v.hashed)
    (hp : ∀ l r, w'.state.pending.lookup l = some r → w.state.pending.lookup l = some r)
    (hx : ∀ h x, w'.handles.lookup h = some x → v.handles.lookup h = some x ∨ Plain x) : Calm m w w' :=
  { hf with
    frame := hv.frame hc hh he.keeps.instanceSecret he.keeps.issuanceCounter hp
    handles := fun h x hl => (hx h x hl).imp_left (hv.handles h x) }

lemma handles_addHandle (hx : Plain x) (k : ℕ) (y : Handle)
    (hy : (addHandle v x).handles.lookup k = some y) : v.handles.lookup k = some y ∨ Plain y := by
  rcases lookup_of_insert hy with ⟨-, rfl⟩ | ⟨-, hold⟩
  · exact .inr hx
  · exact .inl hold

section

variable (hi : Invariant m w)

include hi

lemma stepped_newConnection : Stepped m w .newConnection (step m w .newConnection) := by
  rw [step]
  rcases locked_split hi (Prelude.refl w) with ⟨w', hl, hc, -⟩ | ⟨ht, -, hl⟩
  · rw [hl]
    exact hc.refused
  rw [hl]
  have he : Effect m w.state (newConnection w.state).2 none none ∧
      (newConnection w.state).2.pending = w.state.pending := by
    unfold newConnection
    split
    · exact ⟨⟨moves_refl hi.sound, ⟨rfl, rfl, le_rfl⟩⟩, rfl⟩
    · exact ⟨⟨moves_refl hi.sound, Prompt.Keeps.refl _⟩, rfl⟩
  have hc : Calm m w { w with state := (newConnection w.state).2 } :=
    calm_run he.1 (Prelude.refl w)
      (follows_run ht (Prelude.refl w) (invariant_keep hi ht he.1 rfl rfl rfl) rfl rfl le_rfl
      (active_of_effect he.1 (by simp))) rfl rfl (fun _ _ hr => he.2 ▸ hr) fun _ _ => .inl
  cases (newConnection w.state).1 with
  | ok id => exact hc.stepped trivial (.connection _)
  | error x => exact hc.refused

lemma stepped_reserve {connection : UInt64} {target : CanonicalIdentity} :
    Stepped m w (.reserveBegin connection peerUid target) (stepReserve m w connection peerUid target) := by
  unfold stepReserve
  rcases locked_split hi (Prelude.refl w) with
    ⟨w', hl, hc, -⟩ | ⟨ht, -, hl⟩
  · rw [hl]
    exact hc.refused
  rw [hl]
  have hp : (reserveBegin m w.state connection peerUid target).2.pending = w.state.pending := by
    rw [reserveBegin]
    split <;> rfl
  cases hr : reserveBegin m w.state connection peerUid target with
  | mk r s' =>
    rw [hr] at hp
    cases r with
    | ok c =>
      have he := reserveBegin_ok hi.sound hr
      have hc : Calm m w (addHandle { w with state := s' } (.reservation c)) :=
        calm_run he (Prelude.refl w) (follows_run ht (Prelude.refl w) (invariant_add hi ht he rfl rfl rfl) rfl rfl
          (Nat.le_succ _) (active_of_effect he (by simp))) rfl rfl (fun _ _ hr => hp ▸ hr)
          (handles_addHandle trivial)
      exact hc.stepped trivial (.reserved _ _ _ _)
    | error x =>
      obtain rfl := reserveBegin_error hr
      exact ((Prelude.refl w).calm hi).refused

lemma stepped_issue {binding : PendingBinding} :
    Stepped m w (.issue handle binding) (stepIssue m w handle binding) := by
  unfold stepIssue
  split
  next c hx =>
    have hv := Prelude.consume w handle
    rcases locked_split hi hv with ⟨w', hl, hc, -⟩ | ⟨ht, -, hl⟩
    · rw [hl]
      exact hc.refused
    rw [hl]
    rcases issueReserved_cases hi.sound with ⟨x, hr, he, hp⟩ | ⟨fresh, s', hr, he, hfresh, hc, hp, -⟩
    · rw [hr]
      have hc : Calm m w { consume w handle with state := (issueReserved m w.state c binding).2 } :=
        calm_run he hv (follows_run ht hv (invariant_drop hi ht hx he rfl rfl rfl) rfl rfl le_rfl
          (active_of_effect he (by simp))) rfl rfl (fun _ _ hr => hp ▸ hr) fun _ _ => .inl
      exact hc.refused
    · rw [hr]
      exact ⟨follows_run ht hv (invariant_swap hi ht hx he rfl rfl rfl) rfl rfl
        (Nat.le_succ _) (active_of_effect he (by simp)), .issued ht hx hc hfresh he.keeps hp, .issued _ _ _ _⟩
  · exact stepped_noHandle hi

lemma stepped_activate {waker : Option ℕ} :
    Stepped m w (.activate handle waker now) (stepActivate m w handle waker now) := by
  unfold stepActivate
  split
  next c l t hx =>
    split
    · exact ((Prelude.refl w).calm hi).refused
    rename_i deadline hd
    rcases locked_split hi (Prelude.refl w) with
      ⟨w', hl, hc, -⟩ | ⟨ht, -, hl⟩
    · rw [hl]
      exact hc.refused
    rw [hl]
    obtain ⟨he, r, waker', hr, hp, hok⟩ :=
      activatePending_cases hi.sound (lookup_of_issue_handle hi ht hx)
    have hf : Follows m w { w with state := (activatePending w.state c l deadline waker).2 } :=
      follows_run ht (Prelude.refl w) (invariant_keep hi ht he rfl rfl rfl) rfl rfl le_rfl
        (active_of_effect he (by simp))
    cases ha : (activatePending w.state c l deadline waker).1 with
    | ok d =>
      exact ⟨hf, .activated ht hx hr he.keeps hp hd (fun _ => ⟨d, rfl⟩) (.inl ⟨d, rfl⟩), .activated _ _ _ _⟩
    | error x =>
      refine ⟨hf, .activated ht hx hr he.keeps hp hd (fun hn => ?_) (.inr trivial), .refused _ _⟩
      rw [hok hn] at ha
      cases ha
  · exact stepped_noHandle hi

lemma follows_claim {c l : BindingDigest}
    {control : ActiveControl} (ht : w.state.terminal = false) (hx : w.handles.lookup h = some (.issue c l t))
    (he : Effect m w.state s' (some (.pending c l)) (some (.claim claim.activeId))) {inputs : List Bytes} :
    Follows m w (addHandle { noteHashed (consume w h) inputs with
      state := s', controls := w.controls.insert claim.activeId control } (.claim claim)) where
  invariant := invariant_swap hi ht hx (y := .claim claim) he rfl rfl rfl
  covered hw id d hid := by
    rcases lookup_of_insert hid with ⟨rfl, -⟩ | ⟨-, hold⟩
    · obtain ⟨k, hk⟩ := (he.moves.occupied (.claim claim.activeId)).mpr (.inr rfl)
      exact .inr (.inl (mem_iff_lookup.mpr ⟨_, hk⟩))
    · refine (hw id d hold).imp_right (Or.imp_left fun ha => ?_)
      exact (active_of_effect (q := fun _ => False) he (by simp) id ha).resolve_right fun hf => hf
  keeps id d hd := by
    rw [addHandle, lookup_insert_eq]
    split
    · exact ⟨control, rfl⟩
    · exact ⟨d, hd⟩
  nextHandle := Nat.le_succ _
  closed hf := by
    rw [ht] at hf
    cases hf

lemma calm_spent {c l : BindingDigest} (ht : w.state.terminal = false)
    (hx : w.handles.lookup h = some (.issue c l t)) (he : Effect m w.state s' (some (.pending c l)) none)
    (hp : s'.pending = w.state.pending.erase l) (inputs : List Bytes) :
    Calm m w { noteHashed (consume w h) inputs with state := s' } := by
  have hv := (Prelude.consume w h).noteHashed inputs
  refine calm_run he hv (follows_run ht hv (invariant_drop hi ht hx he rfl rfl rfl) rfl rfl le_rfl
    (active_of_effect he (by simp))) rfl rfl (fun k r hr => ?_) fun _ _ => .inl
  exact (lookup_of_erase (hp ▸ hr)).1

lemma stepped_claim : Stepped m w (.claimCommit handle token nonce peerUid targetUid now)
      (stepClaim m w handle token nonce peerUid targetUid now) := by
  unfold stepClaim
  split
  next c l t hx =>
    simp only
    rcases locked_split hi ((Prelude.consume w handle).noteHashed [tokenLookupInput w.state.instanceSecret token,
        nonceInput w.state.instanceSecret nonce]) with ⟨w', hl, hc, -⟩ | ⟨ht, -, hl⟩
    · rw [hl]
      exact hc.refused
    rw [hl]
    rcases claimCommit_cases hi.sound (lookup_of_issue_handle hi ht hx) with
      ⟨x, hr, he, hp⟩ | ⟨r, control, s', hr, he, hc, -, hp⟩
    · rw [hr]
      exact (calm_spent hi ht hx he hp _).refused
    · rw [hr]
      exact ⟨follows_claim hi ht hx he, .claimed ht hx hc he.keeps hp, .claimed _ _ _ _ _ _ _ _⟩
  · exact stepped_noHandle hi

lemma stepped_cancel : Stepped m w (.cancel handle token nonce peerUid targetUid now)
      (stepCancel m w handle token nonce peerUid targetUid now) := by
  unfold stepCancel
  split
  next c l t hx =>
    simp only
    rcases locked_split hi ((Prelude.consume w handle).noteHashed [tokenLookupInput w.state.instanceSecret token,
        nonceInput w.state.instanceSecret nonce]) with ⟨w', hl, hc, -⟩ | ⟨ht, -, hl⟩
    · rw [hl]
      exact hc.refused
    rw [hl]
    obtain ⟨he, hp, hc⟩ :=
      cancelPending_effect hi.sound (lookup_of_issue_handle hi ht hx)
    have hs := calm_spent hi ht hx he hp [tokenLookupInput w.state.instanceSecret token,
        nonceInput w.state.instanceSecret nonce]
    cases hr : (cancelPending m w.state c l token nonce peerUid targetUid now).1 with
    | ok u =>
      obtain ⟨r, hchecked⟩ := hc hr
      exact ⟨hs.toFollows, .cancelled ht hx hchecked he.keeps hp, .cancelled _ _ _ _ _ _⟩
    | error x => exact hs.refused
  · exact stepped_noHandle hi

lemma calm_release (hx : w.handles.lookup h = some x) (hv : Prelude w v)
    (hh : v.handles = w.handles.erase h) {f : ManagerState → ManagerState}
    (he : w.state.terminal = false → Effect m w.state (f w.state) (some (slotOf x)) none)
    (hp : ∀ l r, (f w.state).pending.lookup l = some r → w.state.pending.lookup l = some r)
    (hc : ∀ id, slotOf x = .claim id ∨ slotOf x = .lease id → ∀ c, v.controls.lookup id = some c → c.cancelled) :
    Calm m w (locked v fun s => ((.ok () : Except PromptStateError Unit), f s)).2 := by
  rcases locked_split hi hv with
    ⟨w', hl, hcalm, -⟩ | ⟨ht, -, hl⟩
  · rw [hl]
    exact hcalm
  rw [hl]
  refine calm_run (he ht) hv
    (follows_run ht hv (invariant_drop hi ht hx (he ht) rfl hh hv.nextHandle) rfl rfl le_rfl
    (active_of_effect (he ht) fun id hid => .inr (hc id ?_))) rfl rfl hp fun _ _ => .inl
  simpa only [Option.some.injEq] using hid

lemma calm_releaseActive {id : ℕ} (hx : w.handles.lookup h = some x)
    (hid : ∀ j, slotOf x = .claim j ∨ slotOf x = .lease j → j = id) (hm : w.state.terminal = false →
      Moves m (tablesOf w.state) { tablesOf w.state with active := w.state.active.erase id }
      (some (slotOf x)) none) :
    Calm m w (releaseActive (cancelControl (consume w h) id) id) := by
  obtain ⟨controls, hc⟩ := cancelControl_eq
  refine calm_release hi hx ((Prelude.consume w h).cancelControl id) (by rw [hc]; rfl)
    (fun ht => ⟨hm ht, ⟨rfl, rfl, le_rfl⟩⟩) (fun _ _ hr => hr) fun j hj c hl => ?_
  rw [lookup_cancelControl, if_pos (hid j hj)] at hl
  obtain ⟨c', -, rfl⟩ := Option.map_eq_some_iff.mp hl
  rfl

lemma calm_dropHandle (hx : w.handles.lookup h = some x) : Calm m w (dropHandle (consume w h) x) := by
  cases x with
  | reservation c =>
    exact calm_release hi hx (Prelude.consume w h) rfl (fun _ => effect_removeProvisional hi.sound c)
      (fun _ _ hr => hr) (by simp [slotOf])
  | issue c l t =>
    exact calm_release hi hx (Prelude.consume w h) rfl
      (fun ht => effect_removePending hi.sound (lookup_of_issue_handle hi ht hx))
      (fun _ _ hr => (lookup_of_erase hr).1) (by simp [slotOf])
  | claim c =>
    refine calm_releaseActive hi hx (by simp [slotOf]) fun ht => ?_
    obtain ⟨k, hk⟩ := (hi.owned ht).live h _ hx
    exact moves_eraseClaim hi.sound hk
  | lease id =>
    refine calm_releaseActive hi hx (by simp [slotOf]) fun ht => ?_
    obtain ⟨k, hk⟩ := (hi.owned ht).live h _ hx
    exact moves_eraseLease hi.sound hk

lemma calm_dropHandle_closed (ht : w.state.terminal) : Calm m w (dropHandle w (.claim claim)) := by
  rcases locked_split hi ((Prelude.refl w).cancelControl claim.activeId) with
    ⟨w', hl, hc, -⟩ | ⟨hf, -⟩
  · rw [dropHandle, releaseActive, hl]
    exact hc
  · rw [ht] at hf
    cases hf

omit hi in
lemma dropHandle_erased (hp : w.poisoned = false) (ht : w.state.terminal = false) (claim : CommitClaim) :
    dropHandle { w with state := { w.state with active := w.state.active.erase claim.activeId } } (.claim claim) =
      dropHandle w (.claim claim) := by
  have herase : (w.state.active.erase claim.activeId).erase claim.activeId = w.state.active.erase claim.activeId :=
    erase_of_lookup_eq_none (AList.lookup_erase _ _)
  simp only [dropHandle, releaseActive, cancelControl]
  cases w.controls.lookup claim.activeId with
  | none | some c => simp [locked, hp, ht, herase]

lemma stepped_promote {binding : CommitBinding} :
    Stepped m w (.promote handle binding now) (stepPromote w handle binding now) := by
  unfold stepPromote
  split
  next claim hx =>
    have hv := Prelude.consume w handle
    rcases locked_split hi hv with
      ⟨w', hl, hc, hclosed⟩ | ⟨ht, hpoison, hl⟩
    · rw [hl]
      exact (hc.trans (calm_dropHandle_closed hc.invariant hclosed)).refused
    rw [hl]
    obtain ⟨k, hk⟩ := (hi.owned ht).live handle _ hx
    rcases promoteClaim_cases hi.sound hk with
      ⟨x, hr⟩ | ⟨s', hr, he, -, hp⟩
    · rw [hr]
      have hdrop := calm_dropHandle hi hx
      rw [← dropHandle_erased hpoison ht] at hdrop
      exact hdrop.refused
    · rw [hr]
      have hc : Calm m w (addHandle { consume w handle with state := s' } (.lease claim.activeId)) :=
        calm_run he hv (follows_run ht hv (invariant_swap hi ht hx he rfl rfl rfl) rfl rfl (Nat.le_succ _)
          (active_of_effect he (by simp))) rfl rfl (fun _ _ hr => hp ▸ hr) (handles_addHandle trivial)
      exact hc.stepped trivial (.promoted _ _ _ _ _)
  · exact stepped_noHandle hi

lemma calm_cancelControl {id : ℕ} : Calm m w (cancelControl w id) := by
  refine ((Prelude.refl w).cancelControl id).calm ?_
  obtain ⟨controls, hc⟩ := cancelControl_eq
  rw [hc]
  exact invariant_of_same hi rfl rfl rfl

theorem stepped (e : Event) : Stepped m w e (step m w e) := by
  have hsame := (Prelude.refl w).calm hi
  cases e with
  | newConnection => exact stepped_newConnection hi
  | reserveBegin connection peerUid target => exact stepped_reserve hi
  | issue handle binding => exact stepped_issue hi
  | activate handle waker now => exact stepped_activate hi
  | claimCommit handle token nonce peerUid targetUid now =>
    exact stepped_claim hi
  | cancel handle token nonce peerUid targetUid now => exact stepped_cancel hi
  | promote handle binding now => exact stepped_promote hi
  | drop handle =>
    rw [step]
    split
    next hx =>
      exact (calm_dropHandle hi hx).stepped trivial (.done _)
    · exact hsame.stepped trivial (.noHandle _)
  | cancelActive id => exact (calm_cancelControl hi).stepped trivial (.done _)
  | checkDeadline handle now =>
    rw [step, stepCheckDeadline]
    split
    · split
      · split
        · exact (calm_cancelControl hi).stepped trivial (.done _)
        · exact hsame.stepped trivial (.done _)
      · exact hsame.stepped trivial (.done _)
    · exact hsame.stepped trivial (.noHandle _)
  | shutdown => exact ((Prelude.refl w).calm_failClosed hi).stepped trivial (.done _)
  | finishCleanup =>
    rw [step]
    split
    next k rest hk =>
      refine ((Prelude.runCleanup hk).calm ?_).stepped trivial (.done _)
      obtain ⟨controls, hc⟩ := foldl_cancelControl_eq
        { w with cleanups := rest, shutStreams := w.shutStreams ++ k.shutdownWakers }
      rw [runCleanup, hc]
      exact invariant_of_same hi rfl rfl rfl
    · exact hsame.stepped trivial (.noHandle _)
  | poison =>
    have hv : Prelude w { w with poisoned := true } := { Prelude.refl w with }
    exact (hv.calm (invariant_of_same hi rfl rfl rfl)).stepped trivial (.done _)

theorem invariant_step (e : Event) : Invariant m (step m w e).1 := (stepped hi e).follows.invariant

theorem happened_step (e : Event) : Happened m w e (step m w e).1 (step m w e).2 := (stepped hi e).happened

end

end Howy.Prompt
