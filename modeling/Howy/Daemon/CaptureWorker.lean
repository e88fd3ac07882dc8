import Howy.Library.Triples
import Mathlib.Data.List.Induction

/-! The camera's capture worker: one backend at a time, and at most one fallback. -/

namespace Howy.Daemon.CaptureWorker

open Library

inductive CaptureBackendKind where
  | v4l2Mmap
  | ffmpegFallback
deriving DecidableEq

inductive CaptureMessage (F : Type) where
  | frame (frame : F)
  | error (message : String)
deriving DecidableEq

inductive CaptureStep (F : Type) where
  | frame (frame : F)
  | cancelled

inductive BackendStart where
  | ready (kind : CaptureBackendKind)
  | cancelled

inductive BackendEvent (F : Type) where
  | frame (frame : F)
  | cancelled
  | fellBack (error : String)

inductive Event (F : Type) where
  | loaded (cancelled : Bool)
  | constructs (kind : CaptureBackendKind)
  | constructed (kind : CaptureBackendKind)
  | nextFrame (queued : Bool)
  | dropped (kind : CaptureBackendKind)
  | published (message : CaptureMessage F)
deriving DecidableEq

/-- `log` is read by no step. -/
structure Worker (F : Type) where
  latestMessage : Option (CaptureMessage F) := none
  cancellation : Bool := false
  log : List (Event F) := []

structure Choice (F : Type) where
  -- before the step
  cancels : Bool := false
  takes : Bool := false
  -- whether the call into a backend reads the flag, and what it returns
  looks : Bool := false
  built : Except String Unit := .ok ()
  captured : Except String (CaptureStep F) := .ok .cancelled
  connected : Bool := true

variable {F α : Type}

abbrev Op (F α : Type) := Attempt (Choice F) (Worker F) Empty α

namespace Worker

def record (s : Worker F) (e : Event F) : Worker F := { s with log := s.log ++ [e] }

def disturbed (s : Worker F) (c : Choice F) : Worker F :=
  { s with cancellation := s.cancellation || c.cancels, latestMessage :=
    if c.takes then none else s.latestMessage }

def looked (s : Worker F) (c : Choice F) : Worker F := if c.looks then s.record (.loaded s.cancellation) else s

end Worker

def step (f : Choice F → Worker F → α × Worker F) : Op F α :=
  action fun c s => ((.ok (f c (s.disturbed c)).1), (f c (s.disturbed c)).2)

def load : Op F Bool := step fun _ s => (s.cancellation, s.record (.loaded s.cancellation))

def drop (kind : CaptureBackendKind) : Op F Unit := step fun _ s => ((), s.record (.dropped kind))

def construct (kind : CaptureBackendKind) : Op F (Except String Unit) := do
  step fun _ s => ((), s.record (.constructs kind))
  step fun c s => (c.built, if c.built.isOk then (s.looked c).record (.constructed kind) else s.looked c)

def constructUncancelled (kind : CaptureBackendKind) : Op F (Except String BackendStart) := do
  match ← construct kind with
  | .ok _ => do
    if ← load then do
      drop kind
      pure (.ok .cancelled)
    else pure (.ok (.ready kind))
  | .error e => do
    if ← load then pure (.ok .cancelled) else pure (.error e)

def noFallback : String :=
  "FFmpeg fallback is disabled for enrollment because its process-wide memory cannot be bounded by the plaintext budget"

def startBackendWith (allowFfmpegFallback : Bool) : Op F (Except String BackendStart) := do
  if ← load then pure (.ok .cancelled)
  else
    match ← constructUncancelled .v4l2Mmap with
    | .ok start => pure (.ok start)
    | .error v4l2Error =>
      if !allowFfmpegFallback then pure (.error s!"V4L2 enrollment backend unavailable: {v4l2Error}; {noFallback}")
      else do
        match ← constructUncancelled .ffmpegFallback with
        | .ok start => pure (.ok start)
        | .error ffmpegError =>
          pure (.error s!"V4L2 mmap backend failed: {v4l2Error}; optional FFmpeg fallback failed: {ffmpegError}")

def nextFrame : Op F (Except String (CaptureStep F)) := do
  step fun _ s => ((), s.record (.nextFrame s.latestMessage.isSome))
  step fun c s => (c.captured, s.looked c)

def captureBackendOnceWithPolicy (allowFfmpegFallback : Bool) (backend : Option CaptureBackendKind) :
    Op F (Except String (BackendEvent F) × Option CaptureBackendKind) :=
  match backend with
  | none => pure (.error "capture backend missing", none)
  | some kind => do
    match ← nextFrame with
    | .ok (.frame frame) => pure (.ok (.frame frame), some kind)
    | .ok .cancelled => pure (.ok .cancelled, some kind)
    | .error captureError =>
      if kind = .v4l2Mmap ∧ allowFfmpegFallback then do
        drop kind
        if ← load then pure (.ok .cancelled, none)
        else
          match ← constructUncancelled .ffmpegFallback with
          | .ok .cancelled => pure (.ok .cancelled, none)
          | .ok (.ready fallback) => pure (.ok (.fellBack captureError), some fallback)
          | .error fallbackError =>
            pure (.error s!"V4L2 capture failed: {captureError}; optional FFmpeg fallback failed: {fallbackError}",
              none)
      else if kind = .v4l2Mmap then
        pure (.error s!"V4L2 enrollment capture failed: {captureError}; {noFallback}", some kind)
      else pure (.error captureError, some kind)

def publishMessage (message : CaptureMessage F) : Op F Bool :=
  step fun c s => (c.connected, { s with latestMessage := some message }.record (.published message))

def waitForEmptySlot : Op F Bool := do
  -- it waits while there is a message and no cancellation
  ExceptT.mk (Prog.atomic fun c s =>
    match (s.disturbed c).latestMessage, (s.disturbed c).cancellation with
    | none, _ => some (.ok (), s.disturbed c)
    | some _, true => some (.ok (), (s.disturbed c).record (.loaded true))
    | some _, false => none)
  return !(← load)

def leave (backend : Option CaptureBackendKind) : Op F Unit := backend.elim (pure ()) drop

def captureLoop (allowFfmpegFallback : Bool) : ℕ → Option CaptureBackendKind → Op F Unit
  | 0, _ => pure ()
  | n + 1, backend => do
    if ← load then leave backend
    else if ← (if allowFfmpegFallback then pure true else waitForEmptySlot) then do
      let (event, backend) ← captureBackendOnceWithPolicy allowFfmpegFallback backend
      match event with
      | .ok (.frame frame) => do
        if ← publishMessage (.frame frame) then captureLoop allowFfmpegFallback n backend else leave backend
      | .ok .cancelled => leave backend
      | .ok (.fellBack _) => captureLoop allowFfmpegFallback n backend
      | .error e => do
        let _ ← publishMessage (.error s!"camera backend capture failed: {e}")
        leave backend
    else leave backend

/-- `capture_worker_loop` up to its round `n`. -/
def captureWorkerLoop (allowFfmpegFallback : Bool) (n : ℕ) : Op F Unit := do
  match ← startBackendWith allowFfmpegFallback with
  | .ok (.ready kind) => captureLoop allowFfmpegFallback n (some kind)
  | .ok .cancelled => pure ()
  | .error e => do
    let _ ← publishMessage (.error s!"failed to start camera backend: {e}")

def alter (kinds : List CaptureBackendKind) : Event F → List CaptureBackendKind
  | .constructed kind => kind :: kinds
  | .dropped kind => kinds.erase kind
  | _ => kinds

def alive (log : List (Event F)) : List CaptureBackendKind := log.foldl alter []

lemma alive_concat (log : List (Event F)) (e : Event F) : alive (log ++ [e]) = alter (alive log) e :=
  List.foldl_append

def Allowed (allowFfmpegFallback : Bool) (before : List (Event F)) (e : Event F) : Prop :=
  (∀ text, .published (.error text) ∈ before → ∃ kind, e = .dropped kind) ∧
    match e with
    | .constructs kind => .loaded true ∉ before ∧ alive before = [] ∧
        (kind = .ffmpegFallback → allowFfmpegFallback = true ∧ .constructs .ffmpegFallback ∉ before)
    | .constructed _ => alive before = []
    | .nextFrame queued => allowFfmpegFallback = false → queued = false
    | _ => True

variable {allow : Bool} {kind : CaptureBackendKind} {kinds : List CaptureBackendKind} {spent : Prop} {s : Worker F}
  {e : Event F} {P : Worker F → Prop} {Q : α → Worker F → Prop} {log : List (Event F)}

structure Sound (allow : Bool) (s : Worker F) : Prop where
  orderly : ∀ before e, before ++ [e] <+: s.log → Allowed allow before e
  flagged : .loaded true ∈ s.log → s.cancellation = true

lemma Sound.record (h : Sound allow s) (he : Allowed allow s.log e) (hload : e = .loaded true → s.cancellation) :
    Sound allow (s.record e) where
  orderly before e' hbefore := by
    rcases List.prefix_concat_iff.mp hbefore with heq | hbefore
    · obtain ⟨rfl, hlast⟩ := List.append_inj' heq rfl
      rwa [List.singleton_inj.mp hlast]
    · exact h.orderly before e' hbefore
  flagged hmem := by
    rcases List.mem_append.mp hmem with hmem | hmem
    · exact h.flagged hmem
    · exact hload (List.mem_singleton.mp hmem).symm

lemma Sound.disturbed (h : Sound allow s) (c : Choice F) : Sound allow (s.disturbed c) :=
  ⟨h.orderly, fun hmem => by rw [Worker.disturbed, h.flagged hmem, Bool.true_or]⟩

structure Holds (kinds : List CaptureBackendKind) (spent : Prop) (log : List (Event F)) : Prop where
  alive : alive log = kinds
  calm : ∀ text, .published (.error text) ∉ log
  fresh : .constructs .ffmpegFallback ∈ log → spent

lemma Holds.concat (h : Holds kinds spent log) (hcalm : ∀ text, e ≠ .published (.error text))
    (hfresh : e = .constructs .ffmpegFallback → spent) : Holds (alter kinds e) spent (log ++ [e]) where
  alive := by rw [alive_concat, h.alive]
  calm text hmem := (List.mem_append.mp hmem).elim (h.calm text) fun h => hcalm text (List.mem_singleton.mp h).symm
  fresh hmem := (List.mem_append.mp hmem).elim h.fresh fun h => hfresh (List.mem_singleton.mp h).symm

lemma Holds.spend (h : Holds kinds spent log) : Holds kinds True log := ⟨h.alive, h.calm, fun _ => trivial⟩

lemma Holds.allowed (h : Holds kinds spent log) (text : String) (hmem : .published (.error text) ∈ log) :
    ∃ kind, e = .dropped kind := absurd hmem (h.calm text)

lemma Holds.loaded (h : Holds kinds spent s.log) (hs : Sound allow s) :
    Sound allow (s.record (.loaded s.cancellation)) ∧ Holds kinds spent (s.record (.loaded s.cancellation)).log :=
  ⟨hs.record ⟨h.allowed, trivial⟩ fun he => Event.loaded.inj he,
    h.concat (e := .loaded s.cancellation) (fun _ => nofun) nofun⟩

lemma Holds.looked (h : Holds kinds spent s.log) (hs : Sound allow s) (c : Choice F) :
    Sound allow (s.looked c) ∧ Holds kinds spent (s.looked c).log := by
  unfold Worker.looked
  split
  · exact h.loaded hs
  · exact ⟨hs, h⟩

abbrev Does (allow : Bool) (P : Worker F → Prop) (p : Op F α) (Q : α → Worker F → Prop) : Prop :=
  Triple (Sound allow) (fun _ _ => True) P p Q

lemma does_step {f : Choice F → Worker F → α × Worker F} (hP : ∀ c s, P s → P (s.disturbed c))
    (h : ∀ c s, Sound allow s → P s → Sound allow (f c s).2 ∧ Q (f c s).1 (f c s).2) :
    Does allow P (step f) Q := by
  refine triple_action fun c s hi hs => ?_
  obtain ⟨hsound, hq⟩ := h c (s.disturbed c) (hi.disturbed c) (hP c s hs)
  refine ⟨trivial, hsound, fun a ha => ?_⟩
  cases ha
  exact hq

lemma does_load : Does allow (fun s => Holds kinds spent s.log) (load : Op F Bool)
    fun b s => Holds kinds spent s.log ∧ (b = false → .loaded true ∉ s.log) := by
  refine does_step (fun _ _ h => h) fun c s hi hs => ?_
  obtain ⟨hsound, hholds⟩ := hs.loaded hi
  exact ⟨hsound, hholds, fun hb hmem => Bool.false_ne_true (hb.symm.trans (hsound.flagged hmem))⟩

lemma does_drop : Does allow P (drop kind : Op F Unit) fun _ _ => True := by
  have hdrop : Does allow (fun _ => True) (drop kind : Op F Unit) fun _ _ => True :=
    does_step (fun _ _ h => h) fun c s hi _ => ⟨hi.record ⟨fun _ _ => ⟨kind, rfl⟩, trivial⟩ nofun, trivial⟩
  exact hdrop.pre fun _ _ _ => trivial

lemma does_release : Does allow (fun s => Holds [kind] spent s.log) (drop kind : Op F Unit)
    fun _ s => Holds [] spent s.log := by
  refine does_step (fun _ _ h => h) fun c s hi hs => ⟨hi.record ⟨fun _ _ => ⟨kind, rfl⟩, trivial⟩ nofun, ?_⟩
  have hdrop := hs.concat (e := .dropped kind) (fun _ => nofun) nofun
  rwa [alter, List.erase_cons_head] at hdrop

lemma does_construct (hkind : kind = .ffmpegFallback → allow ∧ ¬ spent) :
    Does allow (fun s => Holds [] spent s.log ∧ .loaded true ∉ s.log) (construct kind : Op F (Except String Unit))
      fun r s => Holds (if r.isOk then [kind] else []) (spent ∨ kind = .ffmpegFallback) s.log := by
  refine .bind (Q := fun _ s => Holds [] (spent ∨ kind = .ffmpegFallback) s.log) (does_step (fun _ _ h => h) ?_)
    fun _ => ?_
  · rintro c s hi ⟨hs, hload⟩
    have hweak : Holds [] (spent ∨ kind = .ffmpegFallback) s.log := ⟨hs.alive, hs.calm, fun h => .inl (hs.fresh h)⟩
    refine ⟨hi.record ⟨hs.allowed, hload, hs.alive,
      fun hk => ⟨(hkind hk).1, fun h => (hkind hk).2 (hs.fresh h)⟩⟩ nofun, ?_⟩
    exact hweak.concat (e := .constructs kind) (fun _ => nofun) fun he => .inr (Event.constructs.inj he)
  · refine does_step (fun _ _ h => h) fun c s hi hs => ?_
    obtain ⟨hsound, hholds⟩ := hs.looked hi c
    split
    · refine ⟨hsound.record ⟨hholds.allowed, hholds.alive⟩ nofun, ?_⟩
      exact hholds.concat (e := .constructed kind) (fun _ => nofun) nofun
    · exact ⟨hsound, hholds⟩

def Started (spent : Prop) : Except String BackendStart → Worker F → Prop
  | .ok (.ready kind), s => Holds [kind] (kind = .ffmpegFallback) s.log
  | .ok .cancelled, _ => True
  | .error _, s => Holds [] spent s.log ∧ .loaded true ∉ s.log

lemma does_constructUncancelled (hkind : kind = .ffmpegFallback → allow) :
    Does allow (fun s => Holds [] False s.log ∧ .loaded true ∉ s.log)
      (constructUncancelled kind : Op F (Except String BackendStart)) (Started (kind = .ffmpegFallback)) := by
  have hconstruct := does_construct (F := F) fun hk => ⟨hkind hk, not_false⟩
  rw [false_or] at hconstruct
  refine .bind hconstruct fun r => ?_
  cases r with
  | ok u =>
    refine .bind does_load fun b => ?_
    cases b with
    | true => exact .bind does_drop fun _ => triple_pure fun _ _ _ => trivial
    | false => exact triple_pure fun _ _ hs => hs.1
  | error e =>
    refine .bind does_load fun b => ?_
    cases b with
    | true => exact triple_pure fun _ _ _ => trivial
    | false => exact triple_pure fun _ _ hs => ⟨hs.1, hs.2 rfl⟩

lemma does_startBackendWith : Does allow (fun s => Holds [] False s.log)
    (startBackendWith allow : Op F (Except String BackendStart)) (Started True) := by
  refine .bind does_load fun b => ?_
  cases b with
  | true => exact triple_pure fun _ _ _ => trivial
  | false =>
    refine .bind ((does_constructUncancelled fun h => by cases h).pre fun _ _ hs => ⟨hs.1, hs.2 rfl⟩) fun r => ?_
    rcases r with v4l2Error | start
    · cases allow with
      | false => exact triple_pure fun _ _ hs => ⟨hs.1.spend, hs.2⟩
      | true =>
        refine .bind ((does_constructUncancelled fun _ => rfl).pre fun s _ hs => ?_) fun r => ?_
        · exact ⟨⟨hs.1.alive, hs.1.calm, fun h => nomatch hs.1.fresh h⟩, hs.2⟩
        · rcases r with ffmpegError | (kind | -)
          · exact triple_pure fun _ _ hs => ⟨hs.1.spend, hs.2⟩
          · exact triple_pure fun _ _ hs => hs
          · exact triple_pure fun _ _ hs => hs
    · cases start <;> exact triple_pure fun _ _ hs => hs

lemma does_nextFrame : Does allow (fun s => Holds kinds spent s.log ∧ (allow = false → s.latestMessage = none))
    (nextFrame : Op F (Except String (CaptureStep F))) fun _ s => Holds kinds spent s.log := by
  refine .bind (Q := fun _ s => Holds kinds spent s.log) (does_step (fun c s hs => ⟨hs.1, fun h => ?_⟩) ?_)
    fun _ => ?_
  · rw [Worker.disturbed, hs.2 h, ite_self]
  · rintro c s hi ⟨hs, hslot⟩
    refine ⟨hi.record ⟨hs.allowed, fun h => ?_⟩ nofun, hs.concat (e := .nextFrame _) (fun _ => nofun) nofun⟩
    rw [hslot h, Option.isSome_none]
  · exact does_step (fun _ _ h => h) fun c s hi hs => hs.looked hi c

def Captured : Except String (BackendEvent F) × Option CaptureBackendKind → Worker F → Prop
  | (.ok .cancelled, _), _ => True
  | (.error _, _), s => ∃ kinds, Holds kinds True s.log
  | (_, backend), s => ∃ kind, backend = some kind ∧ Holds [kind] (kind = .ffmpegFallback) s.log

lemma does_captureBackendOnceWithPolicy : Does allow
    (fun s => Holds [kind] (kind = .ffmpegFallback) s.log ∧ (allow = false → s.latestMessage = none))
    (captureBackendOnceWithPolicy allow (some kind) : Op F _) Captured := by
  refine .bind does_nextFrame fun r => ?_
  rcases r with captureError | (frame | -)
  · dsimp only
    split
    next hfallback =>
      obtain ⟨rfl, rfl⟩ := hfallback
      refine .bind does_release fun _ => Triple.bind does_load fun b => ?_
      cases b with
      | true => exact triple_pure fun _ _ _ => trivial
      | false =>
        refine .bind ((does_constructUncancelled fun _ => rfl).pre fun s _ hs => ?_) fun r => ?_
        · exact ⟨⟨hs.1.alive, hs.1.calm, fun h => nomatch hs.1.fresh h⟩, hs.2 rfl⟩
        · rcases r with fallbackError | (fallback | -)
          · exact triple_pure fun _ _ hs => ⟨_, hs.1.spend⟩
          · exact triple_pure fun _ _ hs => ⟨fallback, rfl, hs⟩
          · exact triple_pure fun _ _ _ => trivial
    · split <;> exact triple_pure fun _ _ hs => ⟨_, hs.spend⟩
  · exact triple_pure fun _ _ hs => ⟨kind, rfl, hs⟩
  · exact triple_pure fun _ _ _ => trivial

lemma does_publishMessage (message : CaptureMessage F) :
    Does allow (fun s => Holds kinds spent s.log) (publishMessage message)
      fun _ s => (∀ text, message ≠ .error text) → Holds kinds spent s.log := by
  refine does_step (fun _ _ h => h) fun c s hi hs => ?_
  have hsound : Sound allow { s with latestMessage := some message } := ⟨hi.orderly, hi.flagged⟩
  refine ⟨hsound.record ⟨hs.allowed, trivial⟩ nofun, fun h => ?_⟩
  exact hs.concat (fun text he => h text (Event.published.inj he)) nofun

lemma does_waitForEmptySlot : Does allow (fun s => Holds kinds spent s.log) (waitForEmptySlot : Op F Bool)
    fun b s => b → Holds kinds spent s.log ∧ s.latestMessage = none := by
  refine .bind (Q := fun _ s => Holds kinds spent s.log ∧ (s.latestMessage = none ∨ s.cancellation))
    (triple_atomic fun c s r s' hi hs hf => ?_) fun _ => ?_
  · have hi' := hi.disturbed c
    split at hf
    next hnone =>
      cases hf
      exact ⟨trivial, hi', fun _ _ => ⟨hs, .inl hnone⟩⟩
    next hset =>
      cases hf
      obtain ⟨hsound, hholds⟩ := Holds.loaded (s := s.disturbed c) hs hi'
      rw [hset] at hsound hholds
      exact ⟨trivial, hsound, fun _ _ => ⟨hholds, .inr hset⟩⟩
    · cases hf
  · refine .bind (Q := fun b s => b = false → Holds kinds spent s.log ∧ s.latestMessage = none) (does_step ?_ ?_)
      fun b => triple_pure fun s _ hs hb => hs (by simpa using hb)
    · rintro c s ⟨hs, hslot⟩
      refine ⟨hs, hslot.imp (fun h => ?_) fun h => ?_⟩
      · rw [Worker.disturbed, h, ite_self]
      · rw [Worker.disturbed, h, Bool.true_or]
    · rintro c s hi ⟨hs, hslot⟩
      obtain ⟨hsound, hholds⟩ := hs.loaded hi
      exact ⟨hsound, fun hb => ⟨hholds, hslot.resolve_right fun h => Bool.false_ne_true (hb.symm.trans h)⟩⟩

lemma does_leave (backend : Option CaptureBackendKind) :
    Does allow P (leave backend : Op F Unit) fun _ _ => True := by
  cases backend with
  | none => exact triple_any
  | some kind => exact does_drop

lemma does_captureLoop (n : ℕ) (kind : CaptureBackendKind) :
    Does allow (fun s => Holds [kind] (kind = .ffmpegFallback) s.log) (captureLoop allow n (some kind) : Op F Unit)
      fun _ _ => True := by
  induction n generalizing kind with
  | zero => exact triple_any
  | succ n ih =>
    refine .bind does_load fun b => ?_
    cases b with
    | true => exact does_leave (some kind)
    | false =>
      refine .bind (Q := fun b s => b = true → Holds [kind] (kind = .ffmpegFallback) s.log ∧
        (allow = false → s.latestMessage = none)) ?_ fun b => ?_
      · cases allow with
        | true => exact triple_pure fun _ _ hs _ => ⟨hs.1, nofun⟩
        | false =>
          exact does_waitForEmptySlot.conseq (fun _ _ hs => hs.1) fun _ _ _ h hb => ⟨(h hb).1, fun _ => (h hb).2⟩
      cases b with
      | false => exact does_leave (some kind)
      | true =>
        refine .bind (does_captureBackendOnceWithPolicy.pre fun _ _ hs => hs rfl) fun r => ?_
        obtain ⟨event, backend⟩ := r
        rcases event with e | (frame | - | error)
        · exact triple_exists fun kinds => Triple.bind (does_publishMessage _) fun _ => does_leave backend
        · refine triple_exists fun kind => triple_of_imp fun hbackend =>
            Triple.bind (does_publishMessage _) fun b => ?_
          subst hbackend
          cases b with
          | false => exact does_leave (some kind)
          | true => exact (ih kind).pre fun _ _ hs => hs nofun
        · exact does_leave backend
        · refine triple_exists fun kind => triple_of_imp fun hbackend => ?_
          subst hbackend
          exact ih kind

lemma does_captureWorkerLoop {n : ℕ} :
    Does allow (fun s => Holds [] False s.log) (captureWorkerLoop allow n : Op F Unit) fun _ _ => True := by
  refine .bind does_startBackendWith fun r => ?_
  rcases r with e | (kind | -)
  · exact .bind ((does_publishMessage _).pre fun _ _ hs => hs.1) fun _ => triple_any
  · exact does_captureLoop n kind
  · exact triple_any

lemma length_alive_le (h : ∀ before e, before ++ [e] <+: log → Allowed allow before e) :
    (alive log).length ≤ 1 := by
  induction log using List.reverseRecOn with
  | nil => exact Nat.zero_le 1
  | append_singleton log e ih =>
    have hlog := ih fun before e' hbefore => h before e' (hbefore.trans (List.prefix_append _ _))
    rw [alive_concat]
    cases e with
    | constructed kind =>
      have hnone := (h log (.constructed kind) List.prefix_rfl).2
      rw [hnone]
      rfl
    | dropped kind => exact List.length_erase_le.trans hlog
    | _ => exact hlog

/-- Wherever the worker is stopped, each of its events was allowed after those before it, and at no time was more
than one backend alive. -/
theorem capture_worker_disciplined (allowFfmpegFallback : Bool) (n : ℕ) (s₀ s : Worker F) (h₀ : s₀.log = [])
    (q : Prog (Choice F) (Worker F) (Except Empty Unit))
    (hsteps : Prog.Steps (fun _ => True) (captureWorkerLoop allowFfmpegFallback n).run s₀ q s) :
    (∀ before e, before ++ [e] <+: s.log → Allowed allowFfmpegFallback before e) ∧
      ∀ before, before <+: s.log → (alive before).length ≤ 1 := by
  have hsound : Sound allowFfmpegFallback s₀ := by
    refine ⟨fun before e h => ?_, fun h => ?_⟩
    · rw [h₀, List.prefix_nil] at h
      exact absurd h (List.append_ne_nil_of_right_ne_nil _ (List.cons_ne_nil _ _))
    · rw [h₀] at h
      cases h
  have hholds : Holds [] False s₀.log := by
    rw [h₀]
    exact ⟨rfl, fun _ => List.not_mem_nil, fun h => nomatch h⟩
  obtain ⟨hs, -⟩ := does_captureWorkerLoop.steps hsound hholds hsteps
  exact ⟨hs.orderly, fun before hbefore => length_alive_le fun before' e h =>
    hs.orderly before' e (h.trans hbefore)⟩

def quiet : Choice ℕ := {}

def unplugged : List (Choice ℕ) :=
  List.replicate 6 quiet ++ { captured := .error "no such device" } :: List.replicate 5 quiet

theorem capture_worker_disciplined_unplugged :
    ∃ r s, (captureWorkerLoop true 1).run.run unplugged {} = some (r, s) ∧
    .constructs .ffmpegFallback ∈ s.log ∧ ∀ before e, before ++ [e] <+: s.log → Allowed true before e := by
  have hfell : ((captureWorkerLoop true 1).run.run unplugged {}).map
      (fun x => decide (.constructs .ffmpegFallback ∈ x.2.log)) = some true := by decide +kernel
  obtain ⟨⟨r, s⟩, hrun, hmem⟩ := Option.map_eq_some_iff.mp hfell
  refine ⟨r, s, hrun, of_decide_eq_true hmem, ?_⟩
  exact (capture_worker_disciplined true 1 {} s rfl _ (Prog.steps_of_run (fun _ _ => trivial) hrun)).1

end Howy.Daemon.CaptureWorker
