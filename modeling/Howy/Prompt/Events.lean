import Howy.Library.Runs
import Howy.Prompt.Manager

/-! The manager together with the handles its callers hold: every call, drop and cleanup is one event. -/

namespace Howy.Prompt

open Library Storage
open Daemon.Access (CanonicalIdentity)

/-- A live handle. The flags that disarm a moved-out handle in the source are its absence here. -/
inductive Handle where
  | reservation (connection : BindingDigest)
  | issue (connection lookup : BindingDigest) (token : PromptToken)
  | claim (claim : CommitClaim)
  | lease (activeId : ℕ)
deriving DecidableEq

structure World where
  state : ManagerState
  poisoned : Bool
  controls : Table ℕ ActiveControl
  handles : Table ℕ Handle
  nextHandle : ℕ
  cleanups : List FailClosedCleanup
  shutStreams : List ℕ
  /-- Hash inputs of issued and presented tokens and nonces; no function reads them. -/
  hashed : List Bytes

inductive Event where
  | newConnection
  | reserveBegin (connection : UInt64) (peerUid : UInt32) (target : CanonicalIdentity)
  | issue (handle : ℕ) (binding : PendingBinding)
  | activate (handle : ℕ) (shutdownWaker : Option ℕ) (now : Instant)
  | claimCommit (handle : ℕ) (token : PromptToken) (nonce : PromptNonce)
      (peerUid targetUid : UInt32) (now : Instant)
  | cancel (handle : ℕ) (token : PromptToken) (nonce : PromptNonce) (peerUid targetUid : UInt32) (now : Instant)
  | promote (handle : ℕ) (binding : CommitBinding) (now : Instant)
  | drop (handle : ℕ)
  | cancelActive (activeId : ℕ)
  | checkDeadline (handle : ℕ) (now : Instant)
  | shutdown
  | finishCleanup
  | poison
deriving DecidableEq

inductive Response where
  | connection (id : ℕ)
  | reserved (handle : ℕ)
  | issued (handle : ℕ) (token : PromptToken)
  | activated (deadline : Instant)
  | claimed (handle : ℕ) (activeId : ℕ)
  | cancelled
  | promoted (handle : ℕ) (activeId : ℕ)
  | done
  | refused (error : PromptStateError)
  | noHandle
deriving DecidableEq

section

variable (w : World)

def failClosed : World :=
  { w with state := (failClosedLocked w.state).2, cleanups := w.cleanups ++ [(failClosedLocked w.state).1] }

def locked {α : Type} (w : World) (section_ : ManagerState → Outcome α) : Except PromptStateError α × World :=
  if w.poisoned then (.error .unavailable, failClosed w)
  else if w.state.terminal then (.error .unavailable, w)
  else ((section_ w.state).1, { w with state := (section_ w.state).2 })

def addHandle (h : Handle) : World :=
  { w with handles := w.handles.insert w.nextHandle h, nextHandle := w.nextHandle + 1 }

def consume (handle : ℕ) : World := { w with handles := w.handles.erase handle }

def cancelControl (activeId : ℕ) : World :=
  match w.controls.lookup activeId with
  | some c => { w with controls := w.controls.insert activeId { c with cancelled := true } }
  | none => w

def noteHashed (inputs : List Bytes) : World := { w with hashed := w.hashed ++ inputs }

def releaseProvisional (connection : BindingDigest) : World :=
  (locked w fun s => ((.ok () : Except PromptStateError Unit), removeProvisional s connection)).2

def releasePending (connection lookup : BindingDigest) : World :=
  (locked w fun s => ((.ok () : Except PromptStateError Unit), (removePending s connection lookup).2)).2

def releaseActive (activeId : ℕ) : World :=
  (locked w fun s =>
    ((.ok () : Except PromptStateError Unit), { s with active := s.active.erase activeId })).2

def dropHandle : Handle → World
  | .reservation connection => releaseProvisional w connection
  | .issue connection lookup _ => releasePending w connection lookup
  | .claim c => releaseActive (cancelControl w c.activeId) c.activeId
  | .lease activeId => releaseActive (cancelControl w activeId) activeId

def runCleanup (cleanup : FailClosedCleanup) : World :=
  cleanup.controls.foldl cancelControl { w with shutStreams := w.shutStreams ++ cleanup.shutdownWakers }

end

section

variable (m : ManagerInner)

section

variable (w : World)

def stepReserve (connection : UInt64) (peerUid : UInt32) (target : CanonicalIdentity) :
    World × Response :=
  match locked w fun s => reserveBegin m s connection peerUid target with
  | (.ok binding, w) => (addHandle w (.reservation binding), .reserved w.nextHandle)
  | (.error e, w) => (w, .refused e)

def stepIssue (handle : ℕ) (binding : PendingBinding) : World × Response :=
  match w.handles.lookup handle with
  | some (.reservation connection) =>
    match locked (consume w handle) fun s => issueReserved m s connection binding with
    | (.ok fresh, w) =>
      (addHandle (noteHashed w [fresh.input, tokenLookupInput w.state.instanceSecret fresh.token,
          nonceInput w.state.instanceSecret binding.clientNonce]) (.issue connection fresh.lookup fresh.token),
        .issued w.nextHandle fresh.token)
    | (.error e, w) => (w, .refused e)
  | _ => (w, .noHandle)

def stepActivate (handle : ℕ) (shutdownWaker : Option ℕ) (now : Instant) : World × Response :=
  match w.handles.lookup handle with
  | some (.issue connection lookup _) =>
    match m.checkedAdd now m.promptTimeout with
    | none => (w, .refused .unavailable)
    | some deadline =>
      match locked w fun s => activatePending s connection lookup deadline shutdownWaker with
      | (.ok deadline, w) => (w, .activated deadline)
      | (.error e, w) => (w, .refused e)
  | _ => (w, .noHandle)

def stepClaim (handle : ℕ) (token : PromptToken) (nonce : PromptNonce) (peerUid targetUid : UInt32)
    (now : Instant) : World × Response :=
  match w.handles.lookup handle with
  | some (.issue connection lookup _) =>
    let w := noteHashed (consume w handle)
      [tokenLookupInput w.state.instanceSecret token, nonceInput w.state.instanceSecret nonce]
    match locked w fun s => claimCommit m s connection lookup token nonce peerUid targetUid now with
    | (.ok (claim, control), w) =>
      (addHandle { w with controls := w.controls.insert claim.activeId control } (.claim claim),
        .claimed w.nextHandle claim.activeId)
    | (.error e, w) => (w, .refused e)
  | _ => (w, .noHandle)

def stepCancel (handle : ℕ) (token : PromptToken) (nonce : PromptNonce) (peerUid targetUid : UInt32)
    (now : Instant) : World × Response :=
  match w.handles.lookup handle with
  | some (.issue connection lookup _) =>
    let w := noteHashed (consume w handle)
      [tokenLookupInput w.state.instanceSecret token, nonceInput w.state.instanceSecret nonce]
    match locked w fun s => cancelPending m s connection lookup token nonce peerUid targetUid now with
    | (.ok (), w) => (w, .cancelled)
    | (.error e, w) => (w, .refused e)
  | _ => (w, .noHandle)

def stepPromote (handle : ℕ) (binding : CommitBinding) (now : Instant) : World × Response :=
  match w.handles.lookup handle with
  | some (.claim claim) =>
    match locked (consume w handle)
        fun s => promoteClaim s (w.controls.lookup claim.activeId) claim binding now with
    | (.ok (), w) => (addHandle w (.lease claim.activeId), .promoted w.nextHandle claim.activeId)
    | (.error e, w) => (dropHandle w (.claim claim), .refused e)
  | _ => (w, .noHandle)

def stepCheckDeadline (handle : ℕ) (now : Instant) : World × Response :=
  match w.handles.lookup handle with
  | some (.lease activeId) =>
    match w.controls.lookup activeId with
    | some control => if control.deadline ≤ now then (cancelControl w activeId, .done) else (w, .done)
    | none => (w, .done)
  | _ => (w, .noHandle)

def step : Event → World × Response
  | .newConnection =>
    match locked w newConnection with
    | (.ok id, w) => (w, .connection id)
    | (.error e, w) => (w, .refused e)
  | .reserveBegin connection peerUid target => stepReserve m w connection peerUid target
  | .issue handle binding => stepIssue m w handle binding
  | .activate handle shutdownWaker now => stepActivate m w handle shutdownWaker now
  | .claimCommit handle token nonce peerUid targetUid now => stepClaim m w handle token nonce peerUid targetUid now
  | .cancel handle token nonce peerUid targetUid now => stepCancel m w handle token nonce peerUid targetUid now
  | .promote handle binding now => stepPromote w handle binding now
  | .drop handle =>
    match w.handles.lookup handle with
    | some h => (dropHandle (consume w handle) h, .done)
    | none => (w, .noHandle)
  | .cancelActive activeId => (cancelControl w activeId, .done)
  | .checkDeadline handle now => stepCheckDeadline w handle now
  | .shutdown => (failClosed w, .done)
  | .finishCleanup =>
    match w.cleanups with
    | cleanup :: rest => (runCleanup { w with cleanups := rest } cleanup, .done)
    | [] => (w, .noHandle)
  | .poison => ({ w with poisoned := true }, .done)

end

end

def initial (entropy : Entropy) (secret : InstanceSecret) (issuanceCounter : ℕ) : World where
  state :=
    { entropy, instanceSecret := secret, nextConnection := 1, issuanceCounter, nextActive := 1,
      provisional := ∅, pending := ∅, pendingByConnection := ∅, active := ∅, terminal := false }
  poisoned := false
  controls := ∅
  handles := ∅
  nextHandle := 0
  cleanups := []
  shutStreams := []
  hashed := []

def reached (m : ManagerInner) (w : World) (events : List Event) : World := final (step m) w events

def answers (m : ManagerInner) (w : World) (events : List Event) : List (Event × Response) :=
  trace (step m) w events

end Howy.Prompt
