import Howy.Client.PromptConnection
import Howy.Library.Fallible
import Mathlib.Data.List.Infix

/-! `pam_sm_authenticate`, for any application, daemon, clock and random source. -/

namespace Howy.Client.PamModule

open Library Storage PromptConnection Prompt

def pamSuccess : Int := 0
def pamSystemErr : Int := 4
def pamAuthErr : Int := 7
def pamAuthinfoUnavail : Int := 9
def pamUserUnknown : Int := 10
def pamSilent : UInt32 := 0x8000
def pamMaxRespSize : ℕ := 512
def pamServiceMaxBytes : ℕ := 64
def pamRhostMaxBytes : ℕ := 255

/-- What a conversation hands back; a C string is given by its bytes before the terminator. -/
structure PamResponse where
  respRetcode : Int
  resp : Option Bytes
deriving DecidableEq

structure AuthenticateV1Req where
  protocolVersion : UInt32
  username : String
  timeout : UInt32
deriving DecidableEq

inductive Event where
  | user (status : Int) (name : Option Bytes)
  | service (status : Int) (value : Option Bytes)
  | rhost (status : Int) (value : Option Bytes)
  | conversed (status : Int) (responses : Option PamResponse)
  | connected
  | wrote (frame : Frame)
  | wroteAuthenticate (req : AuthenticateV1Req) (cut : Option ℕ)
  | received (response : Response)
  | checkedDeadline (met : Bool)
  | panicked
deriving DecidableEq

structure Session where
  prompt : PromptAuthClientConnection := new
  log : List Event := []

def Session.record (s : Session) (e : Event) : Session := { s with log := s.log ++ [e] }

structure Choice where
  panics : Bool := false
  status : Int := 0
  string : Option Bytes := none
  -- the conversation item: a null pointer, no callback, or what its callback returns and hands back
  conv : Option (Option (Int × Option PamResponse)) := none
  nonce : Option (FixedArray UInt8 promptNonceBytes) := none
  connects : Bool := true
  env : Surroundings := {}
  late : Bool := false

/-- The function ends before its last expression; none of its early returns is a success. -/
inductive Exit where
  | returned (status : Int) (h : status ≠ pamSuccess)
  | panicked

lemma pamAuthinfoUnavail_ne : pamAuthinfoUnavail ≠ pamSuccess := by decide

lemma pamUserUnknown_ne : pamUserUnknown ≠ pamSuccess := by decide

lemma pamSystemErr_ne : pamSystemErr ≠ pamSuccess := by decide

def unavailable : Exit := .returned pamAuthinfoUnavail pamAuthinfoUnavail_ne
def userUnknown : Exit := .returned pamUserUnknown pamUserUnknown_ne
def systemErr : Exit := .returned pamSystemErr pamSystemErr_ne

abbrev Pam (α : Type) := Attempt Choice Session Exit α

def step {α : Type} (f : Choice → Session → Except Exit α × Session) : Pam α :=
  action fun c s => if c.panics then (.error .panicked, s) else f c s

def checkpoint : Pam Unit := step fun _ s => (.ok (), s)

def failIf (p : Prop) [Decidable p] (e : Exit) : Pam Unit := if p then throw e else pure ()

def orElse {α : Type} (x : Option α) (e : Exit) : Pam α := x.elim (throw e) pure

def isValidUsername (name : String) : Bool :=
  name != "" && decide ((utf8Bytes name).length ≤ 64) && !name.toList.contains '/' &&
    !name.toList.contains '\x00' && !decide (['.', '.'] <:+: name.toList) &&
    name.toList.all fun c => c.isAlphanum || c == '_' || c == '-' || c == '.'

def isValidPamService (service : String) : Bool :=
  decide (1 ≤ (utf8Bytes service).length) && decide ((utf8Bytes service).length ≤ pamServiceMaxBytes) &&
    (utf8Bytes service).all fun b => isAsciiAlphanumeric b || b == 46 || b == 95 || b == 45

def isValidPamRhost (rhost : String) : Bool :=
  rhost != "" && decide ((utf8Bytes rhost).length ≤ pamRhostMaxBytes) &&
    (utf8Bytes rhost).all fun b =>
      isAsciiAlphanumeric b || b == 46 || b == 45 || b == 95 || b == 58 || b == 91 || b == 93 || b == 37

def readPamStringItem (event : Int → Option Bytes → Event) (maxBytes : ℕ) : Pam (Option String) := do
  let (status, value) ← step fun c s => (.ok (c.status, c.string), s.record (event c.status c.string))
  failIf (status ≠ pamSuccess) unavailable
  match value with
  | none => pure none
  | some bytes =>
    failIf (maxBytes < bytes.length) unavailable
    some <$> orElse (fromUtf8 bytes) unavailable

def originOf (rhost : Option String) : Option PromptOriginV1 :=
  match rhost with
  | none => some .local_
  | some value => if value = "" then some .local_ else if isValidPamRhost value then some .remote else none

def readPamPolicy : Pam (String × PromptOriginV1) := do
  let service ← orElse (← readPamStringItem .service pamServiceMaxBytes) unavailable
  failIf (¬ isValidPamService service) unavailable
  let rhost ← readPamStringItem .rhost pamRhostMaxBytes
  let origin ← orElse (originOf rhost) unavailable
  pure (service, origin)

def confirmationResponseIsAllowed (response : Bytes) : Bool :=
  decide (response.length ≤ pamMaxRespSize) && (fromUtf8 response).any fun text => text == "" || text == "OK"

def confirmed (status : Int) (responses : Option PamResponse) : Bool :=
  status == pamSuccess && responses.any fun response =>
    response.respRetcode == 0 && response.resp.any confirmationResponseIsAllowed

/-- `request_confirmation_with_get_item`; whether its status is `PAM_SUCCESS`. -/
def requestConfirmation (flags : UInt32) : Pam Bool :=
  if flags &&& pamSilent ≠ 0 then pure false
  else step fun c s =>
    if c.status ≠ pamSuccess then (.ok false, s)
    else match c.conv with
      | some (some (status, responses)) =>
        (.ok (confirmed status responses), s.record (.conversed status responses))
      | _ => (.ok false, s)

def mapAuthResponse (response : Response) : Int :=
  match response.result with
  | some (.success _) => pamSuccess
  | some (.authFailed _) => pamAuthErr
  | _ => pamAuthinfoUnavail

def connect : Pam Unit :=
  step fun c s => if c.connects then (.ok (), s.record .connected) else (.error unavailable, s)

variable (decode : Bytes → Except String Response)

def written (before after : PromptAuthClientConnection) : List Event :=
  (after.sent.drop before.sent.length).map .wrote

def answered {α : Type} (env : Surroundings) (before : PromptAuthClientConnection) (r : Except IoError α) :
    List Event :=
  match r, receives decode env before.inbox with
  | .ok _, .ok response => [.received response]
  | _, _ => []

def onPrompt {α : Type} (call : Surroundings → PromptAuthClientConnection →
    PromptAuthClientConnection × Except IoError α) : Pam (Except IoError α) :=
  step fun c s => (.ok (call c.env s.prompt).2, ⟨(call c.env s.prompt).1,
    s.log ++ written s.prompt (call c.env s.prompt).1 ++ answered decode c.env s.prompt (call c.env s.prompt).2⟩)

def Session.dropPrompt (env : Surroundings) (s : Session) : Session :=
  ⟨drop decode env s.prompt, s.log ++ written s.prompt (drop decode env s.prompt)⟩

def requestMessageUntil (req : AuthenticateV1Req) : Pam (Except IoError Response) :=
  step fun c s =>
    match c.env.write, c.env.expired with
    | some (bytes, e), _ => (.ok (.error e), s.record (.wroteAuthenticate req (some bytes)))
    | none, some e => (.ok (.error e), s.record (.wroteAuthenticate req none))
    | none, none =>
      match receives decode c.env [] with
      | .error e => (.ok (.error e), s.record (.wroteAuthenticate req none))
      | .ok response => (.ok (.ok response), (s.record (.wroteAuthenticate req none)).record (.received response))

def settle (answer : Except IoError Response) : Pam Int := do
  checkpoint
  match answer with
  | .ok response => pure (mapAuthResponse response)
  | .error _ => throw unavailable

def authenticateByPrompt (flags : UInt32) : Pam Int := do
  let isConfirmed ← requestConfirmation flags
  if isConfirmed then
    let answer ← onPrompt decode (commit decode)
    settle answer
  else
    let _ ← onPrompt decode (cancel decode)
    throw unavailable

def authenticateOnce (username : String) : Pam Int := do
  step fun c s => (.ok (), s.dropPrompt decode c.env)
  connect
  step fun c s => if c.env.deadline then (.ok (), s) else (.error unavailable, s)
  match ← requestMessageUntil decode ⟨promptProtocolVersion, username, 0⟩ with
  | .error _ => throw unavailable
  | .ok response =>
    step fun c s => if c.late then (.error unavailable, s.record (.checkedDeadline false)) else
      (.ok (), s.record (.checkedDeadline true))
    settle (.ok response)

def readUser : Pam String := do
  let (status, name) ← step fun c s => (.ok (c.status, c.string), s.record (.user c.status c.string))
  if h : status ≠ pamSuccess then throw (.returned status h)
  let username ← orElse (name.bind fromUtf8) userUnknown
  failIf (¬ isValidUsername username) userUnknown
  failIf (username = "root") unavailable
  pure username

def authenticateUserWith (handle : Bool) (flags : UInt32) : Pam Int := do
  failIf (¬ handle) systemErr
  let username ← readUser
  let (service, origin) ← readPamPolicy
  let nonce ← step fun c s => (c.nonce.elim (.error unavailable) .ok, s)
  connect
  match ← onPrompt decode (beginAdaptiveRef decode username nonce service origin) with
  | .ok (.promptRequired _) => authenticateByPrompt decode flags
  | .ok .promptModeOff => authenticateOnce decode username
  | .error _ => throw unavailable

/-- `catch_pam_panic` around the call: however it ends, the prompt connection has been dropped. -/
def pamSmAuthenticate (handle : Bool) (flags : UInt32) : Prog Choice Session Int := do
  let result ← (authenticateUserWith decode handle flags).run
  Prog.atomic fun c s =>
    match result with
    | .ok status => some (status, s.dropPrompt decode c.env)
    | .error (.returned status _) => some (status, s.dropPrompt decode c.env)
    | .error .panicked => some (pamAuthinfoUnavail, (s.dropPrompt decode c.env).record .panicked)

end Howy.Client.PamModule
