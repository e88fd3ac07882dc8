import Howy.Library.Runs
import Howy.Prompt.Digests

/-! The client side of the prompt protocol on one connection: what it writes, for every behaviour of its peer. -/

namespace Howy.Client.PromptConnection

open Library Storage Prompt

def maxMessageSize : ℕ := 4 * 1024 * 1024
def promptProtocolVersion : UInt32 := 1
def promptNonceBytes : ℕ := 32
def promptTokenBytes : ℕ := 32
def promptIdentityMaxBytes : ℕ := 64
def promptTimeoutMsMin : UInt32 := 1000
def promptTimeoutMsMax : UInt32 := 300000
def commitResponseTimeoutMsMin : UInt32 := 1000
def commitResponseTimeoutMsMax : UInt32 := 120000
def promptProtocolIncompatibleError : String := "prompt_protocol_incompatible"

structure PromptPolicyContextV1 where
  pamService : String
  origin : Int
deriving DecidableEq

structure BeginAuthV1Req where
  protocolVersion : UInt32
  username : String
  clientNonce : Bytes
  policy : Option PromptPolicyContextV1
deriving DecidableEq

structure ClosingReq where
  protocolVersion : UInt32
  transactionToken : Bytes
  clientNonce : Bytes
deriving DecidableEq

inductive Cmd where
  | beginAuthV1 (req : BeginAuthV1Req)
  | commitAuthV1 (req : ClosingReq)
  | cancelAuthV1 (req : ClosingReq)
deriving DecidableEq

structure PromptRequiredV1 where
  protocolVersion : UInt32
  transactionToken : Bytes
  clientNonce : Bytes
  promptTimeoutMs : UInt32
  commitResponseTimeoutMs : UInt32
deriving DecidableEq

structure AuthCancelledV1 where
  protocolVersion : UInt32
  clientNonce : Bytes
deriving DecidableEq

structure AuthSuccess where
  modelIndex : UInt32
  modelLabel : String
  scoreBits : UInt32
  elapsedMsBits : UInt64
deriving DecidableEq

structure AuthFailed where
  bestScoreBits : UInt32
  framesProcessed : UInt32
  reason : String
deriving DecidableEq

inductive RespResult where
  | success (success : AuthSuccess)
  | authFailed (failed : AuthFailed)
  | error (message code : String)
  | promptRequiredV1 (prompt : PromptRequiredV1)
  | authCancelledV1 (cancelled : AuthCancelledV1)
  | other
deriving DecidableEq

structure Response where
  result : Option RespResult
deriving DecidableEq

inductive IoErrorKind where
  | invalidData
  | timedOut
  | unexpectedEof
  | other
deriving DecidableEq

structure IoError where
  kind : IoErrorKind
  message : String
deriving DecidableEq

def promptSequenceError (message : String) : IoError := ⟨.invalidData, message⟩

def validatePromptIdentity (value : String) : Bool :=
  decide (1 ≤ (utf8Bytes value).length) && decide ((utf8Bytes value).length ≤ promptIdentityMaxBytes) &&
    (utf8Bytes value).all fun b => isAsciiAlphanumeric b || b == 46 || b == 95 || b == 45

def BeginAuthV1Req.validate (req : BeginAuthV1Req) : Bool :=
  req.protocolVersion == promptProtocolVersion && validatePromptIdentity req.username &&
    req.clientNonce.length == promptNonceBytes &&
    req.policy.any fun policy => validatePromptIdentity policy.pamService &&
      (PromptOriginV1.ofI32 policy.origin == some .local_ || PromptOriginV1.ofI32 policy.origin == some .remote)

def inRange (low high value : UInt32) : Bool := decide (low ≤ value) && decide (value ≤ high)

def PromptRequiredV1.validate (prompt : PromptRequiredV1) : Bool :=
  prompt.protocolVersion == promptProtocolVersion && prompt.transactionToken.length == promptTokenBytes &&
    prompt.clientNonce.length == promptNonceBytes &&
    inRange promptTimeoutMsMin promptTimeoutMsMax prompt.promptTimeoutMs &&
    inRange commitResponseTimeoutMsMin commitResponseTimeoutMsMax prompt.commitResponseTimeoutMs

def AuthCancelledV1.validate (cancelled : AuthCancelledV1) : Bool :=
  cancelled.protocolVersion == promptProtocolVersion && cancelled.clientNonce.length == promptNonceBytes

def isPromptAuthTerminalResponse (response : Response) : Bool :=
  match response.result with
  | some (.success _) | some (.authFailed _) | some (.error ..) => true
  | _ => false

inductive PromptClientPhase where
  | initial
  | pending
  | finished
deriving DecidableEq

structure PromptMetadata where
  promptTimeoutMs : UInt32
  commitResponseTimeoutMs : UInt32
deriving DecidableEq

inductive PromptBeginOutcome where
  | promptRequired (metadata : PromptMetadata)
  | promptModeOff
deriving DecidableEq

structure PendingClientPrompt where
  transactionToken : FixedArray UInt8 promptTokenBytes
  clientNonce : FixedArray UInt8 promptNonceBytes
  commitResponseTimeoutMs : UInt32
deriving DecidableEq

/-- A frame that the client started to write; `cut` tells after how many bytes the write failed, if it did. -/
structure Frame where
  cmd : Cmd
  cut : Option ℕ
deriving DecidableEq

/-- The state of the protocol. `sent` and `accepted` are read by no call: they keep what was written and which
Begin response was accepted. -/
structure Core where
  phase : PromptClientPhase
  pending : Option PendingClientPrompt
  sent : List Frame
  accepted : List PromptRequiredV1
deriving DecidableEq

/-- `inbox` holds what the peer has sent and nobody has read. -/
structure PromptAuthClientConnection extends Core where
  inbox : Bytes
  owned : Bool
deriving DecidableEq

def new : PromptAuthClientConnection := ⟨⟨.initial, none, [], []⟩, [], true⟩

structure Surroundings where
  -- the clock can represent the deadline
  deadline : Bool := true
  -- the deadline has passed, or no write timeout can be set
  expired : Option IoError := none
  -- the write fails after some bytes
  write : Option (ℕ × IoError) := none
  arrives : Bytes := []
  -- how many bytes the call can read before reading fails, where it fails before the unread bytes run out
  readable : Option ℕ := none
  -- why no more bytes are read
  stops : IoError := ⟨.unexpectedEof, ""⟩

def sendRequest (cmd : Cmd) (env : Surroundings) (s : PromptAuthClientConnection) :
    PromptAuthClientConnection × Except IoError Unit :=
  match env.write with
  | none => ({ s with sent := s.sent ++ [⟨cmd, none⟩] }, .ok ())
  | some (bytes, e) => ({ s with sent := s.sent ++ [⟨cmd, some bytes⟩] }, .error e)

def sendRequestUntil (cmd : Cmd) (env : Surroundings) (s : PromptAuthClientConnection) :
    PromptAuthClientConnection × Except IoError Unit :=
  match env.expired with
  | some e => (s, .error e)
  | none => sendRequest cmd env s

def beValue (bytes : Bytes) : ℕ := leValue bytes.reverse

variable (decode : Bytes → Except String Response)

def recvPromptMessageUntil (bytes : Bytes) (stops : IoError) : Except IoError Response × Bytes :=
  if bytes.length < 4 then (.error stops, [])
  else
    let len := beValue (bytes.take 4)
    let rest := bytes.drop 4
    if maxMessageSize < len then
      (.error ⟨.invalidData, s!"message too large: {len} bytes (max {maxMessageSize})"⟩, rest)
    else if rest.length < len then (.error stops, [])
    else match decode (rest.take len) with
      | .error e => (.error ⟨.invalidData, e⟩, rest.drop len)
      | .ok response => (.ok response, rest.drop len)

def Surroundings.read (env : Surroundings) (unread : Bytes) : Bytes × Bytes :=
  let limit := env.readable.getD (unread ++ env.arrives).length
  ((unread ++ env.arrives).take limit, (unread ++ env.arrives).drop limit)

def receives (env : Surroundings) (unread : Bytes) : Except IoError Response :=
  (recvPromptMessageUntil decode (env.read unread).1 env.stops).1

def receiveResponseUntil (env : Surroundings) (s : PromptAuthClientConnection) :
    PromptAuthClientConnection × Except IoError Response :=
  ({ s with inbox := (recvPromptMessageUntil decode (env.read s.inbox).1 env.stops).2 ++ (env.read s.inbox).2 },
    receives decode env s.inbox)

def zeroizingExactArray (n : ℕ) (value : Bytes) : Option (FixedArray UInt8 n) :=
  if h : value.length = n then some ⟨value, h⟩ else none

def finish (s : PromptAuthClientConnection) : PromptAuthClientConnection := { s with phase := .finished }

def acceptPrompt (prompt : PromptRequiredV1) (expectedNonce : FixedArray UInt8 promptNonceBytes)
    (s : PromptAuthClientConnection) : PromptAuthClientConnection × Except IoError PromptBeginOutcome :=
  if ¬ prompt.validate ∨ prompt.clientNonce ≠ expectedNonce.val then
    (finish s, .error (promptSequenceError "invalid prompt begin response"))
  else match zeroizingExactArray promptTokenBytes prompt.transactionToken with
    | none => (s, .error (promptSequenceError "invalid prompt transaction data"))
    | some token =>
      ({ s with
        phase := .pending
        pending := some ⟨token, expectedNonce, prompt.commitResponseTimeoutMs⟩
        accepted := s.accepted ++ [prompt] },
      .ok (.promptRequired ⟨prompt.promptTimeoutMs, prompt.commitResponseTimeoutMs⟩))

def settleBegin (expectedNonce : FixedArray UInt8 promptNonceBytes) (response : Response)
    (s : PromptAuthClientConnection) : PromptAuthClientConnection × Except IoError PromptBeginOutcome :=
  match response.result with
  | some (.promptRequiredV1 prompt) => acceptPrompt prompt expectedNonce s
  | some (.error _ code) =>
    if code = promptProtocolIncompatibleError then (finish s, .ok .promptModeOff)
    else (finish s, .error (promptSequenceError "unexpected prompt begin response"))
  | _ => (finish s, .error (promptSequenceError "unexpected prompt begin response"))

def beginAdaptive (req : BeginAuthV1Req) (env : Surroundings) (s : PromptAuthClientConnection) :
    PromptAuthClientConnection × Except IoError PromptBeginOutcome :=
  if ¬ env.deadline then (s, .error (promptSequenceError "prompt response deadline overflow"))
  else if s.phase ≠ .initial then (s, .error (promptSequenceError "begin is not valid in this phase"))
  else if ¬ req.validate then (finish s, .error (promptSequenceError "invalid prompt begin request"))
  else match zeroizingExactArray promptNonceBytes req.clientNonce with
    | none => (s, .error (promptSequenceError "invalid prompt transaction data"))
    | some expectedNonce =>
      match sendRequest (.beginAuthV1 req) env s with
      | (s, .error e) => (finish s, .error e)
      | (s, .ok ()) =>
        match receiveResponseUntil decode env s with
        | (s, .error e) => (finish s, .error e)
        | (s, .ok response) => settleBegin expectedNonce response s

def beginAuthV1Ref (username : String) (clientNonce : FixedArray UInt8 promptNonceBytes) (pamService : String)
    (origin : PromptOriginV1) : BeginAuthV1Req :=
  ⟨promptProtocolVersion, username, clientNonce.val, some ⟨pamService, origin.toI32⟩⟩

def beginAdaptiveRef (username : String) (clientNonce : FixedArray UInt8 promptNonceBytes) (pamService : String)
    (origin : PromptOriginV1) (env : Surroundings) (s : PromptAuthClientConnection) :
    PromptAuthClientConnection × Except IoError PromptBeginOutcome :=
  beginAdaptive decode (beginAuthV1Ref username clientNonce pamService origin) env s

def begin_ (req : BeginAuthV1Req) (env : Surroundings) (s : PromptAuthClientConnection) :
    PromptAuthClientConnection × Except IoError PromptMetadata :=
  match beginAdaptive decode req env s with
  | (s, .ok (.promptRequired metadata)) => (s, .ok metadata)
  | (s, .ok .promptModeOff) =>
    (s, .error (promptSequenceError "daemon prompt mode is incompatible with prompt authentication"))
  | (s, .error e) => (s, .error e)

def takePending (s : PromptAuthClientConnection) :
    PromptAuthClientConnection × Except IoError PendingClientPrompt :=
  if s.phase ≠ .pending then (s, .error (promptSequenceError "prompt transaction is not pending"))
  else match s.pending with
    | none => (finish s, .error (promptSequenceError "prompt transaction is not pending"))
    | some pending => ({ finish s with pending := none }, .ok pending)

def PendingClientPrompt.closing (pending : PendingClientPrompt) : ClosingReq :=
  ⟨promptProtocolVersion, pending.transactionToken.val, pending.clientNonce.val⟩

def commitPending (pending : PendingClientPrompt) (env : Surroundings) (s : PromptAuthClientConnection) :
    PromptAuthClientConnection × Except IoError Response :=
  match sendRequest (.commitAuthV1 pending.closing) env s with
  | (s, .error e) => (s, .error e)
  | (s, .ok ()) =>
    match receiveResponseUntil decode env s with
    | (s, .error e) => (s, .error e)
    | (s, .ok response) =>
      if isPromptAuthTerminalResponse response then (s, .ok response)
      else (s, .error (promptSequenceError "unexpected prompt commit response"))

def commit (env : Surroundings) (s : PromptAuthClientConnection) :
    PromptAuthClientConnection × Except IoError Response :=
  match takePending s with
  | (s, .error e) => (s, .error e)
  | (s, .ok pending) =>
    if ¬ inRange commitResponseTimeoutMsMin commitResponseTimeoutMsMax pending.commitResponseTimeoutMs then
      (s, .error (promptSequenceError "invalid prompt commit response timeout"))
    else if ¬ env.deadline then (s, .error (promptSequenceError "prompt response deadline overflow"))
    else commitPending decode pending env s

def cancelledResult (pending : PendingClientPrompt) (response : Response) : Except IoError Unit :=
  match response.result with
  | some (.authCancelledV1 cancelled) =>
    if cancelled.validate ∧ cancelled.clientNonce = pending.clientNonce.val then .ok ()
    else .error (promptSequenceError "invalid prompt cancel response")
  | _ => .error (promptSequenceError "unexpected prompt cancel response")

def cancelPending (pending : PendingClientPrompt) (env : Surroundings) (s : PromptAuthClientConnection) :
    PromptAuthClientConnection × Except IoError Unit :=
  match sendRequestUntil (.cancelAuthV1 pending.closing) env s with
  | (s, .error e) => (s, .error e)
  | (s, .ok ()) =>
    match receiveResponseUntil decode env s with
    | (s, .error e) => (s, .error e)
    | (s, .ok response) => (s, cancelledResult pending response)

def cancel (env : Surroundings) (s : PromptAuthClientConnection) :
    PromptAuthClientConnection × Except IoError Unit :=
  match takePending s with
  | (s, .error e) => (s, .error e)
  | (s, .ok pending) =>
    if ¬ env.deadline then (s, .error (promptSequenceError "prompt response deadline overflow"))
    else cancelPending decode pending env s

def intoInner (env : Surroundings) (s : PromptAuthClientConnection) : PromptAuthClientConnection :=
  { finish (if s.pending.isSome then (cancel decode env s).1 else s) with owned := false }

def drop (env : Surroundings) (s : PromptAuthClientConnection) : PromptAuthClientConnection :=
  if s.phase ≠ .pending ∨ s.pending = none then { s with owned := false }
  else { (cancel decode env s).1 with owned := false }

inductive Call where
  | begin_ (req : BeginAuthV1Req) (env : Surroundings)
  | beginAdaptive (req : BeginAuthV1Req) (env : Surroundings)
  | beginAdaptiveRef (username : String) (clientNonce : FixedArray UInt8 promptNonceBytes) (pamService : String)
      (origin : PromptOriginV1) (env : Surroundings)
  | commit (env : Surroundings)
  | cancel (env : Surroundings)
  | intoInner (env : Surroundings)
  | drop (env : Surroundings)

inductive Answer where
  | began (result : Except IoError PromptMetadata)
  | beganAdaptive (result : Except IoError PromptBeginOutcome)
  | committed (result : Except IoError Response)
  | cancelled (result : Except IoError Unit)
  | done
  -- the value was moved or dropped before
  | gone

def step (s : PromptAuthClientConnection) (call : Call) : PromptAuthClientConnection × Answer :=
  if ¬ s.owned then (s, .gone)
  else match call with
    | .begin_ req env => ((begin_ decode req env s).1, .began (begin_ decode req env s).2)
    | .beginAdaptive req env =>
      ((beginAdaptive decode req env s).1, .beganAdaptive (beginAdaptive decode req env s).2)
    | .beginAdaptiveRef username clientNonce pamService origin env =>
      ((beginAdaptiveRef decode username clientNonce pamService origin env s).1,
        .beganAdaptive (beginAdaptiveRef decode username clientNonce pamService origin env s).2)
    | .commit env => ((commit decode env s).1, .committed (commit decode env s).2)
    | .cancel env => ((cancel decode env s).1, .cancelled (cancel decode env s).2)
    | .intoInner env => (intoInner decode env s, .done)
    | .drop env => (drop decode env s, .done)

end Howy.Client.PromptConnection
