import Howy.Daemon.Access
import Howy.Library.Tables
import Howy.Prompt.Digests

/-! The locked state of the prompt transaction manager and the critical sections that change it. -/

namespace Howy.Prompt

open Library Storage
open Daemon.Access (CanonicalIdentity)

def entropyAttempts : ℕ := 16

abbrev Instant := ℕ

inductive PromptStateError where
  | unavailable
  | invalid
deriving DecidableEq

/-- The limits, timeouts and hash of one manager; the last instant bounds what the clock can represent. -/
structure ManagerInner where
  sha256 : Sha256
  promptTimeout : ℕ
  activeTimeout : ℕ
  commitToCameraTimeout : ℕ
  maxPendingPerUid : ℕ
  maxPendingGlobal : ℕ
  maxActive : ℕ
  lastInstant : Instant
  timeouts_pos : 0 < promptTimeout ∧ 0 < activeTimeout ∧ 0 < commitToCameraTimeout
  maxPendingPerUid_pos : 0 < maxPendingPerUid
  maxPendingPerUid_le : maxPendingPerUid ≤ maxPendingGlobal
  maxActive_pos : 0 < maxActive

section

variable (m : ManagerInner)

def ManagerInner.checkedAdd (now : Instant) (duration : ℕ) : Option Instant :=
  if now + duration ≤ m.lastInstant then some (now + duration) else none

/-- A random source: the answer to every call of `fill`, and how many calls were made. -/
structure Entropy where
  fill : ℕ → Option (FixedArray UInt8 32)
  used : ℕ

structure ProvisionalRecord where
  peerUid : UInt32
  target : CanonicalIdentity
deriving DecidableEq

structure PendingBinding where
  connection : UInt64
  peerUid : UInt32
  target : CanonicalIdentity
  clientNonce : PromptNonce
  pamService : String
  origin : PromptOriginV1
  snapshot : SecuritySnapshot
deriving DecidableEq

structure CommitBinding where
  connection : UInt64
  peerUid : UInt32
  target : CanonicalIdentity
  pamService : String
  origin : PromptOriginV1
  snapshot : SecuritySnapshot
deriving DecidableEq

structure PendingRecord where
  connectionBinding : BindingDigest
  peerUid : UInt32
  target : CanonicalIdentity
  nonceBinding : BindingDigest
  pamService : String
  origin : PromptOriginV1
  snapshot : SecuritySnapshot
  expiresAt : Option Instant
  shutdownWaker : Option ℕ
deriving DecidableEq

structure ActiveControl where
  cancelled : Bool
  deadline : Instant
  cameraReadyDeadline : Instant
deriving DecidableEq

/-- The control block of a record is the one allocated for its active id. -/
inductive ActiveRecord where
  | claim (tokenLookup : BindingDigest)
  | active (tokenLookup : BindingDigest)
deriving DecidableEq

def ActiveRecord.tokenLookup : ActiveRecord → BindingDigest
  | claim l => l
  | active l => l

structure ManagerState where
  entropy : Entropy
  instanceSecret : InstanceSecret
  nextConnection : ℕ
  issuanceCounter : ℕ
  nextActive : ℕ
  provisional : Table BindingDigest ProvisionalRecord
  pending : Table BindingDigest PendingRecord
  pendingByConnection : Table BindingDigest BindingDigest
  active : Table ℕ ActiveRecord
  terminal : Bool

abbrev Outcome (α : Type) := Except PromptStateError α × ManagerState

def pendingTotal (s : ManagerState) : ℕ := size s.provisional + size s.pending

def pendingForUid (s : ManagerState) (uid : UInt32) : ℕ :=
  countValues (fun r => r.peerUid == uid) s.provisional + countValues (fun r => r.peerUid == uid) s.pending

def removeProvisional (s : ManagerState) (connection : BindingDigest) : ManagerState :=
  { s with provisional := s.provisional.erase connection }

def removePending (s : ManagerState) (connection lookup : BindingDigest) : Option PendingRecord × ManagerState :=
  (s.pending.lookup lookup,
    { s with
      pendingByConnection :=
        if s.pendingByConnection.lookup connection = some lookup then s.pendingByConnection.erase connection
        else s.pendingByConnection
      pending := s.pending.erase lookup })

def generateNonzeroLoop : ℕ → Entropy → Option (FixedArray UInt8 32) × Entropy
  | 0, e => (none, e)
  | n + 1, e =>
    match e.fill e.used with
    | none => (none, { e with used := e.used + 1 })
    | some bytes =>
      if bytes.val.any (· != 0) then (some bytes, { e with used := e.used + 1 })
      else generateNonzeroLoop n { e with used := e.used + 1 }

def generateNonzero (e : Entropy) : Option (FixedArray UInt8 32) × Entropy := generateNonzeroLoop entropyAttempts e

/-- A fresh token with its lookup; the hash input it came from is kept for the proofs only. -/
structure FreshToken where
  token : PromptToken
  lookup : BindingDigest
  input : Bytes

def generateTokenLoop (sha256 : Sha256) : ℕ → ManagerState → Outcome FreshToken
  | 0, s => (.error .unavailable, s)
  | n + 1, s =>
    if 2 ^ 64 ≤ s.issuanceCounter + 1 then (.error .unavailable, s)
    else
      let (random, entropy) := generateNonzero s.entropy
      let s := { s with issuanceCounter := s.issuanceCounter + 1, entropy := entropy }
      match random with
      | none => (.error .unavailable, s)
      | some random =>
        let token := deriveToken sha256 s.instanceSecret s.issuanceCounter random
        if token.val.all (· == 0) then generateTokenLoop sha256 n s
        else
          let lookup := sha256 (tokenLookupInput s.instanceSecret token)
          if lookup ∉ s.pending ∧ ¬ (values s.active).any (fun r => constantTimeEq r.tokenLookup lookup) then
            (.ok ⟨token, lookup, deriveTokenInput s.instanceSecret s.issuanceCounter random⟩, s)
          else generateTokenLoop sha256 n s

def generateToken (sha256 : Sha256) (s : ManagerState) : Outcome FreshToken :=
  generateTokenLoop sha256 entropyAttempts s

section

variable (s : ManagerState)

def newConnection : Outcome ℕ :=
  if s.nextConnection + 1 < 2 ^ 64 then (.ok s.nextConnection, { s with nextConnection := s.nextConnection + 1 })
  else (.error .unavailable, s)

def reserveBegin (connection : UInt64) (peerUid : UInt32)
    (target : CanonicalIdentity) : Outcome BindingDigest :=
  let binding := connectionBinding m.sha256 s.instanceSecret connection
  if binding ∈ s.provisional ∨ binding ∈ s.pendingByConnection ∨ m.maxPendingGlobal ≤ pendingTotal s ∨
      m.maxPendingPerUid ≤ pendingForUid s peerUid then (.error .unavailable, s)
  else (.ok binding, { s with provisional := s.provisional.insert binding ⟨peerUid, target⟩ })

def issueReserved (reservedConnection : BindingDigest)
    (binding : PendingBinding) : Outcome FreshToken :=
  let expectedConnection := connectionBinding m.sha256 s.instanceSecret binding.connection
  if ¬ constantTimeEq reservedConnection expectedConnection then
    (.error .invalid, removeProvisional s reservedConnection)
  else
    match s.provisional.lookup reservedConnection with
    | none => (.error .invalid, s)
    | some provisional =>
      let s := removeProvisional s reservedConnection
      if provisional.peerUid ≠ binding.peerUid ∨ provisional.target ≠ binding.target then (.error .invalid, s)
      else
        match generateToken m.sha256 s with
        | (.error e, s) => (.error e, s)
        | (.ok fresh, s) =>
          (.ok fresh,
            { s with
              pending := s.pending.insert fresh.lookup
                { connectionBinding := reservedConnection, peerUid := binding.peerUid,
                  target := provisional.target,
                  nonceBinding := m.sha256 (nonceInput s.instanceSecret binding.clientNonce),
                  pamService := binding.pamService, origin := binding.origin, snapshot := binding.snapshot,
                  expiresAt := none, shutdownWaker := none }
              pendingByConnection := s.pendingByConnection.insert reservedConnection fresh.lookup })

def activatePending (connection lookup : BindingDigest) (deadline : Instant)
    (shutdownWaker : Option ℕ) : Outcome Instant :=
  if s.pendingByConnection.lookup connection ≠ some lookup then
    (.error .invalid, (removePending s connection lookup).2)
  else
    match s.pending.lookup lookup with
    | none => (.error .invalid, { s with pendingByConnection := s.pendingByConnection.erase connection })
    | some record =>
      if record.expiresAt.isSome then
        (.error .invalid, { s with pending := s.pending.insert lookup { record with expiresAt := some deadline } })
      else
        (.ok deadline,
          { s with pending := s.pending.insert lookup
                     { record with expiresAt := some deadline, shutdownWaker := shutdownWaker } })

section

variable (connection expectedLookup : BindingDigest)

def takePending
    (token : PromptToken) : Outcome PendingRecord :=
  let suppliedLookup := m.sha256 (tokenLookupInput s.instanceSecret token)
  let ownLookup := s.pendingByConnection.lookup connection
  if ownLookup ≠ some expectedLookup ∨ ¬ constantTimeEq suppliedLookup expectedLookup then
    match ownLookup with
    | some own => (.error .invalid, (removePending s connection own).2)
    | none => (.error .invalid, s)
  else
    match removePending s connection expectedLookup with
    | (none, s) => (.error .invalid, s)
    | (some record, s) => (.ok record, s)

structure CommitClaim where
  activeId : ℕ
  peerUid : UInt32
  target : CanonicalIdentity
  pamService : String
  origin : PromptOriginV1
  snapshot : SecuritySnapshot
deriving DecidableEq

def expiryOk (record : PendingRecord) (now : Instant) : Bool := record.expiresAt.any fun expiry => now < expiry

def claimCommit
    (token : PromptToken) (nonce : PromptNonce) (peerUid targetUid : UInt32) (now : Instant) :
    Outcome (CommitClaim × ActiveControl) :=
  match takePending m s connection expectedLookup token with
  | (.error e, s) => (.error e, s)
  | (.ok record, s) =>
    let nonceBinding := m.sha256 (nonceInput s.instanceSecret nonce)
    if record.connectionBinding ≠ connection ∨ record.peerUid ≠ peerUid ∨ record.target.uid ≠ targetUid ∨
        ¬ constantTimeEq record.nonceBinding nonceBinding ∨ ¬ expiryOk record now then (.error .invalid, s)
    else if m.maxActive ≤ size s.active then (.error .unavailable, s)
    else if 2 ^ 64 ≤ s.nextActive + 1 then (.error .unavailable, s)
    else
      let activeId := s.nextActive
      let s := { s with nextActive := activeId + 1 }
      match m.checkedAdd now m.activeTimeout, m.checkedAdd now m.commitToCameraTimeout with
      | some deadline, some cameraReady =>
        (.ok (⟨activeId, record.peerUid, record.target, record.pamService, record.origin, record.snapshot⟩,
            ⟨false, deadline, min cameraReady deadline⟩),
          { s with active := s.active.insert activeId (.claim expectedLookup) })
      | _, _ => (.error .unavailable, s)

def cancelPending
    (token : PromptToken) (nonce : PromptNonce) (peerUid targetUid : UInt32) (now : Instant) : Outcome Unit :=
  match takePending m s connection expectedLookup token with
  | (.error e, s) => (.error e, s)
  | (.ok record, s) =>
    let nonceBinding := m.sha256 (nonceInput s.instanceSecret nonce)
    if record.peerUid = peerUid ∧ record.target.uid = targetUid ∧
        constantTimeEq record.nonceBinding nonceBinding ∧ expiryOk record now then (.ok (), s)
    else (.error .invalid, s)

end

end

end

def promoteClaim (s : ManagerState) (control : Option ActiveControl) (expected : CommitClaim)
    (binding : CommitBinding) (now : Instant) : Outcome Unit :=
  let liveClaim := match s.active.lookup expected.activeId, control with
    | some (.claim _), some control => !control.cancelled && decide (now < control.deadline)
    | _, _ => false
  let valid := liveClaim && expected.peerUid == binding.peerUid && decide (expected.target = binding.target) &&
    expected.pamService == binding.pamService && decide (expected.origin = binding.origin) &&
    expected.snapshot.constantTimeEq binding.snapshot
  if ¬ valid then (.error .invalid, { s with active := s.active.erase expected.activeId })
  else
    match s.active.lookup expected.activeId with
    | some (.claim lookup) => (.ok (), { s with active := s.active.insert expected.activeId (.active lookup) })
    | _ => (.error .invalid, s)

structure FailClosedCleanup where
  controls : List ℕ
  shutdownWakers : List ℕ

def failClosedLocked (s : ManagerState) : FailClosedCleanup × ManagerState :=
  (⟨s.active.keys, (values s.pending).filterMap PendingRecord.shutdownWaker⟩,
    { s with terminal := true, provisional := ∅, pending := ∅, pendingByConnection := ∅, active := ∅ })

end Howy.Prompt
