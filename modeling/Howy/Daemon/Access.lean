import Howy.Storage.Records

/-! The authorization of daemon requests: which peers may run which operation on whose enrollment. -/

namespace Howy.Daemon.Access

open Storage

structure CanonicalIdentity where
  username : String
  uid : UInt32
deriving DecidableEq

inductive IdentityLookupError where
  | system (errno : Int)
  | invalidRecord
  | bufferLimit
deriving DecidableEq

abbrev IdentityResolver (σ : Type) := String → σ → Except IdentityLookupError (Option CanonicalIdentity) × σ

inductive ConnectionPhase where
  | initial
  | pendingAuth (peerUid : UInt32) (target : CanonicalIdentity)
  | finished
deriving DecidableEq

structure AuthorizationContext where
  peerUid : UInt32
  confirmationRequired : Bool
  connectionPhase : ConnectionPhase
deriving DecidableEq

inductive Operation where
  | ping
  | publicInfo
  | authenticate (target : String)
  | beginAuth (target : String)
  | commitAuth
  | cancelAuth
  | enrollmentPresence (target : String)
  | checkCredential (target : String)
  | revokeCredential (target : String)
  | enroll (target : String)
  | enrollBatch (target : String)
  | detect
  | listEnrollments (target : String)
  | removeEnrollment (target : String)
  | clearEnrollments (target : String)
  | securityInfo
  | reload
  | shutdown
  | unknown
  | wrongPhase
deriving DecidableEq

def Operation.target : Operation → Option String
  | authenticate target | beginAuth target | enrollmentPresence target | checkCredential target
  | revokeCredential target | enroll target | enrollBatch target | listEnrollments target
  | removeEnrollment target | clearEnrollments target => some target
  | ping | publicInfo | commitAuth | cancelAuth | detect | securityInfo | reload | shutdown | unknown
  | wrongPhase => none

inductive DenialReason where
  | invalidTarget
  | unknownTarget
  | nonCanonicalTarget
  | identityLookupFailed
  | permissionDenied
  | confirmationRequired
  | wrongPhase
  | unknownOperation
deriving DecidableEq

structure Authorization where
  canonicalTarget : Option CanonicalIdentity
deriving DecidableEq

inductive Decision where
  | allow (authorization : Authorization)
  | deny (reason : DenialReason)
deriving DecidableEq

def validateUsername (username : String) : Bool := isCanonicalUsername username

variable {σ : Type} (resolve : IdentityResolver σ)

def canonicalAnswer (requested : String) : Except IdentityLookupError (Option CanonicalIdentity) →
    Except DenialReason CanonicalIdentity
  | .error _ => .error .identityLookupFailed
  | .ok none => .error .unknownTarget
  | .ok (some resolved) =>
    if ¬ validateUsername resolved.username ∨ requested ≠ resolved.username then .error .nonCanonicalTarget
    else .ok resolved

def resolveCanonicalTarget (requested : String) (s : σ) : Except DenialReason CanonicalIdentity × σ :=
  if validateUsername requested then (canonicalAnswer requested (resolve requested s).1, (resolve requested s).2)
  else (.error .invalidTarget, s)

def peerMayTarget (peerUid : UInt32) (target : CanonicalIdentity) : Bool := peerUid == 0 || peerUid == target.uid

def connectionIsBound (context : AuthorizationContext) (target : CanonicalIdentity) : Bool :=
  match context.connectionPhase with
  | .pendingAuth peerUid pendingTarget => peerUid == context.peerUid && pendingTarget == target
  | _ => false

def requestedTarget (operation : Operation) (context : AuthorizationContext) :
    Except DenialReason (Option String) :=
  match operation with
  | .commitAuth | .cancelAuth =>
    match context.connectionPhase with
    | .pendingAuth _ target => .ok (some target.username)
    | .initial | .finished => .error .wrongPhase
  | _ => .ok operation.target

def permitted (operation : Operation) (context : AuthorizationContext) (target : Option CanonicalIdentity) :
    Except DenialReason Bool :=
  match operation with
  | .ping | .publicInfo => .ok true
  | .authenticate _ =>
    if context.confirmationRequired then .error .confirmationRequired
    else .ok (target.any (peerMayTarget context.peerUid))
  | .beginAuth _ =>
    if ¬ context.confirmationRequired then .error .wrongPhase
    else .ok (target.any (peerMayTarget context.peerUid))
  | .enrollmentPresence _ | .checkCredential _ | .revokeCredential _ =>
    .ok (target.any (peerMayTarget context.peerUid))
  | .commitAuth | .cancelAuth =>
    if ¬ context.confirmationRequired then .error .wrongPhase
    else .ok (target.any fun target => peerMayTarget context.peerUid target && connectionIsBound context target)
  | .enroll _ | .enrollBatch _ | .listEnrollments _ | .removeEnrollment _ | .clearEnrollments _ =>
    .ok (context.peerUid == 0 && target.isSome)
  | .detect | .securityInfo | .reload | .shutdown => .ok (context.peerUid == 0)
  | .unknown | .wrongPhase => .ok false

def applyPolicy (operation : Operation) (context : AuthorizationContext)
    (canonicalTarget : Option CanonicalIdentity) : Decision :=
  match permitted operation context canonicalTarget with
  | .error reason => .deny reason
  | .ok true => .allow ⟨canonicalTarget⟩
  | .ok false =>
    if operation = .commitAuth ∨ operation = .cancelAuth then .deny .wrongPhase else .deny .permissionDenied

def authorize (operation : Operation) (context : AuthorizationContext) (s : σ) : Decision × σ :=
  if operation = .unknown then (.deny .unknownOperation, s)
  else if operation = .wrongPhase then (.deny .wrongPhase, s)
  else match requestedTarget operation context with
    | .error reason => (.deny reason, s)
    | .ok none => (applyPolicy operation context none, s)
    | .ok (some target) =>
      match resolveCanonicalTarget resolve target s with
      | (.error reason, s) => (.deny reason, s)
      | (.ok identity, s) => (applyPolicy operation context (some identity), s)

def Operation.Administrative : Operation → Prop
  | enroll _ | enrollBatch _ | listEnrollments _ | removeEnrollment _ | clearEnrollments _
  | detect | securityInfo | reload | shutdown => True
  | _ => False

variable {target : Option CanonicalIdentity} {operation : Operation} {context : AuthorizationContext}
  {authorization : Authorization} {s s' : σ}

lemma resolveCanonicalTarget_eq_ok {requested : String} {identity : CanonicalIdentity} :
    resolveCanonicalTarget resolve requested s = (.ok identity, s') ↔
      validateUsername requested ∧ resolve requested s = (.ok (some identity), s') ∧
        identity.username = requested := by
  rw [resolveCanonicalTarget]
  by_cases hv : validateUsername requested
  · rw [if_pos hv]
    rcases resolve requested s with ⟨answer, t⟩
    rcases answer with e | _ | resolved
    · simp [canonicalAnswer]
    · simp [canonicalAnswer]
    simp only [canonicalAnswer, Prod.mk.injEq, Except.ok.injEq, Option.some.injEq]
    split
    next hbad =>
      simp only [reduceCtorEq, false_and, false_iff, not_and]
      rintro - ⟨rfl, -⟩ rfl
      exact hbad.elim (fun h => h hv) fun h => h rfl
    rename_i hgood
    simp only [not_or, not_not] at hgood
    constructor
    · rintro ⟨h, rfl⟩
      cases h
      exact ⟨hv, ⟨rfl, rfl⟩, hgood.2.symm⟩
    · rintro ⟨-, ⟨rfl, rfl⟩, -⟩
      exact ⟨rfl, rfl⟩
  · simp [hv]

lemma applyPolicy_eq_allow : applyPolicy operation context target = .allow authorization ↔
      permitted operation context target = .ok true ∧ authorization = ⟨target⟩ := by
  rw [applyPolicy]
  split
  next h =>
    simp [h]
  next h =>
    simp [h, eq_comm]
  next h =>
    split <;> simp [h]

lemma authorize_eq_allow (h : authorize resolve operation context s = (.allow authorization, s')) :
    ∃ requested, requestedTarget operation context = .ok requested ∧
      permitted operation context authorization.canonicalTarget = .ok true ∧
      ((requested = none ∧ authorization.canonicalTarget = none) ∨
        ∃ name identity, requested = some name ∧ authorization.canonicalTarget = some identity ∧
          resolve name s = (.ok (some identity), s') ∧ identity.username = name) := by
  rw [authorize] at h
  split at h
  · cases h
  split at h
  · cases h
  cases hr : requestedTarget operation context with
  | error reason =>
    rw [hr] at h
    cases h
  | ok requested =>
    rw [hr] at h
    refine ⟨requested, rfl, ?_⟩
    cases requested with
    | none =>
      obtain ⟨hp, rfl⟩ := applyPolicy_eq_allow.mp (Prod.mk.inj h).1
      exact ⟨hp, .inl ⟨rfl, rfl⟩⟩
    | some name =>
      dsimp only at h
      rcases hres : resolveCanonicalTarget resolve name s with ⟨answer, t⟩
      rw [hres] at h
      cases answer with
      | error reason => cases h
      | ok identity =>
        obtain ⟨hd, rfl⟩ := Prod.mk.inj h
        obtain ⟨hp, rfl⟩ := applyPolicy_eq_allow.mp hd
        obtain ⟨-, hresolve, hname⟩ := (resolveCanonicalTarget_eq_ok resolve).mp hres
        exact ⟨hp, .inr ⟨name, identity, rfl, rfl, hresolve, hname⟩⟩

lemma peer_of_permitted (h : permitted operation context target = .ok true) (hpeer : context.peerUid ≠ 0) :
    ¬ operation.Administrative ∧ (operation = .ping ∨ operation = .publicInfo ∨
      ∃ identity, target = some identity ∧ identity.uid = context.peerUid) := by
  have hzero := beq_eq_false_iff_ne.mpr hpeer
  have hany {p : CanonicalIdentity → Bool} (ht : target.any p) (hp : ∀ x, p x → x.uid = context.peerUid) :
      ∃ identity, target = some identity ∧ identity.uid = context.peerUid := by
    cases target with
    | none => cases ht
    | some identity => exact ⟨identity, rfl, hp identity ht⟩
  have hmay (x : CanonicalIdentity) (hx : peerMayTarget context.peerUid x) : x.uid = context.peerUid := by
    rw [peerMayTarget, hzero, Bool.false_or, beq_iff_eq] at hx
    exact hx.symm
  cases operation with
  | ping => exact ⟨id, .inl rfl⟩
  | publicInfo => exact ⟨id, .inr (.inl rfl)⟩
  | authenticate _ | beginAuth _ =>
    rw [permitted] at h
    split at h
    · cases h
    · exact ⟨id, .inr (.inr (hany (Except.ok.inj h) hmay))⟩
  | enrollmentPresence _ | checkCredential _ | revokeCredential _ =>
    exact ⟨id, .inr (.inr (hany (Except.ok.inj h) hmay))⟩
  | commitAuth | cancelAuth =>
    rw [permitted] at h
    split at h
    · cases h
    · exact ⟨id, .inr (.inr (hany (Except.ok.inj h) fun x hx => hmay x (Bool.and_eq_true_iff.mp hx).1))⟩
  | enroll _ | enrollBatch _ | listEnrollments _ | removeEnrollment _ | clearEnrollments _ | detect | securityInfo
  | reload | shutdown =>
    rw [permitted, hzero] at h
    cases h
  | unknown | wrongPhase => cases h

lemma bound_of_permitted (h : permitted operation context target = .ok true)
    (hop : operation = .commitAuth ∨ operation = .cancelAuth) :
    ∃ identity, target = some identity ∧ context.connectionPhase = .pendingAuth context.peerUid identity := by
  have hp : permitted .commitAuth context target = .ok true := by rcases hop with rfl | rfl <;> exact h
  rw [permitted] at hp
  split at hp
  · cases hp
  cases target with
  | none => cases hp
  | some identity =>
    refine ⟨identity, rfl, ?_⟩
    have hb := (Bool.and_eq_true_iff.mp (Except.ok.inj hp)).2
    rw [connectionIsBound] at hb
    split at hb
    next pending hphase =>
      rw [Bool.and_eq_true, beq_iff_eq, beq_iff_eq] at hb
      rw [hphase, hb.1, hb.2]
    · cases hb

theorem authorization_sound (operation : Operation) (context : AuthorizationContext) (s s' : σ)
    (authorization : Authorization) (h : authorize resolve operation context s = (.allow authorization, s')) :
    (∀ name, operation.target = some name → ∃ identity, authorization.canonicalTarget = some identity ∧
      resolve name s = (.ok (some identity), s') ∧ identity.username = name) ∧
    (context.peerUid ≠ 0 → ¬ operation.Administrative ∧
      ∀ identity, authorization.canonicalTarget = some identity → identity.uid = context.peerUid) ∧
    (operation = .commitAuth ∨ operation = .cancelAuth → ∃ identity,
      authorization.canonicalTarget = some identity ∧
      context.connectionPhase = .pendingAuth context.peerUid identity ∧
      resolve identity.username s = (.ok (some identity), s')) ∧
    (context.confirmationRequired = true → ∀ name, operation ≠ .authenticate name) := by
  obtain ⟨requested, hreq, hp, htarget⟩ := authorize_eq_allow resolve h
  refine ⟨fun name hname => ?_, fun hpeer => ?_, fun hop => ?_, fun hconf name hop => ?_⟩
  · have hsome : requested = some name := by
      cases operation <;> cases hname <;> exact (Except.ok.inj hreq).symm
    rcases htarget with ⟨hnone, -⟩ | ⟨name', identity, hn, ht, hr, hu⟩
    · rw [hsome] at hnone
      cases hnone
    · rw [hsome, Option.some.injEq] at hn
      subst hn
      exact ⟨identity, ht, hr, hu⟩
  · obtain ⟨hadmin, hping | hinfo | ⟨identity, ht, hu⟩⟩ := peer_of_permitted hp hpeer
    · refine ⟨hadmin, fun identity hi => ?_⟩
      subst hping
      cases hreq
      rcases htarget with ⟨-, ht⟩ | ⟨_, _, hn, -⟩
      · rw [ht] at hi
        cases hi
      · cases hn
    · refine ⟨hadmin, fun identity hi => ?_⟩
      subst hinfo
      cases hreq
      rcases htarget with ⟨-, ht⟩ | ⟨_, _, hn, -⟩
      · rw [ht] at hi
        cases hi
      · cases hn
    · refine ⟨hadmin, fun identity' hi => ?_⟩
      rw [ht, Option.some.injEq] at hi
      exact hi ▸ hu
  · obtain ⟨identity, ht, hphase⟩ := bound_of_permitted hp hop
    refine ⟨identity, ht, hphase, ?_⟩
    rcases htarget with ⟨-, hnone⟩ | ⟨name, identity', -, ht', hr, hu⟩
    · rw [ht] at hnone
      cases hnone
    rw [ht, Option.some.injEq] at ht'
    subst ht'
    rw [hu]
    exact hr
  · subst hop
    rw [permitted, hconf] at hp
    cases hp

def renumbering : IdentityResolver UInt32 := fun name uid =>
  (.ok (if name = "alice" then some ⟨"alice", uid⟩ else none), uid + 1)

theorem authorization_sound_alice :
    ∃ s' authorization, authorize renumbering .commitAuth ⟨1000, true, .pendingAuth 1000 ⟨"alice", 1000⟩⟩ 1000 =
        (.allow authorization, s') ∧
      ∃ identity, authorization.canonicalTarget = some identity ∧
        ConnectionPhase.pendingAuth 1000 ⟨"alice", 1000⟩ = .pendingAuth 1000 identity ∧
        renumbering identity.username 1000 = (.ok (some identity), s') := by
  have hrun : authorize renumbering .commitAuth ⟨1000, true, .pendingAuth 1000 ⟨"alice", 1000⟩⟩ 1000 =
      (.allow ⟨some ⟨"alice", 1000⟩⟩, 1001) := by decide +kernel
  exact ⟨_, _, hrun, (authorization_sound renumbering _ _ _ _ _ hrun).2.2.1 (.inl rfl)⟩

end Howy.Daemon.Access
