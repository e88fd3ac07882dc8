import Howy.Prompt.Leases
import Howy.Prompt.Tokens

namespace Howy.Prompt.SingleUse

open Library Storage Leases

inductive Presents (h : ℕ) (token : PromptToken) (nonce : PromptNonce) (p q : UInt32) (now : Instant) :
    Event → Prop where
  | claimCommit : Presents h token nonce p q now (.claimCommit h token nonce p q now)
  | cancel : Presents h token nonce p q now (.cancel h token nonce p q now)

def Accepted : Response → Prop
  | .claimed _ _ | .cancelled => True
  | _ => False

variable {m : ManagerInner} {secret : InstanceSecret} {w w' : World} {e : Event} {r : Response}
  {past : List (Event × Response)} {h : ℕ} {token : PromptToken} {nonce : PromptNonce}
  {p q : UInt32} {now : Instant}
  {events : List Event}

lemma accepted_inv (hh : Happened m w e w' r) (hp : Presents h token nonce p q now e) (hr : Accepted r) :
    ∃ c l t x, w.handles.lookup h = some (.issue c l t) ∧ ClaimChecked m w.state c l token nonce p q now x ∧
      tokenLookupInput w.state.instanceSecret token ∈ w'.hashed ∧
      nonceInput w.state.instanceSecret nonce ∈ w'.hashed := by
  cases hh with
  | quiet hf hhandles hq =>
    cases r <;> first | exact hr.elim | exact hq.elim
  | issued ht hx hc hfresh hk hpend | activated ht hx hl hk hpend hd ha hq => cases hp
  | claimed ht hx hc hk hpend =>
    cases hp
    exact ⟨_, _, _, _, hx, hc, List.mem_append_right _ (by simp), List.mem_append_right _ (by simp)⟩
  | cancelled ht hx hc hk hpend =>
    cases hp
    exact ⟨_, _, _, _, hx, hc, List.mem_append_right _ (by simp), List.mem_append_right _ (by simp)⟩

def AcceptedAs (m : ManagerInner) (secret : InstanceSecret) (w : World) (past : List (Event × Response)) (h : ℕ)
    (token : PromptToken) (nonce : PromptNonce) (p q : UInt32) (now : Instant) : Prop :=
  ∃ before h₀ b later, past = before ++ (.issue h₀ b, .issued h token) :: later ∧
    nonce = b.clientNonce ∧ p = b.peerUid ∧ q = b.target.uid ∧ Activated h later ∧
    ∃ l x expiry, w.handles.lookup h = some (.issue (connectionBinding m.sha256 secret b.connection) l token) ∧
      w.state.pending.lookup l = some x ∧ x.expiresAt = some expiry ∧ ExpiresAt m h expiry later ∧ now < expiry

lemma acceptedAs_of_happened (hw : Tracked m secret w past) (hh : Happened m w e w' r)
    (hp : Presents h token nonce p q now e) (hr : Accepted r) (hfree : CollisionFree m.sha256 w'.hashed) :
    AcceptedAs m secret w past h token nonce p q now := by
  obtain ⟨c, l, t, x, hx, hc, htoken, hnonce⟩ := accepted_inv hh hp hr
  obtain ⟨before, h₀, b, later, hpast, hissue⟩ := hw.issues h c l t hx
  have hsecret := hw.sameSecret
  subst hsecret
  obtain rfl : token = t := presented_eq hissue hc hfree hh.hashed htoken
  obtain ⟨expiry, hexpiry, hnow⟩ := hc.expiry
  have hrec := hissue.record x hc.lookup
  obtain ⟨hact, hexp⟩ := hissue.activated x expiry hc.lookup hexpiry
  have hsame : nonce = b.clientNonce :=
    nonceInput_injective (hfree _ hnonce _ (hh.hashed hissue.nonce_hashed) (hc.nonce.symm.trans hrec.nonce))
  refine ⟨before, h₀, b, later, hpast, hsame, hc.peerUid.symm.trans hrec.peerUid, ?_, hact, l, x, expiry, ?_,
    hc.lookup, hexpiry, hexp, hnow⟩
  · rw [← hc.targetUid, hrec.target]
  · rw [← hissue.connection]
    exact hx

lemma not_terminal_of_step (hi : Invariant m w) (ht : (step m w e).1.state.terminal = false) :
    w.state.terminal = false := by
  cases hw : w.state.terminal with
  | false => rfl
  | true =>
    rw [(stepped hi e).follows.closed hw, hw] at ht
    cases ht

variable {c l : BindingDigest} {t : PromptToken}

lemma lookup_presented (hi : Invariant m w) (hp : Presents h token nonce p q now e)
    (hx : w.handles.lookup h = some (.issue c l t)) : (step m w e).1.handles.lookup h = none := by
  have hne := Nat.ne_of_lt (hi.fresh h _ hx)
  have herase : (w.handles.erase h).lookup h = none := AList.lookup_erase _ _
  cases hp with
  | claimCommit =>
    simp only [step, stepClaim, hx]
    generalize hv : noteHashed (consume w h) _ = v
    have hh := handles_locked v fun s => claimCommit m s c l token nonce p q now
    have hn := nextHandle_locked v fun s => claimCommit m s c l token nonce p q now
    subst hv
    generalize (locked _ fun s => claimCommit m s c l token nonce p q now) = r at hh hn
    obtain ⟨r, w'⟩ := r
    cases r with
    | ok x =>
      simp only [addHandle, lookup_insert_eq] at hh hn ⊢
      have hn' : w'.nextHandle = w.nextHandle := hn
      rw [hn', if_neg hne, hh]
      exact herase
    | error x =>
      rw [hh]
      exact herase
  | cancel =>
    simp only [step, stepCancel, hx]
    generalize hv : noteHashed (consume w h) _ = v
    have hh := handles_locked v fun s => cancelPending m s c l token nonce p q now
    subst hv
    generalize (locked _ fun s => cancelPending m s c l token nonce p q now) = r at hh
    obtain ⟨r, w'⟩ := r
    cases r with
    | ok x | error x => exact hh ▸ herase

lemma issue_of_presented (hh : Happened m w e w' r) (hp : Presents h token nonce p q now e) {k : ℕ}
    (hx : w'.handles.lookup k = some (.issue c l t)) : w.handles.lookup k = some (.issue c l t) := by
  rcases issue_of_happened hh hx with hold | ⟨-, -, h₀, b, rfl, -⟩
  · exact hold
  · cases hp

lemma consumed_of_presents (hi : Invariant m w) (hp : Presents h token nonce p q now e)
    (hx : w.handles.lookup h = some (.issue c l t)) : (step m w e).1.state.pendingByConnection.lookup c = none ∧
      ∀ k x, (step m w e).1.state.pending.lookup k = some x → x.connectionBinding ≠ c := by
  have hi' := invariant_step hi e
  have hgone : ∀ k x, (step m w e).1.state.pending.lookup k = some x → x.connectionBinding ≠ c := by
    intro k x hk hc
    cases ht' : (step m w e).1.state.terminal with
    | true =>
      rw [(hi'.closed ht').pending] at hk
      cases hk
    | false =>
      have ht := not_terminal_of_step hi ht'
      obtain ⟨h', y, hy, hslot⟩ := (hi'.owned ht').owner (.pending c k) ⟨x, hk, hc⟩
      cases y with
      | issue c' l' t' =>
        cases hslot
        have hold := issue_of_presented (happened_step hi e) hp hy
        have hl := lookup_of_issue_handle hi ht hx
        rw [lookup_of_issue_handle hi ht hold, Option.some.injEq] at hl
        subst hl
        obtain rfl := issue_handle_unique hi ht hold hx
        rw [lookup_presented hi hp hx] at hy
        cases hy
      | reservation c' | claim c' | lease id => cases hslot
  refine ⟨?_, hgone⟩
  cases hl : (step m w e).1.state.pendingByConnection.lookup c with
  | none => rfl
  | some k =>
    obtain ⟨x, hk, hc⟩ := (hi'.sound.bijection c k).mp hl
    exact (hgone k x hk hc).elim

def PromotedAs (w : World) (past : List (Event × Response)) (h id : ℕ) (binding : CommitBinding)
    (now : Instant) : Prop :=
  ∃ before h₁ token nonce p q t later,
    past = before ++ (.claimCommit h₁ token nonce p q t, .claimed h id) :: later ∧
    (∀ r, (Event.drop h, r) ∉ later) ∧ (∀ r, (Event.cancelActive id, r) ∉ later) ∧
    (∃ c, w.controls.lookup id = some c ∧ c.cancelled = false ∧ now < c.deadline) ∧
    ∃ h₀ b, (.issue h₀ b, .issued h₁ token) ∈ before ∧ binding.peerUid = b.peerUid ∧ binding.target = b.target ∧
      binding.pamService = b.pamService ∧ binding.origin = b.origin ∧ binding.snapshot = b.snapshot

lemma promotedAs_of_step (hw : Tracked m secret w past) {binding : CommitBinding} {k id : ℕ}
    (hr : (step m w (.promote h binding now)).2 = .promoted k id) (hfree : CollisionFree m.sha256 w.hashed) :
    PromotedAs w past h id binding now := by
  obtain ⟨claim, s', hx, rfl, -, hc, -⟩ := promoted_inv hw.invariant hr
  obtain ⟨before, h₁, token, nonce, p, q, t, later, hpast, hu, h₀, b, t', hm, hb, htoken⟩ := hw.claims h claim hx
  obtain ⟨c, hcontrol, hcancelled, hdeadline⟩ := hc.control
  obtain rfl := htoken hfree
  exact ⟨before, h₁, token, nonce, p, q, t, later, hpast, hu.drop, hu.cancel c hcontrol hcancelled,
    ⟨c, hcontrol, hcancelled, hdeadline⟩, h₀, b, hm, hc.peerUid.symm.trans hb.peerUid,
    hc.target.symm.trans hb.target,
    hc.pamService.symm.trans hb.pamService, hc.origin.symm.trans hb.origin, hc.snapshot.symm.trans hb.snapshot⟩

lemma hashed_reached (hi : Invariant m w) : w.hashed ⊆ (reached m w events).hashed := by
  induction events generalizing w with
  | nil => exact fun _ hm => hm
  | cons e events ih => exact fun _ hm => ih (invariant_step hi e) ((happened_step hi e).hashed hm)

lemma tracked_of_split {entropy : Entropy} {counter : ℕ} {front back : List (Event × Response)}
    (hrun : answers m (initial entropy secret counter) events = front ++ (e, r) :: back)
    (hfree : CollisionFree m.sha256 (reached m (initial entropy secret counter) events).hashed) :
    let w := reached m (initial entropy secret counter) (front.map Prod.fst)
    Tracked m secret w front ∧ r = (step m w e).2 ∧ CollisionFree m.sha256 (step m w e).1.hashed := by
  intro w
  obtain ⟨hfront, hr, hevents⟩ := trace_split hrun
  have ht : Tracked m secret w front := by
    have := tracked_reached m entropy secret counter (front.map Prod.fst)
    rwa [answers, ← hfront] at this
  refine ⟨ht, hr, hfree.mono ?_⟩
  rw [hevents, reached, final_append]
  exact hashed_reached (invariant_step ht.invariant e)

theorem prompt_tokens_single_use_and_bound (m : ManagerInner) (entropy : Entropy) (secret : InstanceSecret)
    (counter : ℕ) (events : List Event)
    (hfree : CollisionFree m.sha256 (reached m (initial entropy secret counter) events).hashed) :
    let world :=
      fun front : List (Event × Response) => reached m (initial entropy secret counter) (front.map Prod.fst)
    let run := answers m (initial entropy secret counter) events
    ((issuedTokens run).Nodup ∧ (acceptedTokens run).Nodup ∧ acceptedTokens run ⊆ issuedTokens run) ∧
    (∀ front back e r h token nonce p q now, run = front ++ (e, r) :: back → Presents h token nonce p q now e →
      Accepted r → AcceptedAs m secret (world front) front h token nonce p q now) ∧
    (∀ front back h binding now k id, run = front ++ (.promote h binding now, .promoted k id) :: back →
      PromotedAs (world front) front h id binding now) ∧
    (∀ front back e r h token nonce p q now c l t, run = front ++ (e, r) :: back →
      Presents h token nonce p q now e → (world front).handles.lookup h = some (.issue c l t) →
      (world (front ++ [(e, r)])).state.pendingByConnection.lookup c = none ∧
        ∀ k x, (world (front ++ [(e, r)])).state.pending.lookup k = some x → x.connectionBinding ≠ c) := by
  intro world run
  have hspent := (tracked_reached m entropy secret counter events).spent hfree
  refine ⟨⟨hspent.issued, hspent.accepted, hspent.accepted_subset⟩, ?_, ?_, ?_⟩
  · intro front back e r h token nonce p q now hrun hp hr
    obtain ⟨ht, rfl, hcf⟩ := tracked_of_split hrun hfree
    exact acceptedAs_of_happened ht (happened_step ht.invariant e) hp hr hcf
  · intro front back h binding now k id hrun
    obtain ⟨ht, hr, hcf⟩ := tracked_of_split hrun hfree
    exact promotedAs_of_step ht hr.symm (hcf.mono (happened_step ht.invariant _).hashed)
  · intro front back e r h token nonce p q now c l t hrun hp hx
    obtain ⟨ht, -, -⟩ := tracked_of_split hrun hfree
    have hworld : world (front ++ [(e, r)]) = (step m (world front) e).1 := by
      simp only [world, List.map_append, List.map_cons, reached, final_append]
      rfl
    rw [hworld]
    exact consumed_of_presents ht.invariant hp hx

theorem prompt_tokens_single_use_and_bound_sample :
    let events := sampleClaimed ++ [.promote 2 sampleCommit 4]
    CollisionFree sampleManager.sha256 (reached sampleManager sampleStart events).hashed ∧
      acceptedTokens (answers sampleManager sampleStart events) = [FixedArray.filled 32 22] ∧
      PromotedAs (reached sampleManager sampleStart sampleClaimed)
        (answers sampleManager sampleStart sampleClaimed) 2 1 sampleCommit 4 := by
  have hfree : CollisionFree sampleManager.sha256
      (reached sampleManager sampleStart
        (sampleClaimed ++ [.promote 2 sampleCommit 4])).hashed := by decide +kernel
  have hrun : answers sampleManager sampleStart (sampleClaimed ++ [.promote 2 sampleCommit 4]) =
      answers sampleManager sampleStart sampleClaimed ++ [(.promote 2 sampleCommit 4, .promoted 3 1)] := by
    decide +kernel
  have hpromoted := (prompt_tokens_single_use_and_bound sampleManager _ _ 0 _ hfree).2.2.1 _ _ _ _ _ _ _ hrun
  exact ⟨hfree, by decide +kernel, hpromoted⟩

end Howy.Prompt.SingleUse
