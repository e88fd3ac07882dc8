import Howy.Prompt.StepOutcomes

namespace Howy.Prompt

open Library Storage

structure Recorded (m : ManagerInner) (secret : InstanceSecret) (r : PendingRecord)
    (b : PendingBinding) : Prop where
  peerUid : r.peerUid = b.peerUid
  target : r.target = b.target
  nonce : r.nonceBinding = m.sha256 (nonceInput secret b.clientNonce)
  pamService : r.pamService = b.pamService
  origin : r.origin = b.origin
  snapshot : r.snapshot = b.snapshot

def Activated (h : ℕ) (past : List (Event × Response)) : Prop :=
  ∃ k now d, (Event.activate h k now, Response.activated d) ∈ past

def ExpiresAt (m : ManagerInner) (h : ℕ) (deadline : Instant) (past : List (Event × Response)) : Prop :=
  ∃ k now r, (Event.activate h k now, r) ∈ past ∧ m.checkedAdd now m.promptTimeout = some deadline

/-- The live issue handle `h` came from an issue with binding `b`, followed by `later`. -/
structure IssuedWith (m : ManagerInner) (secret : InstanceSecret) (w : World) (h : ℕ) (c l : BindingDigest)
    (t : PromptToken) (b : PendingBinding) (later : List (Event × Response)) : Prop where
  connection : c = connectionBinding m.sha256 secret b.connection
  lookup : l = m.sha256 (tokenLookupInput secret t)
  token_hashed : tokenLookupInput secret t ∈ w.hashed
  nonce_hashed : nonceInput secret b.clientNonce ∈ w.hashed
  record : ∀ r, w.state.pending.lookup l = some r → Recorded m secret r b
  activated : ∀ r d, w.state.pending.lookup l = some r → r.expiresAt = some d →
    Activated h later ∧ ExpiresAt m h d later

def IssuesLogged (m : ManagerInner) (secret : InstanceSecret) (w : World)
    (past : List (Event × Response)) : Prop :=
  ∀ h c l t, w.handles.lookup h = some (.issue c l t) → ∃ before h₀ b later,
    past = before ++ (.issue h₀ b, .issued h t) :: later ∧ IssuedWith m secret w h c l t b later

variable {m : ManagerInner} {secret : InstanceSecret} {w w' : World} {e : Event} {r : Response}
  {past : List (Event × Response)} {inputs : List Bytes} {b : PendingBinding} {x : PendingRecord} {h : ℕ}
  {c l : BindingDigest} {t : PromptToken}

lemma Activated.append (ha : Activated h past) (x : Event × Response) : Activated h (past ++ [x]) := by
  obtain ⟨k, now, d, hm⟩ := ha
  exact ⟨k, now, d, List.mem_append_left _ hm⟩

lemma ExpiresAt.append {d : Instant} (ha : ExpiresAt m h d past) (x : Event × Response) :
    ExpiresAt m h d (past ++ [x]) := by
  obtain ⟨k, now, r, hm, hd⟩ := ha
  exact ⟨k, now, r, List.mem_append_left _ hm, hd⟩

lemma IssuedWith.carry (hi : IssuedWith m secret w h c l t b past) (hh : w.hashed ⊆ w'.hashed)
    (hp : ∀ r, w'.state.pending.lookup l = some r → w.state.pending.lookup l = some r) (x : Event × Response) :
    IssuedWith m secret w' h c l t b (past ++ [x]) where
  connection := hi.connection
  lookup := hi.lookup
  token_hashed := hh hi.token_hashed
  nonce_hashed := hh hi.nonce_hashed
  record r hr := hi.record r (hp r hr)
  activated r d hr hd := (hi.activated r d (hp r hr) hd).imp (·.append x) (·.append x)

lemma logged_carry (hw : IssuesLogged m secret w past)
    (hx : w.handles.lookup h = some (.issue c l t)) (hh : w.hashed ⊆ w'.hashed)
    (hp : ∀ r, w'.state.pending.lookup l = some r → w.state.pending.lookup l = some r) {x : Event × Response} :
    ∃ before h₀ b later, past ++ [x] = before ++ (.issue h₀ b, .issued h t) :: later ∧
      IssuedWith m secret w' h c l t b later := by
  obtain ⟨before, h₀, b, later, rfl, hi⟩ := hw h c l t hx
  exact ⟨before, h₀, b, later ++ [x], by simp, hi.carry hh hp x⟩

lemma issue_handle_unique (hi : Invariant m w) (ht : w.state.terminal = false) {h' : ℕ}
    {c' : BindingDigest} {t' : PromptToken} (hx : w.handles.lookup h = some (.issue c l t))
    (hx' : w.handles.lookup h' = some (.issue c' l t')) : h = h' := by
  obtain ⟨r, hr, hc⟩ := (hi.owned ht).live h _ hx
  obtain ⟨r', hr', hc'⟩ := (hi.owned ht).live h' _ hx'
  rw [hr] at hr'
  cases hr'
  subst hc hc'
  exact (hi.owned ht).unique h h' _ _ hx hx' rfl

lemma pending_of_happened (hi : Invariant m w) (hh : Happened m w e w' r) (hone : ∀ waker now,
    e ≠ .activate h waker now) (hx : w.handles.lookup h = some (.issue c l t)) (hr :
    w'.state.pending.lookup l = some x) :
    w.state.pending.lookup l = some x := by
  cases hh with
  | quiet hf hhandles hq => exact hf.pending l x hr
  | issued ht hx' hc hfresh hk hp =>
    obtain ⟨r₀, hr₀, -⟩ := (hi.owned ht).live h _ hx
    rcases lookup_of_insert (hp ▸ hr) with ⟨rfl, -⟩ | ⟨-, hold⟩
    · cases hr₀.symm.trans hfresh.not_pending
    · exact hold
  | activated ht hx' hl hk hp hd hn ha =>
    rcases lookup_of_insert (hp ▸ hr) with ⟨rfl, -⟩ | ⟨-, hold⟩
    · exact absurd rfl (issue_handle_unique hi ht hx hx' ▸ hone _ _)
    · exact hold
  | claimed ht hx' hc hk hp | cancelled ht hx' hc hk hp => exact (lookup_of_erase (hp ▸ hr)).1

lemma issue_of_happened (hh : Happened m w e w' r) (hx : w'.handles.lookup h = some (.issue c l t)) :
    w.handles.lookup h = some (.issue c l t) ∨
    h = w.nextHandle ∧ w.state.pending.lookup l = none ∧ ∃ h₀ b, e = .issue h₀ b ∧ r = .issued h t ∧
      IssuedWith m w.state.instanceSecret w' h c l t b [] := by
  cases hh with
  | quiet hf hhandles hq => exact .inl ((hhandles h _ hx).resolve_right id)
  | @issued h₀ c₀ b s' fresh ht hx' hc hfresh hk hp =>
    rcases lookup_of_insert hx with ⟨hnew, heq⟩ | ⟨-, hold⟩
    · cases heq
      have hrecord : ∀ r, s'.pending.lookup fresh.lookup = some r →
          r = pendingOf m w.state.instanceSecret c b := by
        intro r hr
        rw [hp, AList.lookup_insert] at hr
        exact (Option.some.inj hr).symm
      refine .inr ⟨hnew, hfresh.not_pending, h₀, b, rfl, by rw [hnew]; rfl, hc, hfresh.lookup_eq, ?_, ?_, ?_, ?_⟩
      · exact List.mem_append_right _ (by simp [hk.instanceSecret])
      · exact List.mem_append_right _ (by simp [hk.instanceSecret])
      · intro r hr
        rw [hrecord r hr]
        exact ⟨rfl, rfl, rfl, rfl, rfl, rfl⟩
      · intro r d hr hd
        rw [hrecord r hr] at hd
        cases hd
    · exact .inl (lookup_of_erase hold).1
  | activated ht hx' hl hk hp hd hn ha => exact .inl hx
  | claimed ht hx' hc hk hp =>
    rcases lookup_of_insert hx with ⟨-, heq⟩ | ⟨-, hold⟩
    · cases heq
    · exact .inl (lookup_of_erase hold).1
  | cancelled ht hx' hc hk hp => exact .inl (lookup_of_erase hx).1

theorem issuesLogged_step (hi : Invariant m w) (hs : w.state.instanceSecret = secret)
    (hw : IssuesLogged m secret w past) (hh : Happened m w e w' r) :
    IssuesLogged m secret w' (past ++ [(e, r)]) := by
  subst hs
  intro h c l t hx
  rcases issue_of_happened hh hx with hold | ⟨-, -, h₀, b, rfl, rfl, hissued⟩
  · by_cases hact : ∃ waker now, e = .activate h waker now
    · obtain ⟨waker, now, rfl⟩ := hact
      cases hh with
      | quiet hf hhandles hr => exact logged_carry hw hold hf.hashed (hf.pending l)
      | @activated _ _ _ c₀ l₀ t₀ s' r₀ d k' a ht hx₀ hl hk hp hd hr ha =>
        cases hold.symm.trans hx₀
        obtain ⟨before, h₁, b, later, rfl, hi'⟩ := hw h c l t hold
        refine ⟨before, h₁, b, later ++ [(.activate h waker now, r)], by simp, hi'.connection, hi'.lookup,
          hi'.token_hashed, hi'.nonce_hashed, ?_, ?_⟩
        · intro r' hr'
          rcases lookup_of_insert (hp ▸ hr') with ⟨-, rfl⟩ | ⟨hne, -⟩
          · obtain ⟨h1, h2, h3, h4, h5, h6⟩ := hi'.record r₀ hl
            exact ⟨h1, h2, h3, h4, h5, h6⟩
          · exact absurd rfl hne
        · intro r' d' hr' hd'
          rcases lookup_of_insert (hp ▸ hr') with ⟨-, rfl⟩ | ⟨hne, -⟩
          · cases hd'
            refine ⟨?_, waker, now, r, by simp, hd⟩
            cases hd₀ : r₀.expiresAt with
            | none =>
              obtain ⟨d'', rfl⟩ := hr hd₀
              exact ⟨waker, now, d'', by simp⟩
            | some d₀ => exact (hi'.activated r₀ d₀ hl hd₀).1.append _
          · exact absurd rfl hne
    · simp only [not_exists] at hact
      exact logged_carry hw hold hh.hashed (fun r' hr' => pending_of_happened hi hh hact hold hr')
  · exact ⟨past, h₀, b, [], rfl, hissued⟩

structure Carries (claim : CommitClaim) (b : PendingBinding) : Prop where
  peerUid : claim.peerUid = b.peerUid
  target : claim.target = b.target
  pamService : claim.pamService = b.pamService
  origin : claim.origin = b.origin
  snapshot : claim.snapshot = b.snapshot

structure Undisturbed (w : World) (h id : ℕ) (later : List (Event × Response)) : Prop where
  drop : ∀ r, (Event.drop h, r) ∉ later
  cancel : ∀ c, w.controls.lookup id = some c → c.cancelled = false → ∀ r, (Event.cancelActive id, r) ∉ later

def CollisionFree (sha256 : Sha256) (inputs : List Bytes) : Prop :=
  ∀ a ∈ inputs, ∀ b ∈ inputs, sha256 a = sha256 b → a = b

instance (sha256 : Sha256) (inputs : List Bytes) : Decidable (CollisionFree sha256 inputs) :=
  inferInstanceAs (Decidable (∀ a ∈ inputs, ∀ b ∈ inputs, sha256 a = sha256 b → a = b))

lemma CollisionFree.mono {sha256 : Sha256} {inputs' : List Bytes} (h : CollisionFree sha256 inputs')
    (hs : inputs ⊆ inputs') : CollisionFree sha256 inputs := fun a ha b hb => h a (hs ha) b (hs hb)

lemma presented_eq {token : PromptToken} {nonce : PromptNonce} {p q : UInt32} {now : Instant}
    (hi : IssuedWith m w.state.instanceSecret w h c l t b past)
    (hc : ClaimChecked m w.state c l token nonce p q now x) (hfree : CollisionFree m.sha256 inputs)
    (hs : w.hashed ⊆ inputs) (htoken : tokenLookupInput w.state.instanceSecret token ∈ inputs) : token = t :=
  tokenLookupInput_injective
    (hfree _ htoken _ (hs hi.token_hashed) (hc.token.trans hi.lookup))

def ClaimsLogged (m : ManagerInner) (w : World) (past : List (Event × Response)) : Prop :=
  ∀ h claim, w.handles.lookup h = some (.claim claim) →
    ∃ before h₁ token nonce p q now later,
      past = before ++ (.claimCommit h₁ token nonce p q now, .claimed h claim.activeId) :: later ∧
      Undisturbed w h claim.activeId later ∧
      ∃ h₀ b t, (.issue h₀ b, .issued h₁ t) ∈ before ∧ Carries claim b ∧
      (CollisionFree m.sha256 w.hashed → token = t)

lemma lookup_drop (m : ManagerInner) (w : World) (h : ℕ) : (step m w (.drop h)).1.handles.lookup h = none := by
  rw [step]
  split
  · rw [handles_dropHandle]
    exact AList.lookup_erase _ _
  · assumption

lemma cancelled_cancelActive {id : ℕ} {c : ActiveControl}
    (hc : (step m w (.cancelActive id)).1.controls.lookup id = some c) : c.cancelled := by
  simp only [step, lookup_cancelControl] at hc
  obtain ⟨c', -, rfl⟩ := Option.map_eq_some_iff.mp hc
  rfl

lemma claims_carry (hw : ClaimsLogged m w past) (hs : w.hashed ⊆ w'.hashed) {claim : CommitClaim}
    (hx : w.handles.lookup h = some (.claim claim)) (hd : e ≠ .drop h)
    (hc : ∀ c, w'.controls.lookup claim.activeId = some c → c.cancelled = false →
      w.controls.lookup claim.activeId = some c ∧ e ≠ .cancelActive claim.activeId) :
    ∃ before h₁ token nonce p q now later,
      past ++ [(e, r)] = before ++ (.claimCommit h₁ token nonce p q now, .claimed h claim.activeId) :: later ∧
      Undisturbed w' h claim.activeId later ∧
      ∃ h₀ b t, (.issue h₀ b, .issued h₁ t) ∈ before ∧ Carries claim b ∧
      (CollisionFree m.sha256 w'.hashed → token = t) := by
  obtain ⟨before, h₁, token, nonce, p, q, now, later, rfl, hu, h₀, b, t, hm, hb, ht⟩ := hw h claim hx
  refine ⟨before, h₁, token, nonce, p, q, now, later ++ [(e, r)], by simp,
    ⟨fun x hm => ?_, fun c hl hn x hm => ?_⟩, h₀, b, t, hm, hb, fun hfree => ht (hfree.mono hs)⟩
  · rcases List.mem_append.mp hm with hm | hm
    · exact hu.drop x hm
    · rw [List.mem_singleton, Prod.mk.injEq] at hm
      exact hd hm.1.symm
  · obtain ⟨hl', hne⟩ := hc c hl hn
    rcases List.mem_append.mp hm with hm | hm
    · exact hu.cancel c hl' hn x hm
    · rw [List.mem_singleton, Prod.mk.injEq] at hm
      exact hne hm.1.symm

theorem claimsLogged_step (hi : Invariant m w) (hs : w.state.instanceSecret = secret)
    (hissues : IssuesLogged m secret w past) (hw : ClaimsLogged m w past) {e : Event} :
    ClaimsLogged m (step m w e).1 (past ++ [(e, (step m w e).2)]) := by
  subst hs
  intro h claim hx
  have hdrop : e ≠ .drop h := by
    rintro rfl
    rw [lookup_drop] at hx
    cases hx
  have hcancel : ∀ c, (step m w e).1.controls.lookup claim.activeId = some c → c.cancelled = false →
      e ≠ .cancelActive claim.activeId := by
    rintro c hc hn rfl
    rw [cancelled_cancelActive hc] at hn
    cases hn
  have hh := happened_step hi e
  generalize (step m w e).1 = w', (step m w e).2 = r at hx hcancel hh ⊢
  cases hh with
  | quiet hf hhandles hr =>
    rcases hhandles h _ hx with hx | hx
    · exact claims_carry hw hf.hashed hx hdrop fun c hc hn => ⟨hf.controls _ c hc hn, hcancel c hc hn⟩
    · exact hx.elim
  | issued ht hx₀ hc hfresh hk hp =>
    rcases lookup_of_insert hx with ⟨-, heq⟩ | ⟨-, hold⟩
    · cases heq
    · exact claims_carry hw (fun _ hm => List.mem_append_left _ hm) (lookup_of_erase hold).1 hdrop fun c hc hn =>
        ⟨hc, hcancel c hc hn⟩
  | @activated h₀ k now c₀ l₀ t₀ s' r₀ d k' a ht hx₀ hl hk hp hd hr ha =>
    have hsub : w.hashed ⊆ ({ w with state := s' } : World).hashed := fun _ hm => hm
    exact claims_carry hw hsub hx hdrop fun c hc hn => ⟨hc, hcancel c hc hn⟩
  | cancelled ht hx₀ hc hk hp =>
    exact claims_carry hw (fun _ hm => List.mem_append_left _ hm) (lookup_of_erase hx).1 hdrop fun c hc hn =>
      ⟨hc, hcancel c hc hn⟩
  | @claimed h₁ token nonce p q now c l t s' r₀ control ht hx₁ hc hk hp =>
    rcases lookup_of_insert hx with ⟨hnew, heq⟩ | ⟨-, hold⟩
    · cases heq
      obtain ⟨before, h₀, b, later, rfl, hissue⟩ := hissues h₁ c l t hx₁
      obtain ⟨h1, h2, -, h4, h5, h6⟩ := hissue.record r₀ hc.lookup
      refine ⟨before ++ (.issue h₀ b, .issued h₁ t) :: later, h₁, token, nonce, p, q, now, [], by rw [hnew]; rfl,
        ⟨fun _ => List.not_mem_nil, fun _ _ _ _ => List.not_mem_nil⟩, h₀, b, t, by simp, ⟨h1, h2, h4, h5, h6⟩,
        fun hfree => ?_⟩
      exact presented_eq hissue hc hfree (fun _ hm => List.mem_append_left _ hm)
        (List.mem_append_right _ (by simp))
    · have hold := (lookup_of_erase hold).1
      obtain ⟨k, hk⟩ := (hi.owned ht).live h _ hold
      have hne : claim.activeId ≠ w.state.nextActive := Nat.ne_of_lt (hi.sound.active_lt _ _ hk)
      refine claims_carry hw (fun _ hm => List.mem_append_left _ hm) hold hdrop fun d hd hn =>
        ⟨?_, hcancel d hd hn⟩
      simp only [addHandle, lookup_insert_eq, if_neg hne] at hd
      exact hd

end Howy.Prompt
