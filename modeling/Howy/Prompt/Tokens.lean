import Howy.Prompt.Accounting
import Howy.Prompt.History

namespace Howy.Prompt

open Library Storage Accounting

def issuedToken : Event × Response → Option PromptToken
  | (_, .issued _ token) => some token
  | _ => none

def acceptedToken : Event × Response → Option PromptToken
  | (.claimCommit _ token _ _ _ _, .claimed _ _) => some token
  | (.cancel _ token _ _ _ _, .cancelled) => some token
  | _ => none

def issuedTokens (past : List (Event × Response)) : List PromptToken := past.filterMap issuedToken

def acceptedTokens (past : List (Event × Response)) : List PromptToken := past.filterMap acceptedToken

variable {m : ManagerInner} {secret : InstanceSecret} {w w' : World} {e : Event} {r : Response}
  {past : List (Event × Response)} {fresh : FreshToken} {h₀ : ℕ}

lemma issuedTokens_append (x : Event × Response) :
    issuedTokens (past ++ [x]) = issuedTokens past ++ (issuedToken x).toList := by
  rw [issuedTokens, issuedTokens, List.filterMap_append, List.filterMap_cons]
  cases issuedToken x <;> rfl

lemma acceptedTokens_append (x : Event × Response) :
    acceptedTokens (past ++ [x]) = acceptedTokens past ++ (acceptedToken x).toList := by
  rw [acceptedTokens, acceptedTokens, List.filterMap_append, List.filterMap_cons]
  cases acceptedToken x <;> rfl

lemma tokens_of_quiet (hr : Quiet r) : issuedToken (e, r) = none ∧ acceptedToken (e, r) = none := by
  cases r with
  | issued h t | claimed h id | activated d | cancelled => exact hr.elim
  | connection id | reserved h | promoted h id | done | refused x | noHandle => exact ⟨rfl, by cases e <;> rfl⟩

def Derived (m : ManagerInner) (secret : InstanceSecret) (w : World) (past : List (Event × Response)) : Prop :=
  ∀ t ∈ issuedTokens past, ∃ n random, n ≤ w.state.issuanceCounter ∧ n < 2 ^ 64 ∧
    deriveTokenInput secret n random ∈ w.hashed ∧ t = m.sha256 (deriveTokenInput secret n random)

structure Spent (w : World) (past : List (Event × Response)) : Prop where
  issued : (issuedTokens past).Nodup
  accepted : (acceptedTokens past).Nodup
  accepted_subset : acceptedTokens past ⊆ issuedTokens past
  live : ∀ h c l t, w.handles.lookup h = some (.issue c l t) → t ∈ issuedTokens past ∧ t ∉ acceptedTokens past

lemma derived_mono (hw : Derived m secret w past) (hc : w.state.issuanceCounter ≤ w'.state.issuanceCounter)
    (hh : w.hashed ⊆ w'.hashed) : Derived m secret w' past := by
  intro t ht
  obtain ⟨n, random, hn, hlt, hm, he⟩ := hw t ht
  exact ⟨n, random, hn.trans hc, hlt, hh hm, he⟩

variable {x : Event × Response}

lemma derived_same (hw : Derived m secret w' past) (hx : issuedToken x = none) :
    Derived m secret w' (past ++ [x]) := by
  intro t ht
  rw [issuedTokens_append, hx, Option.toList_none, List.append_nil] at ht
  exact hw t ht

lemma spent_same (hw : Spent w past) (hi : issuedToken x = none) (ha : acceptedToken x = none)
    (hh : ∀ h c l t, w'.handles.lookup h = some (.issue c l t) → w.handles.lookup h = some (.issue c l t)) :
    Spent w' (past ++ [x]) := by
  have hi' : issuedTokens (past ++ [x]) = issuedTokens past := by
    rw [issuedTokens_append, hi, Option.toList_none, List.append_nil]
  have ha' : acceptedTokens (past ++ [x]) = acceptedTokens past := by
    rw [acceptedTokens_append, ha, Option.toList_none, List.append_nil]
  refine ⟨hi' ▸ hw.issued, ha' ▸ hw.accepted, ?_, ?_⟩
  · rw [hi', ha']
    exact hw.accepted_subset
  · intro h c l t hx
    rw [hi', ha']
    exact hw.live h c l t (hh h c l t hx)

lemma spent_accept {c₀ l₀ : BindingDigest} {t₀ : PromptToken} (hw : Spent w past)
    (hi : Invariant m w) (ht : w.state.terminal = false) (hlogged : IssuesLogged m secret w past)
    (hx₀ : w.handles.lookup h₀ = some (.issue c₀ l₀ t₀)) (hissued : issuedToken x = none)
    (haccepted : acceptedToken x = some t₀) (hh : ∀ h c l t, w'.handles.lookup h = some (.issue c l t) →
      w.handles.lookup h = some (.issue c l t) ∧ h ≠ h₀) : Spent w' (past ++ [x]) := by
  have hi' : issuedTokens (past ++ [x]) = issuedTokens past := by
    rw [issuedTokens_append, hissued, Option.toList_none, List.append_nil]
  have ha' : acceptedTokens (past ++ [x]) = acceptedTokens past ++ [t₀] := by
    rw [acceptedTokens_append, haccepted, Option.toList_some]
  obtain ⟨hmem, hfresh⟩ := hw.live h₀ c₀ l₀ t₀ hx₀
  refine ⟨hi' ▸ hw.issued, ?_, ?_, ?_⟩
  · rw [ha']
    exact hw.accepted.append (List.nodup_singleton t₀) (by simpa using hfresh)
  · rw [hi', ha']
    exact List.append_subset.mpr ⟨hw.accepted_subset, List.cons_subset.mpr ⟨hmem, List.nil_subset _⟩⟩
  intro h c l t hx
  obtain ⟨hx, hne⟩ := hh h c l t hx
  obtain ⟨ht', hnot⟩ := hw.live h c l t hx
  rw [hi', ha']
  refine ⟨ht', fun hm => ?_⟩
  rcases List.mem_append.mp hm with hm | hm
  · exact hnot hm
  rw [List.mem_singleton] at hm
  subst hm
  obtain ⟨_, _, _, _, -, hissue⟩ := hlogged h c l t hx
  obtain ⟨_, _, _, _, -, hissue₀⟩ := hlogged h₀ c₀ l₀ t hx₀
  have hl := hissue.lookup.trans hissue₀.lookup.symm
  subst hl
  exact hne (issue_handle_unique hi ht hx hx₀)

lemma fresh_not_issued {s' : ManagerState} {inputs : List Bytes}
    (hd : Derived m w.state.instanceSecret w past) (hf : IsFresh m.sha256 w.state s' fresh)
    (hfree : CollisionFree m.sha256 inputs) (hs : w.hashed ⊆ inputs) (hin : fresh.input ∈ inputs) :
    fresh.token ∉ issuedTokens past := by
  intro ht
  obtain ⟨n, random, hn, hlt, hm, he⟩ := hd _ ht
  obtain ⟨random', hinput⟩ := hf.input_eq
  have heq : fresh.input = deriveTokenInput w.state.instanceSecret n random :=
    hfree _ hin _ (hs hm) (hf.token_eq.symm.trans he)
  have hcounter := counter_eq_of_deriveTokenInput_eq hf.counter_bound hlt (hinput.symm.trans heq)
  have hgrows := hf.counter_lt
  omega

lemma spent_issue {b : PendingBinding} {k : ℕ} (c₀ l₀ : BindingDigest)
    (hw : Spent w past) (hnew : fresh.token ∉ issuedTokens past)
    (hh : ∀ h c l t, w'.handles.lookup h = some (.issue c l t) →
      w.handles.lookup h = some (.issue c l t) ∨ Handle.issue c l t = .issue c₀ l₀ fresh.token) :
    Spent w' (past ++ [(.issue h₀ b, .issued k fresh.token)]) := by
  have hi' : issuedTokens (past ++ [(.issue h₀ b, .issued k fresh.token)]) = issuedTokens past ++
      [fresh.token] := by
    rw [issuedTokens_append]
    rfl
  have ha' : acceptedTokens (past ++ [(.issue h₀ b, .issued k fresh.token)]) = acceptedTokens past := by
    rw [acceptedTokens_append]
    exact List.append_nil _
  refine ⟨?_, ha' ▸ hw.accepted, ?_, ?_⟩
  · rw [hi']
    exact hw.issued.append (List.nodup_singleton _) (by simpa using hnew)
  · rw [hi', ha']
    exact fun t ht => List.mem_append_left _ (hw.accepted_subset ht)
  intro h c l t hx
  rw [hi', ha']
  rcases hh h c l t hx with hx | hx
  · exact (hw.live h c l t hx).imp_left (List.mem_append_left _)
  · cases hx
    exact ⟨List.mem_append_right _ (List.mem_singleton_self _), fun hm => hnew (hw.accepted_subset hm)⟩

lemma derived_step (hs : w.state.instanceSecret = secret) (hw : Derived m secret w past)
    (hh : Happened m w e w' r) : Derived m secret w' (past ++ [(e, r)]) := by
  subst hs
  have hmono := derived_mono hw hh.counter hh.hashed
  cases hh with
  | quiet hf hhandles hr => exact derived_same hmono (tokens_of_quiet hr).1
  | @issued h₀ c₀ b s' fresh ht hx₀ hc hfresh hk hp =>
    intro t ht
    rw [issuedTokens_append] at ht
    rcases List.mem_append.mp ht with ht | ht
    · exact hmono t ht
    rw [Option.mem_toList] at ht
    cases ht
    obtain ⟨random, hinput⟩ := hfresh.input_eq
    refine ⟨s'.issuanceCounter, random, le_rfl, hfresh.counter_bound, ?_, hinput ▸ hfresh.token_eq⟩
    rw [← hinput]
    exact List.mem_append_right _ List.mem_cons_self
  | activated ht hx₀ hl hk hp hd hr ha =>
    rcases ha with ⟨d', rfl⟩ | hq
    · exact derived_same hmono rfl
    · exact derived_same hmono (tokens_of_quiet hq).1
  | claimed ht hx₀ hc hk hp | cancelled ht hx₀ hc hk hp => exact derived_same hmono rfl

lemma spent_step (hi : Invariant m w) (hs : w.state.instanceSecret = secret)
    (hlogged : IssuesLogged m secret w past)
    (hd : Derived m secret w past) (hw : Spent w past) (hh : Happened m w e w' r)
    (hfree : CollisionFree m.sha256 w'.hashed) : Spent w' (past ++ [(e, r)]) := by
  subst hs
  have hsub := hh.hashed
  cases hh with
  | quiet hf hhandles hr =>
    refine spent_same hw (tokens_of_quiet hr).1 (tokens_of_quiet hr).2 fun h c l t hx => ?_
    exact (hhandles h _ hx).resolve_right id
  | @issued h₀ c₀ b s' fresh ht hx₀ hc hfresh hk hp =>
    have hnew := fresh_not_issued hd hfresh hfree hsub (List.mem_append_right _ List.mem_cons_self)
    refine spent_issue c₀ fresh.lookup hw hnew fun h c l t hx => ?_
    rcases lookup_of_insert hx with ⟨-, heq⟩ | ⟨-, hold⟩
    · exact .inr heq.symm
    · exact .inl (lookup_of_erase hold).1
  | activated ht hx₀ hl hk hp hd' hr ha =>
    rcases ha with ⟨d', rfl⟩ | hq
    · exact spent_same hw rfl rfl fun _ _ _ _ hx => hx
    · exact spent_same hw (tokens_of_quiet hq).1 (tokens_of_quiet hq).2 fun _ _ _ _ hx => hx
  | @claimed h₀ token nonce p q now c₀ l₀ t₀ s' r₀ control ht hx₀ hc hk hp =>
    obtain ⟨_, _, _, _, -, hissue⟩ := hlogged h₀ c₀ l₀ t₀ hx₀
    have htoken := presented_eq hissue hc hfree hsub (List.mem_append_right _ List.mem_cons_self)
    refine spent_accept hw hi ht hlogged hx₀ rfl (htoken ▸ rfl) fun h c l t hx => ?_
    rcases lookup_of_insert hx with ⟨-, heq⟩ | ⟨-, hold⟩
    · cases heq
    · exact lookup_of_erase hold
  | @cancelled h₀ token nonce p q now c₀ l₀ t₀ s' r₀ ht hx₀ hc hk hp =>
    obtain ⟨_, _, _, _, -, hissue⟩ := hlogged h₀ c₀ l₀ t₀ hx₀
    have htoken := presented_eq hissue hc hfree hsub (List.mem_append_right _ List.mem_cons_self)
    exact spent_accept hw hi ht hlogged hx₀ rfl (htoken ▸ rfl) fun h c l t hx => lookup_of_erase hx

structure Tracked (m : ManagerInner) (secret : InstanceSecret) (w : World)
    (past : List (Event × Response)) : Prop where
  invariant : Invariant m w
  sameSecret : w.state.instanceSecret = secret
  issues : IssuesLogged m secret w past
  claims : ClaimsLogged m w past
  derived : Derived m secret w past
  spent : CollisionFree m.sha256 w.hashed → Spent w past

lemma tracked_step (hw : Tracked m secret w past) (e : Event) :
    Tracked m secret (step m w e).1 (past ++ [(e, (step m w e).2)]) := by
  have hh := happened_step hw.invariant e
  refine ⟨invariant_step hw.invariant e, hh.secret.trans hw.sameSecret,
    issuesLogged_step hw.invariant hw.sameSecret hw.issues hh,
    claimsLogged_step hw.invariant hw.sameSecret hw.issues hw.claims, derived_step hw.sameSecret hw.derived hh,
    fun hfree => ?_⟩
  exact spent_step hw.invariant hw.sameSecret hw.issues hw.derived (hw.spent (hfree.mono hh.hashed)) hh hfree

lemma tracked_reached (m : ManagerInner) (entropy : Entropy) (secret : InstanceSecret) (counter : ℕ)
    (events : List Event) : Tracked m secret (reached m (initial entropy secret counter) events)
      (answers m (initial entropy secret counter) events) := by
  have hstep : ∀ w past e, Tracked m secret w past → Tracked m secret (step m w e).1
      (past ++ [(e, (step m w e).2)]) :=
    fun _ _ e hw => tracked_step hw e
  refine history_invariant hstep ?_ events
  have hnone : ∀ h x, (initial entropy secret counter).handles.lookup h ≠ some x := by
    intro h x hx
    cases hx
  exact {
    invariant := invariant_reachable m entropy secret counter []
    sameSecret := rfl
    issues := fun h c l t hx => (hnone h _ hx).elim
    claims := fun h claim hx => (hnone h _ hx).elim
    derived := fun t ht => absurd ht List.not_mem_nil
    spent := fun _ => ⟨List.nodup_nil, List.nodup_nil, List.nil_subset _, fun h c l t hx => (hnone h _ hx).elim⟩ }

end Howy.Prompt
