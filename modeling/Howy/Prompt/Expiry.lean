import Howy.Prompt.SingleUse

namespace Howy.Prompt.Expiry

open Library Storage Leases SingleUse

variable {m : ManagerInner} {w : World} {e : Event} {h : ℕ} {c l : BindingDigest} {t : PromptToken}
  {T now : Instant} {events : List Event}

lemma activated_inv {waker : Option ℕ} (ha : (step m w (.activate h waker now)).2 = .activated T) :
    ∃ c l t r, (step m w (.activate h waker now)).1.handles.lookup h = some (.issue c l t) ∧
      (step m w (.activate h waker now)).1.state.pending.lookup l = some r ∧ r.expiresAt = some T := by
  simp only [step, stepActivate] at ha ⊢
  split at ha
  next c l t hx =>
    split at ha
    · cases ha
    rename_i deadline hd
    rcases locked_cases fun s => activatePending s c l deadline waker with ⟨-, hl⟩ | ⟨-, -, hl⟩ | ⟨-, -, hl⟩
    · rw [hl] at ha
      cases ha
    · rw [hl] at ha
      cases ha
    rw [hl] at ha ⊢
    unfold activatePending at ha ⊢
    split_ifs at ha ⊢ with hc
    · cases hr : w.state.pending.lookup l with
      | none => simp [hr] at ha
      | some r =>
        cases he : r.expiresAt with
        | some d => simp [hr, he] at ha
        | none =>
          simp only [hr, he, Option.isSome_none, Bool.false_eq_true] at ha ⊢
          cases ha
          exact ⟨c, l, t, _, hx, AList.lookup_insert _, rfl⟩
  · cases ha

structure Fixed (w : World) (h : ℕ) (l : BindingDigest) (T : Instant) : Prop where
  used : h < w.nextHandle
  record : ∀ c' l' t', w.handles.lookup h = some (.issue c' l' t') → w.state.terminal = false →
    l' = l ∧ ∃ r, w.state.pending.lookup l = some r ∧ r.expiresAt = some T

lemma fixed_step (hi : Invariant m w) (hone : ∀ waker now, e ≠ .activate h waker now) (hf : Fixed w h l T) :
    Fixed (step m w e).1 h l T where
  used := hf.used.trans_le (stepped hi e).follows.nextHandle
  record c' l' t' hx ht' := by
    have hi' := invariant_step hi e
    have ht := not_terminal_of_step hi ht'
    rcases issue_of_happened (happened_step hi e) hx with hold | ⟨hnew, -⟩
    · obtain ⟨rfl, r, hr, hT⟩ := hf.record c' l' t' hold ht
      obtain ⟨r', hr', -⟩ := (hi'.owned ht').live h _ hx
      have hsame := pending_of_happened hi (happened_step hi e) hone hold hr'
      rw [hr, Option.some.injEq] at hsame
      subst hsame
      exact ⟨rfl, r, hr', hT⟩
    · exact absurd hnew hf.used.ne

lemma held_step (hi : Invariant m w) (hx : w.handles.lookup h = some (.issue c l t))
    (hl : (step m w e).1.state.pending.lookup l ≠ none) :
    (step m w e).1.handles.lookup h = some (.issue c l t) := by
  have hi' := invariant_step hi e
  cases ht' : (step m w e).1.state.terminal with
  | true =>
    rw [(hi'.closed ht').pending] at hl
    exact (hl rfl).elim
  | false =>
    have ht := not_terminal_of_step hi ht'
    obtain ⟨r, hr⟩ := Option.ne_none_iff_exists'.mp hl
    obtain ⟨r₀, hr₀, -⟩ := (hi.owned ht).live h _ hx
    obtain ⟨k, y, hy, hslot⟩ := (hi'.owned ht').owner (.pending r.connectionBinding l) ⟨r, hr, rfl⟩
    cases y with
    | issue c' l' t' =>
      cases hslot
      rcases issue_of_happened (happened_step hi e) hy with hold | ⟨-, hnone, -⟩
      · obtain rfl := issue_handle_unique hi ht hx hold
        rw [hx] at hold
        cases hold
        exact hy
      · exact absurd (hr₀.symm.trans hnone) (by simp)
    | reservation c' | claim c' | lease id => cases hslot

def Remains (m : ManagerInner) (w : World) (l : BindingDigest) (events : List Event) : Prop :=
  ∀ seen, seen <+: events → (reached m w seen).state.pending.lookup l ≠ none

lemma reached_append (m : ManagerInner) (w : World) (seen : List Event) (e : Event) :
    reached m w (seen ++ [e]) = (step m (reached m w seen) e).1 := by
  rw [reached, final_append]
  rfl

section

variable (hi : Invariant m w)

include hi

lemma invariant_reached (events : List Event) : Invariant m (reached m w events) := by
  have hstep : ∀ w e, Invariant m w → Invariant m (step m w e).1 := fun _ e hw => invariant_step hw e
  exact final_invariant hstep hi events

lemma secret_reached (events : List Event) :
    (reached m w events).state.instanceSecret = w.state.instanceSecret := by
  induction events using List.reverseRecOn with
  | nil => rfl
  | append_singleton seen e ih =>
    rw [reached_append, (happened_step (invariant_reached hi seen) e).secret, ih]

lemma fixed_reached (hf : Fixed w h l T)
    (hone : ∀ waker now, Event.activate h waker now ∉ events) : Fixed (reached m w events) h l T := by
  induction events using List.reverseRecOn with
  | nil => exact hf
  | append_singleton seen e ih =>
    rw [reached_append]
    refine fixed_step (invariant_reached hi seen) (fun waker now he => hone waker now (by simp [he])) (ih ?_)
    exact fun waker now hm => hone waker now (List.mem_append_left _ hm)

lemma held_reached (hx : w.handles.lookup h = some (.issue c l t))
    (hl : Remains m w l events) : (reached m w events).handles.lookup h = some (.issue c l t) := by
  induction events using List.reverseRecOn with
  | nil => exact hx
  | append_singleton seen e ih =>
    have hseen := ih fun s hs => hl s (hs.trans (List.prefix_append seen [e]))
    have hlast := hl (seen ++ [e]) List.prefix_rfl
    rw [reached_append] at hlast ⊢
    exact held_step (invariant_reached hi seen) hseen hlast

lemma not_terminal_of_pending (hl : w.state.pending.lookup l ≠ none) : w.state.terminal = false := by
  rw [← Bool.not_eq_true]
  intro ht
  rw [(hi.closed ht).pending] at hl
  exact hl rfl

lemma accepted_before {k : ℕ} {token : PromptToken} {nonce : PromptNonce} {p q : UInt32}
    (hf : Fixed w h l T) (hp : Presents k token nonce p q now e) (hr : Accepted (step m w e).2)
    (hk : k = h ∨ m.sha256 (tokenLookupInput w.state.instanceSecret token) = l ∧
      w.handles.lookup h = some (.issue c l t)) : now < T := by
  obtain ⟨c', l', t', x, hx, hc, -, -⟩ := accepted_inv (happened_step hi e) hp hr
  have ht := not_terminal_of_pending hi (by rw [hc.lookup]; simp)
  obtain rfl : k = h := by
    rcases hk with rfl | ⟨hl, hown⟩
    · rfl
    · rw [hc.token] at hl
      subst hl
      exact issue_handle_unique hi ht hx hown
  obtain ⟨rfl, r, hl, hT⟩ := hf.record c' l' t' hx ht
  obtain ⟨d, hd, hnow⟩ := hc.expiry
  rw [hc.lookup, Option.some.injEq] at hl
  subst hl
  rw [hT, Option.some.injEq] at hd
  exact hd ▸ hnow

end

theorem pending_expiry_fixed_once (m : ManagerInner) (entropy : Entropy) (secret : InstanceSecret) (counter : ℕ)
    (front later : List Event) (h : ℕ) (waker : Option ℕ) (now T : Instant)
    (hact : (step m (reached m (initial entropy secret counter) front) (.activate h waker now)).2 = .activated T)
    (honce : ∀ waker now, Event.activate h waker now ∉ later) :
    let w := (step m (reached m (initial entropy secret counter) front) (.activate h waker now)).1
    ∃ c l t, w.handles.lookup h = some (.issue c l t) ∧
      (∀ seen, seen <+: later → Remains m w l seen →
        ∃ r, (reached m w seen).state.pending.lookup l = some r ∧ r.expiresAt = some T) ∧
      ∀ seen e k token nonce p q now', seen ++ [e] <+: later → Presents k token nonce p q now' e →
        (k = h ∨ token = t ∧ Remains m w l seen) → Accepted (step m (reached m w seen) e).2 → now' < T := by
  intro w
  have hw₀ := tracked_reached m entropy secret counter front
  have hw := tracked_step hw₀ (.activate h waker now)
  obtain ⟨c, l, t, r, hown, hr, hT⟩ := activated_inv hact
  obtain ⟨_, _, b, _, -, hissue⟩ := hw.issues h c l t hown
  have hfixed : Fixed w h l T := by
    refine ⟨hw.invariant.fresh h _ hown, fun c' l' t' hx' _ => ?_⟩
    rw [hown, Option.some.injEq, Handle.issue.injEq] at hx'
    exact ⟨hx'.2.1.symm, r, hr, hT⟩
  have hall : ∀ seen, seen <+: later → Fixed (reached m w seen) h l T := fun seen hs =>
    fixed_reached hw.invariant hfixed fun k n hm => honce k n (hs.subset hm)
  refine ⟨c, l, t, hown, fun seen hs hrem => ?_, fun seen e k token nonce p q now' hs hp hk hr => ?_⟩
  · have ht := not_terminal_of_pending (invariant_reached hw.invariant seen) (hrem seen List.prefix_rfl)
    exact ((hall seen hs).record c l t (held_reached hw.invariant hown hrem) ht).2
  have hs' := (List.prefix_append seen [e]).trans hs
  refine accepted_before (c := c) (t := t) (invariant_reached hw.invariant seen) (hall seen hs') hp hr ?_
  refine hk.imp_right fun ⟨htoken, hrem⟩ => ⟨?_, held_reached hw.invariant hown hrem⟩
  rw [secret_reached hw.invariant, hw.sameSecret, htoken, hissue.lookup]

def sampleIssued : List Event :=
  [.newConnection, .reserveBegin 1 1000 ⟨"alice", 1000⟩,
    .issue 0 ⟨1, 1000, ⟨"alice", 1000⟩, .filled 32 9, "sudo", .local_, sampleSnapshot⟩]

def sampleClaim (now : Instant) : Event :=
  .claimCommit 1 (.filled 32 22) (.filled 32 9) 1000 1000 now

def sampleActivated : World × Response :=
  step sampleManager (reached sampleManager sampleStart sampleIssued) (.activate 1 none 0)

theorem pending_expiry_fixed_once_sample :
    (step sampleManager sampleActivated.1 (sampleClaim 3)).2 = .claimed 2 1 ∧
      ∀ now, (step sampleManager (reached sampleManager sampleActivated.1 []) (sampleClaim now)).2 = .claimed 2 1 →
        now < 10 := by
  refine ⟨by decide +kernel, fun now hr => ?_⟩
  have hact : sampleActivated.2 = .activated 10 := by decide +kernel
  have honce : ∀ waker now', Event.activate 1 waker now' ∉ [sampleClaim now] := by simp [sampleClaim]
  have hp : Presents 1 (.filled 32 22) (.filled 32 9) 1000 1000 now (sampleClaim now) :=
    .claimCommit
  have h := pending_expiry_fixed_once sampleManager _ _ 0 sampleIssued [sampleClaim now] 1 none 0 10 hact honce
  rw [show initial _ _ 0 = sampleStart from rfl, ← sampleActivated] at h
  obtain ⟨c, l, t, -, -, hbefore⟩ := h
  refine hbefore [] _ 1 _ _ _ _ now List.prefix_rfl hp (.inl rfl) ?_
  rw [hr]
  trivial

/-- The activation at 5 is refused, but its deadline 15 replaces the granted 10. -/
theorem pending_expiry_moved_by_refused_activate :
    let again := step sampleManager sampleActivated.1 (.activate 1 none 5)
    let lookup := sumHash (tokenLookupInput sampleActivated.1.state.instanceSecret (.filled 32 22))
    sampleActivated.2 = .activated 10 ∧ again.2 = .refused .invalid ∧
      (again.1.state.pending.lookup lookup).map PendingRecord.expiresAt = some (some 15) ∧
      (step sampleManager again.1 (sampleClaim 12)).2 = .claimed 2 1 := by
  decide +kernel

end Howy.Prompt.Expiry
