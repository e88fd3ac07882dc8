import Howy.Prompt.Accounting

namespace Howy.Prompt

open Library Accounting

def TakesLock (m : ManagerInner) (w : World) : Event → Prop
  | .newConnection => True
  | .reserveBegin _ _ _ => True
  | .issue h _ => ∃ c, w.handles.lookup h = some (.reservation c)
  | .activate h _ now =>
    (∃ c l t, w.handles.lookup h = some (.issue c l t)) ∧ now + m.promptTimeout ≤ m.lastInstant
  | .claimCommit h _ _ _ _ _ => ∃ c l t, w.handles.lookup h = some (.issue c l t)
  | .cancel h _ _ _ _ _ => ∃ c l t, w.handles.lookup h = some (.issue c l t)
  | .promote h _ _ => ∃ c, w.handles.lookup h = some (.claim c)
  | .drop h => ∃ x, w.handles.lookup h = some x
  | .shutdown => True
  | _ => False

def Request (w : World) : Event → Prop
  | .newConnection => True
  | .reserveBegin _ _ _ => True
  | .issue h _ => ∃ c, w.handles.lookup h = some (.reservation c)
  | .activate h _ _ => ∃ c l t, w.handles.lookup h = some (.issue c l t)
  | .claimCommit h _ _ _ _ _ => ∃ c l t, w.handles.lookup h = some (.issue c l t)
  | .cancel h _ _ _ _ _ => ∃ c l t, w.handles.lookup h = some (.issue c l t)
  | .promote h _ _ => ∃ c, w.handles.lookup h = some (.claim c)
  | _ => False

def FailedClosed (m : ManagerInner) (w : World) (events : List Event) : Prop :=
  ∃ front e back, events = front ++ e :: back ∧
    (e = .shutdown ∨ (reached m w front).poisoned = true ∧ TakesLock m (reached m w front) e)

variable {m : ManagerInner} {w : World} {α : Type} {e : Event}

lemma locked_closed (ht : w.state.terminal) (f : ManagerState → Outcome α) :
    ∃ w', locked w f = (.error .unavailable, w') := by
  rcases locked_cases f with ⟨-, h⟩ | ⟨-, -, h⟩ | ⟨-, hf, -⟩
  · exact ⟨_, h⟩
  · exact ⟨_, h⟩
  · rw [ht] at hf
    cases hf

lemma refused_of_closed (ht : w.state.terminal) (he : Request w e) : (step m w e).2 = .refused .unavailable := by
  cases e with
  | newConnection =>
    obtain ⟨w', h⟩ := locked_closed ht newConnection
    simp [step, h]
  | reserveBegin connection peerUid target =>
    obtain ⟨w', h⟩ := locked_closed ht fun s => reserveBegin m s connection peerUid target
    simp [step, stepReserve, h]
  | issue handle binding =>
    obtain ⟨c, hx⟩ := he
    obtain ⟨w', h⟩ := locked_closed (w := consume w handle) ht fun s => issueReserved m s c binding
    simp [step, stepIssue, hx, h]
  | activate handle waker now =>
    obtain ⟨c, l, t, hx⟩ := he
    simp only [step, stepActivate, hx]
    split
    · rfl
    rename_i deadline _
    obtain ⟨w', h⟩ := locked_closed ht fun s => activatePending s c l deadline waker
    rw [h]
  | claimCommit handle token nonce peerUid targetUid now =>
    obtain ⟨c, l, t, hx⟩ := he
    obtain ⟨w', h⟩ :=
      locked_closed (w := noteHashed (consume w handle) [tokenLookupInput w.state.instanceSecret token,
        nonceInput w.state.instanceSecret nonce]) ht fun s => claimCommit m s c l token nonce peerUid targetUid now
    simp [step, stepClaim, hx, h]
  | cancel handle token nonce peerUid targetUid now =>
    obtain ⟨c, l, t, hx⟩ := he
    obtain ⟨w', h⟩ :=
      locked_closed (w := noteHashed (consume w handle) [tokenLookupInput w.state.instanceSecret token,
        nonceInput w.state.instanceSecret nonce]) ht fun s =>
        cancelPending m s c l token nonce peerUid targetUid now
    simp [step, stepCancel, hx, h]
  | promote handle binding now =>
    obtain ⟨claim, hx⟩ := he
    obtain ⟨w', h⟩ := locked_closed (w := consume w handle) ht
      fun s => promoteClaim s (w.controls.lookup claim.activeId) claim binding now
    simp [step, stepPromote, hx, h]
  | drop handle | cancelActive id | checkDeadline handle now | shutdown | finishCleanup | poison => exact he.elim

lemma locked_poisoned (hp : w.poisoned) (f : ManagerState → Outcome α) :
    locked w f = (.error .unavailable, failClosed w) := by
  rw [locked, if_pos hp]

lemma dropHandle_poisoned (hp : w.poisoned) {x : Handle} : (dropHandle w x).state.terminal := by
  have hcancel : ∀ id, (cancelControl w id).poisoned := by
    intro id
    obtain ⟨controls, h⟩ := cancelControl_eq
    rw [h]
    exact hp
  cases x with
  | reservation c => simp only [dropHandle, releaseProvisional, locked_poisoned hp, failClosed, failClosedLocked]
  | issue c l t => simp only [dropHandle, releasePending, locked_poisoned hp, failClosed, failClosedLocked]
  | claim c | lease id =>
    simp [dropHandle, releaseActive, locked_poisoned (hcancel _), failClosed, failClosedLocked]

lemma terminal_of_takesLock (hp : w.poisoned) (h : TakesLock m w e) : (step m w e).1.state.terminal := by
  cases e with
  | newConnection => simp only [step, locked_poisoned hp, failClosed, failClosedLocked]
  | reserveBegin connection peerUid target =>
    simp [step, stepReserve, locked_poisoned hp, failClosed, failClosedLocked]
  | issue handle binding =>
    obtain ⟨c, hx⟩ := h
    simp only [step, stepIssue, hx]
    rw [locked_poisoned (w := consume w handle) hp]
    rfl
  | activate handle waker now =>
    obtain ⟨⟨c, l, t, hx⟩, hnow⟩ := h
    simp only [step, stepActivate, hx, ManagerInner.checkedAdd, if_pos hnow]
    rw [locked_poisoned hp]
    rfl
  | claimCommit handle token nonce peerUid targetUid now =>
    obtain ⟨c, l, t, hx⟩ := h
    simp only [step, stepClaim, hx]
    rw [locked_poisoned (w := noteHashed (consume w handle) _) hp]
    rfl
  | cancel handle token nonce peerUid targetUid now =>
    obtain ⟨c, l, t, hx⟩ := h
    simp only [step, stepCancel, hx]
    rw [locked_poisoned (w := noteHashed (consume w handle) _) hp]
    rfl
  | promote handle binding now =>
    obtain ⟨c, hx⟩ := h
    simp only [step, stepPromote, hx]
    rw [locked_poisoned (w := consume w handle) hp]
    exact dropHandle_poisoned (w := failClosed (consume w handle)) hp
  | drop handle =>
    obtain ⟨x, hx⟩ := h
    simp only [step, hx]
    exact dropHandle_poisoned (w := consume w handle) hp
  | shutdown => rfl
  | cancelActive id | checkDeadline handle now | finishCleanup | poison => exact h.elim

lemma reached_closed (hi : Invariant m w) (ht : w.state.terminal) (events : List Event) :
    (reached m w events).state = w.state := by
  have hstep : ∀ v e, Invariant m v ∧ v.state = w.state →
      Invariant m (step m v e).1 ∧ (step m v e).1.state = w.state := by
    intro v e hv
    have hf := (stepped hv.1 e).follows
    exact ⟨hf.invariant, (hf.closed (by rw [hv.2, ht])).trans hv.2⟩
  exact (final_invariant hstep ⟨hi, rfl⟩ events).2

lemma terminal_of_failedClosed {entropy : Entropy} {secret : InstanceSecret} {counter : ℕ} {events : List Event}
    (h : FailedClosed m (initial entropy secret counter) events) :
    (reached m (initial entropy secret counter) events).state.terminal := by
  obtain ⟨front, e, back, rfl, h⟩ := h
  have hi := invariant_step (invariant_reachable m entropy secret counter front) e
  have ht : (step m (reached m (initial entropy secret counter) front) e).1.state.terminal := by
    rcases h with rfl | ⟨hp, hl⟩
    · rfl
    · exact terminal_of_takesLock hp hl
  have hr : reached m (initial entropy secret counter) (front ++ e :: back) =
      reached m (step m (reached m (initial entropy secret counter) front) e).1 back := by
    rw [reached, final_append]
    rfl
  rw [hr, reached_closed hi ht, ht]

end Howy.Prompt
