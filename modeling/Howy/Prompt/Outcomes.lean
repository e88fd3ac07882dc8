import Howy.Prompt.Coverage

namespace Howy.Prompt

open Library Storage

structure Frame (w w' : World) : Prop where
  secret : w'.state.instanceSecret = w.state.instanceSecret
  counter : w.state.issuanceCounter ≤ w'.state.issuanceCounter
  hashed : w.hashed ⊆ w'.hashed
  pending : ∀ l r, w'.state.pending.lookup l = some r → w.state.pending.lookup l = some r
  controls : ∀ id c, w'.controls.lookup id = some c → c.cancelled = false → w.controls.lookup id = some c

lemma Frame.trans {w w' w'' : World} (h : Frame w w') (h' : Frame w' w'') : Frame w w'' where
  secret := h'.secret.trans h.secret
  counter := h.counter.trans h'.counter
  hashed _ hx := h'.hashed (h.hashed hx)
  pending l r hr := h.pending l r (h'.pending l r hr)
  controls id c hc hn := h.controls id c (h'.controls id c hc hn) hn

variable {m : ManagerInner} {w w' : World} {α : Type} {h : ℕ}

lemma handles_locked (w : World) (f : ManagerState → Outcome α) : (locked w f).2.handles = w.handles := by
  rcases locked_cases f with ⟨-, h⟩ | ⟨-, -, h⟩ | ⟨-, -, h⟩
  all_goals rw [h]
  rfl

lemma nextHandle_locked (w : World) (f : ManagerState → Outcome α) : (locked w f).2.nextHandle = w.nextHandle := by
  rcases locked_cases f with ⟨-, h⟩ | ⟨-, -, h⟩ | ⟨-, -, h⟩
  all_goals rw [h]
  rfl

lemma handles_cancelControl {id : ℕ} : (cancelControl w id).handles = w.handles := by
  obtain ⟨controls, hc⟩ := cancelControl_eq
  rw [hc]

lemma handles_dropHandle (w : World) (x : Handle) : (dropHandle w x).handles = w.handles := by
  cases x with
  | reservation c | issue c l t => exact handles_locked _ _
  | claim c | lease id => exact (handles_locked _ _).trans handles_cancelControl

def Quiet : Response → Prop
  | .issued _ _ | .claimed _ _ | .activated _ | .cancelled => False
  | _ => True

def Plain : Handle → Prop
  | .reservation _ | .lease _ => True
  | _ => False

inductive Happened (m : ManagerInner) (w : World) : Event → World → Response → Prop where
  | quiet {e w' r} (hf : Frame w w')
      (hh : ∀ h x, w'.handles.lookup h = some x → w.handles.lookup h = some x ∨ Plain x) (hr : Quiet r) :
      Happened m w e w' r
  | issued {h c b s'} {fresh : FreshToken} (ht : w.state.terminal = false)
      (hx : w.handles.lookup h = some (.reservation c))
      (hc : c = connectionBinding m.sha256 w.state.instanceSecret b.connection)
      (hfresh : IsFresh m.sha256 w.state s' fresh) (hk : Prompt.Keeps w.state s')
      (hp : s'.pending = w.state.pending.insert fresh.lookup (pendingOf m w.state.instanceSecret c b)) :
      Happened m w (.issue h b)
        (addHandle (noteHashed { consume w h with state := s' } [fresh.input,
          tokenLookupInput s'.instanceSecret fresh.token, nonceInput s'.instanceSecret b.clientNonce])
          (.issue c fresh.lookup fresh.token)) (.issued w.nextHandle fresh.token)
  | activated {h k now c l t s' r d k' a} (ht : w.state.terminal = false)
      (hx : w.handles.lookup h = some (.issue c l t))
      (hl : w.state.pending.lookup l = some r) (hk : Prompt.Keeps w.state s')
      (hp : s'.pending = w.state.pending.insert l { r with expiresAt := some d, shutdownWaker := k' })
      (hd : m.checkedAdd now m.promptTimeout = some d)
      (hr : r.expiresAt = none → ∃ d', a = .activated d') (ha : (∃ d', a = .activated d') ∨ Quiet a) :
      Happened m w (.activate h k now) { w with state := s' } a
  | claimed {h token nonce p q now c l t s' r control} (ht : w.state.terminal = false)
      (hx : w.handles.lookup h = some (.issue c l t))
      (hc : ClaimChecked m w.state c l token nonce p q now r) (hk : Prompt.Keeps w.state s')
      (hp : s'.pending = w.state.pending.erase l) :
      Happened m w (.claimCommit h token nonce p q now)
        (addHandle { noteHashed (consume w h) [tokenLookupInput w.state.instanceSecret token,
            nonceInput w.state.instanceSecret nonce] with
            state := s', controls := w.controls.insert w.state.nextActive control }
          (.claim ⟨w.state.nextActive, r.peerUid, r.target, r.pamService, r.origin, r.snapshot⟩))
        (.claimed w.nextHandle w.state.nextActive)
  | cancelled {h token nonce p q now c l t s' r} (ht : w.state.terminal = false)
      (hx : w.handles.lookup h = some (.issue c l t))
      (hc : ClaimChecked m w.state c l token nonce p q now r) (hk : Prompt.Keeps w.state s')
      (hp : s'.pending = w.state.pending.erase l) :
      Happened m w (.cancel h token nonce p q now)
        { noteHashed (consume w h) [tokenLookupInput w.state.instanceSecret token,
            nonceInput w.state.instanceSecret nonce] with state := s' } .cancelled

namespace Happened

variable {e : Event} {r : Response}

lemma secret (hh : Happened m w e w' r) : w'.state.instanceSecret = w.state.instanceSecret := by
  cases hh with
  | quiet hf _ _ => exact hf.secret
  | issued _ _ _ _ hk _ | activated _ _ _ hk _ _ _ _ | claimed _ _ _ hk _ | cancelled _ _ _ hk _ =>
    exact hk.instanceSecret

lemma counter (hh : Happened m w e w' r) : w.state.issuanceCounter ≤ w'.state.issuanceCounter := by
  cases hh with
  | quiet hf _ _ => exact hf.counter
  | issued _ _ _ _ hk _ | activated _ _ _ hk _ _ _ _ | claimed _ _ _ hk _ | cancelled _ _ _ hk _ =>
    exact hk.issuanceCounter

lemma hashed (hh : Happened m w e w' r) : w.hashed ⊆ w'.hashed := by
  cases hh with
  | quiet hf _ _ => exact hf.hashed
  | issued _ _ _ _ _ _ => exact fun _ hm => List.mem_append_left _ hm
  | activated _ _ _ _ _ _ _ _ => exact fun _ hm => hm
  | claimed _ _ _ _ _ | cancelled _ _ _ _ _ => exact fun _ hm => List.mem_append_left _ hm

end Happened

end Howy.Prompt
