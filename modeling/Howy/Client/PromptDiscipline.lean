import Howy.Client.PromptConnection

namespace Howy.Client.PromptDiscipline

open Library (final final_invariant)
open Storage (Bytes FixedArray)
open PromptConnection

def Cmd.isBegin : Cmd → Bool
  | .beginAuthV1 _ => true
  | _ => false

def Cmd.closing : Cmd → Option ClosingReq
  | .beginAuthV1 _ => none
  | .commitAuthV1 req | .cancelAuthV1 req => some req

structure Answers (req : BeginAuthV1Req) (prompt : PromptRequiredV1) (pending : PendingClientPrompt) : Prop where
  valid : prompt.validate = true
  nonce : prompt.clientNonce = req.clientNonce
  pending_token : pending.transactionToken.val = prompt.transactionToken
  pending_nonce : pending.clientNonce.val = prompt.clientNonce

def rejected (req : BeginAuthV1Req) (cut : Option ℕ) : Core := ⟨.finished, none, [⟨.beginAuthV1 req, cut⟩], []⟩

def prompted (req : BeginAuthV1Req) (prompt : PromptRequiredV1) (pending : PendingClientPrompt) : Core :=
  ⟨.pending, some pending, [⟨.beginAuthV1 req, none⟩], [prompt]⟩

inductive Progress : Core → Core → Prop
  | idle (c : Core) : Progress c c
  | refused : Progress new.toCore ⟨.finished, none, [], []⟩
  | rejected (req : BeginAuthV1Req) (cut : Option ℕ) : Progress new.toCore (rejected req cut)
  | prompted {req : BeginAuthV1Req} {prompt : PromptRequiredV1} {pending : PendingClientPrompt}
      (h : Answers req prompt pending) : Progress new.toCore (prompted req prompt pending)
  | abandoned (req : BeginAuthV1Req) (prompt : PromptRequiredV1) (pending : PendingClientPrompt) :
      Progress (prompted req prompt pending) ⟨.finished, none, [⟨.beginAuthV1 req, none⟩], [prompt]⟩
  | closed (req : BeginAuthV1Req) (prompt : PromptRequiredV1) (pending : PendingClientPrompt) (cut : Option ℕ)
      {cmd : Cmd} (h : Cmd.closing cmd = some pending.closing) :
      Progress (prompted req prompt pending)
        ⟨.finished, none, [⟨.beginAuthV1 req, none⟩, ⟨cmd, cut⟩], [prompt]⟩

inductive Reached : Core → Prop
  | new : Reached new.toCore
  | refused : Reached ⟨.finished, none, [], []⟩
  | rejected (req : BeginAuthV1Req) (cut : Option ℕ) : Reached (rejected req cut)
  | prompted {req : BeginAuthV1Req} {prompt : PromptRequiredV1} {pending : PendingClientPrompt}
      (h : Answers req prompt pending) : Reached (prompted req prompt pending)
  | abandoned {req : BeginAuthV1Req} {prompt : PromptRequiredV1} {pending : PendingClientPrompt}
      (h : Answers req prompt pending) : Reached ⟨.finished, none, [⟨.beginAuthV1 req, none⟩], [prompt]⟩
  | closed {req : BeginAuthV1Req} {prompt : PromptRequiredV1} {pending : PendingClientPrompt}
      (h : Answers req prompt pending) (cut : Option ℕ) {cmd : Cmd}
      (hcmd : Cmd.closing cmd = some pending.closing) :
      Reached ⟨.finished, none, [⟨.beginAuthV1 req, none⟩, ⟨cmd, cut⟩], [prompt]⟩

variable {s s' : PromptAuthClientConnection} {c c' : Core} {pending : PendingClientPrompt} {req : BeginAuthV1Req}
  {prompt : PromptRequiredV1} {env : Surroundings} {nonce : FixedArray UInt8 promptNonceBytes} {cmd : Cmd}
  {r : Response} {env : Surroundings}

lemma Reached.eq_new (h : Reached c) (hphase : c.phase = .initial) : c = PromptConnection.new.toCore := by
  cases h with
  | new => rfl
  | _ => cases hphase

lemma Reached.eq_prompted (h : Reached c) (hphase : c.phase = .pending) :
    ∃ req prompt pending, Answers req prompt pending ∧ c = PromptDiscipline.prompted req prompt pending := by
  cases h with
  | prompted h => exact ⟨_, _, _, h, rfl⟩
  | _ => cases hphase

lemma Reached.pending_eq_none (h : Reached c) (hphase : c.phase = .finished) : c.pending = none := by
  cases h with
  | new | prompted h => cases hphase
  | _ => rfl

lemma Reached.progress (h : Reached c) (hp : Progress c c') : Reached c' := by
  cases hp with
  | idle => exact h
  | refused => exact .refused
  | rejected req cut => exact .rejected req cut
  | prompted ha => exact .prompted ha
  | abandoned req prompt pending =>
    obtain ⟨_, _, _, ha, heq⟩ := h.eq_prompted rfl
    cases heq
    exact .abandoned ha
  | closed req prompt pending cut hcmd =>
    obtain ⟨_, _, _, ha, heq⟩ := h.eq_prompted rfl
    cases heq
    exact .closed ha cut hcmd

section

variable (decode : Bytes → Except String Response)

lemma zeroizingExactArray_eq_some {n : ℕ} {value : Bytes} (h : value.length = n) :
    ∃ a : FixedArray UInt8 n, zeroizingExactArray n value = some a ∧ a.val = value := ⟨⟨value, h⟩, dif_pos h, rfl⟩

lemma length_clientNonce_of_validate (h : req.validate) : req.clientNonce.length = promptNonceBytes := by
  simp only [BeginAuthV1Req.validate, Bool.and_eq_true, beq_iff_eq] at h
  exact h.1.2

lemma length_transactionToken_of_validate (h : prompt.validate) :
    prompt.transactionToken.length = promptTokenBytes := by
  simp only [PromptRequiredV1.validate, Bool.and_eq_true, beq_iff_eq] at h
  exact h.1.1.1.2

variable {decode} in
lemma toCore_of_receive {r : Except IoError Response}
    (h : receiveResponseUntil decode env s = (s', r)) : s'.toCore = s.toCore := by
  have hs : (receiveResponseUntil decode env s).1 = s' := congrArg Prod.fst h
  rw [← hs]
  rfl

@[simp] lemma toCore_finish (s : PromptAuthClientConnection) :
    (finish s).toCore = { s.toCore with phase := .finished } := rfl

lemma toCore_sendRequest (cmd : Cmd) (env : Surroundings) (s : PromptAuthClientConnection) :
    (sendRequest cmd env s).1.toCore = { s.toCore with sent := s.sent ++ [⟨cmd, env.write.map Prod.fst⟩] } := by
  unfold sendRequest
  split <;> simp_all

lemma sendRequest_ok (h : sendRequest cmd env s = (s', .ok ())) :
    s' = { s with sent := s.sent ++ [⟨cmd, none⟩] } := by
  unfold sendRequest at h
  split at h
  · exact (Prod.mk.inj h).1.symm
  · cases (Prod.mk.inj h).2

lemma acceptPrompt_cases (hnonce : nonce.val = req.clientNonce)
    (hs : s.toCore = ⟨.initial, none, [⟨.beginAuthV1 req, none⟩], []⟩) :
    (∃ e, acceptPrompt prompt nonce s = (finish s, .error e)) ∨ ∃ pending metadata, Answers req prompt pending ∧
      (acceptPrompt prompt nonce s).1.toCore = prompted req prompt pending ∧
      (acceptPrompt prompt nonce s).2 = .ok (.promptRequired metadata) := by
  unfold acceptPrompt
  split
  · exact .inl ⟨_, rfl⟩
  rename_i hvalid
  rw [not_or, not_not, not_not] at hvalid
  obtain ⟨token, htoken, hval⟩ := zeroizingExactArray_eq_some (length_transactionToken_of_validate hvalid.1)
  rw [htoken]
  have hsent := congrArg Core.sent hs
  have haccepted := congrArg Core.accepted hs
  rw [hsent, haccepted]
  exact .inr ⟨_, _, ⟨hvalid.1, hvalid.2.trans hnonce, hval, hvalid.2.symm⟩, rfl, rfl⟩

lemma beginAdaptive_cases (hs : Reached s.toCore) : (∃ e, (beginAdaptive decode req env s).2 = .error e ∧
      Progress s.toCore (beginAdaptive decode req env s).1.toCore ∧
      (beginAdaptive decode req env s).1.accepted = s.accepted) ∨
    s.toCore = new.toCore ∧
      ((∃ message, receives decode env s.inbox = .ok ⟨some (.error message promptProtocolIncompatibleError)⟩ ∧
        (beginAdaptive decode req env s).1.toCore = rejected req none ∧
        (beginAdaptive decode req env s).2 = .ok .promptModeOff) ∨
      ∃ prompt pending metadata, Answers req prompt pending ∧
        receives decode env s.inbox = .ok ⟨some (.promptRequiredV1 prompt)⟩ ∧
        (beginAdaptive decode req env s).1.toCore = prompted req prompt pending ∧
        (beginAdaptive decode req env s).2 = .ok (.promptRequired metadata)) := by
  unfold beginAdaptive
  split
  · exact .inl ⟨_, rfl, .idle _, rfl⟩
  split
  · exact .inl ⟨_, rfl, .idle _, rfl⟩
  rename_i hphase
  have hnew := hs.eq_new (not_not.mp hphase)
  have hnone := congrArg Core.accepted hnew
  split
  · refine .inl ⟨_, rfl, ?_, rfl⟩
    rw [toCore_finish, hnew]
    exact .refused
  rename_i hvalid
  obtain ⟨nonce, hnonce, hval⟩ := zeroizingExactArray_eq_some (length_clientNonce_of_validate (not_not.mp hvalid))
  have hcore := toCore_sendRequest (.beginAuthV1 req) env s
  rw [hnonce, hnone]
  have hrejected : ∀ t e cut, t.toCore = { s.toCore with sent := s.sent ++ [⟨.beginAuthV1 req, cut⟩] } →
      ∃ e', (Except.error e : Except IoError PromptBeginOutcome) = .error e' ∧
        Progress s.toCore (finish t).toCore ∧ (finish t).accepted = [] := by
    intro t e cut ht
    refine ⟨e, rfl, ?_, (congrArg Core.accepted ht).trans hnone⟩
    rw [toCore_finish, ht, hnew]
    exact .rejected req cut
  dsimp only
  split
  next hsend =>
    rw [hsend] at hcore
    exact .inl (hrejected _ _ _ hcore)
  rename_i hsend
  obtain rfl := sendRequest_ok hsend
  split
  next hrecv =>
    exact .inl (hrejected _ _ _ (toCore_of_receive hrecv))
  rename_i t response hrecv
  have ht : t.toCore = ⟨.initial, none, [⟨.beginAuthV1 req, none⟩], []⟩ := by
    refine (toCore_of_receive hrecv).trans ?_
    rw [hnew]
    rfl
  have hreceives := congrArg Prod.snd hrecv
  obtain ⟨result⟩ := response
  unfold settleBegin
  split
  next prompt hresult =>
    obtain rfl : result = _ := hresult
    rcases acceptPrompt_cases hval ht with ⟨e, h⟩ | ⟨pending, metadata, ha, hc, h⟩
    · rw [h]
      exact .inl (hrejected _ _ none (toCore_of_receive hrecv))
    · exact .inr ⟨hnew, .inr ⟨prompt, pending, metadata, ha, hreceives, hc, h⟩⟩
  next message code hresult =>
    obtain rfl : result = _ := hresult
    split
    next hcode =>
      subst hcode
      exact .inr ⟨hnew, .inl ⟨message, hreceives, by rw [toCore_finish, ht]; rfl, rfl⟩⟩
    · exact .inl (hrejected _ _ none (toCore_of_receive hrecv))
  · exact .inl (hrejected _ _ none (toCore_of_receive hrecv))

lemma beginAdaptive_progress (req : BeginAuthV1Req) (env : Surroundings)
    (hs : Reached s.toCore) : Progress s.toCore (beginAdaptive decode req env s).1.toCore := by
  rcases beginAdaptive_cases decode hs with
    ⟨-, -, h, -⟩ | ⟨hnew, ⟨-, -, hc, -⟩ | ⟨prompt, pending, -, ha, -, hc, -⟩⟩
  · exact h
  · rw [hnew, hc]
    exact .rejected req none
  · rw [hnew, hc]
    exact .prompted ha

lemma begin_progress
    (hs : Reached s.toCore) : Progress s.toCore (begin_ decode req env s).1.toCore := by
  have h := beginAdaptive_progress decode req env hs
  unfold begin_
  split <;> rename_i heq <;> rwa [heq] at h

lemma takePending_eq_of_phase_ne (h : s.phase ≠ .pending) :
    takePending s = (s, .error (promptSequenceError "prompt transaction is not pending")) := if_pos h

lemma takePending_eq_of_pending (hphase : s.phase = .pending) (h : s.pending = some pending) :
    takePending s = ({ finish s with pending := none }, .ok pending) := by
  rw [takePending, if_neg (not_not.mpr hphase), h]

lemma toCore_cancelPending (s : PromptAuthClientConnection) :
    (cancelPending decode pending env s).1.toCore = s.toCore ∨
      (cancelPending decode pending env s).1.toCore =
        { s.toCore with sent := s.sent ++ [⟨.cancelAuthV1 pending.closing, env.write.map Prod.fst⟩] } := by
  unfold cancelPending sendRequestUntil
  cases env.expired with
  | some e => exact .inl rfl
  | none =>
    right
    rw [← toCore_sendRequest]
    dsimp only
    split
    next heq =>
      rw [heq]
    next heq =>
      rw [heq]
      split <;> rename_i hrecv <;> exact toCore_of_receive hrecv

inductive Closed (req : BeginAuthV1Req) (prompt : PromptRequiredV1) (pending : PendingClientPrompt) : Core → Prop
  | abandoned : Closed req prompt pending ⟨.finished, none, [⟨.beginAuthV1 req, none⟩], [prompt]⟩
  | closed (cut : Option ℕ) {cmd : Cmd} (h : Cmd.closing cmd = some pending.closing) :
      Closed req prompt pending ⟨.finished, none, [⟨.beginAuthV1 req, none⟩, ⟨cmd, cut⟩], [prompt]⟩

section

variable (h : Closed req prompt pending c)

include h

lemma Closed.progress : Progress (prompted req prompt pending) c := by
  cases h with
  | abandoned => exact .abandoned req prompt pending
  | closed cut h => exact .closed req prompt pending cut h

lemma Closed.phase : c.phase = .finished := by
  cases h <;> rfl

lemma Closed.accepted_eq : c.accepted = [prompt] := by
  cases h <;> rfl

end

section

variable {req : BeginAuthV1Req} {prompt : PromptRequiredV1} {pending : PendingClientPrompt}
  {s : PromptAuthClientConnection} (hs : s.toCore = prompted req prompt pending)

include hs

lemma takePending_of_prompted : takePending s = ({ finish s with pending := none }, .ok pending) :=
  takePending_eq_of_pending (congrArg Core.phase hs) (congrArg Core.pending hs)

lemma toCore_taken : ({ finish s with pending := none } : PromptAuthClientConnection).toCore =
    ⟨.finished, none, [⟨.beginAuthV1 req, none⟩], [prompt]⟩ := by
  change ({ s.toCore with phase := .finished, pending := none } : Core) = _
  rw [hs]
  rfl

lemma commit_cases :
    (∃ e, (commit decode env s).2 = .error e ∧ Closed req prompt pending (commit decode env s).1.toCore) ∨
    ∃ r, isPromptAuthTerminalResponse r ∧ receives decode env s.inbox = .ok r ∧
      (commit decode env s).2 = .ok r ∧ (commit decode env s).1.toCore = ⟨.finished, none,
        [⟨.beginAuthV1 req, none⟩, ⟨.commitAuthV1 pending.closing, none⟩], [prompt]⟩ := by
  rw [commit, takePending_of_prompted hs]
  have htaken := toCore_taken hs
  have hcore := toCore_sendRequest (.commitAuthV1 pending.closing) env { finish s with pending := none }
  dsimp only
  split
  · exact .inl ⟨_, rfl, htaken ▸ .abandoned⟩
  split
  · exact .inl ⟨_, rfl, htaken ▸ .abandoned⟩
  unfold commitPending
  split
  next hsend =>
    rw [hsend, htaken] at hcore
    exact .inl ⟨_, rfl, hcore ▸ .closed _ rfl⟩
  rename_i hsend
  obtain rfl := sendRequest_ok hsend
  have hsent : ∀ t e, receiveResponseUntil decode env { { finish s with pending := none } with
      sent := s.sent ++ [⟨.commitAuthV1 pending.closing, none⟩] } = (t, e) → t.toCore = ⟨.finished, none,
        [⟨.beginAuthV1 req, none⟩, ⟨.commitAuthV1 pending.closing, none⟩], [prompt]⟩ := by
    intro t e hrecv
    rw [toCore_of_receive hrecv, congrArg Core.sent hs]
    exact congrArg (fun accepted => (⟨.finished, none, _, accepted⟩ : Core)) (congrArg Core.accepted hs)
  split
  next hrecv =>
    exact .inl ⟨_, rfl, hsent _ _ hrecv ▸ .closed none rfl⟩
  rename_i hrecv
  split
  next hterminal =>
    exact .inr ⟨_, hterminal, congrArg Prod.snd hrecv, rfl, hsent _ _ hrecv⟩
  · exact .inl ⟨_, rfl, hsent _ _ hrecv ▸ .closed none rfl⟩

lemma commit_closed : Closed req prompt pending (commit decode env s).1.toCore := by
  rcases commit_cases decode hs with ⟨-, -, h⟩ | ⟨-, -, -, -, h⟩
  · exact h
  · exact h ▸ .closed none rfl

lemma cancel_closed (env : Surroundings) : Closed req prompt pending (cancel decode env s).1.toCore := by
  rw [cancel, takePending_of_prompted hs]
  dsimp only
  split
  · rw [toCore_taken hs]
    exact .abandoned
  rcases toCore_cancelPending decode { finish s with pending := none } with h | h
  · rw [h, toCore_taken hs]
    exact .abandoned
  · rw [h, toCore_taken hs]
    exact .closed _ rfl

end

section

variable (hs : Reached s.toCore)

include hs

lemma settles
    (hclosed : ∀ req prompt pending, s.toCore = prompted req prompt pending → Closed req prompt pending s'.toCore)
    (hidle : s.phase ≠ .pending → s' = s) : Progress s.toCore s'.toCore ∧ s'.accepted = s.accepted := by
  by_cases hphase : s.phase = .pending
  · obtain ⟨req, prompt, pending, -, heq⟩ := hs.eq_prompted hphase
    have hc := hclosed req prompt pending heq
    exact ⟨heq ▸ hc.progress, hc.accepted_eq.trans (congrArg Core.accepted heq).symm⟩
  · obtain rfl := hidle hphase
    exact ⟨.idle _, rfl⟩

lemma commit_progress :
    Progress s.toCore (commit decode env s).1.toCore ∧ (commit decode env s).1.accepted = s.accepted :=
  settles hs (fun _ _ _ heq => commit_closed decode heq) fun hphase => by
    rw [commit, takePending_eq_of_phase_ne hphase]

lemma cancel_progress :
    Progress s.toCore (cancel decode env s).1.toCore ∧ (cancel decode env s).1.accepted = s.accepted :=
  settles hs (fun _ _ _ heq => cancel_closed decode heq env) fun hphase => by
    rw [cancel, takePending_eq_of_phase_ne hphase]

lemma drop_progress : Progress s.toCore (drop decode env s).toCore ∧
    (drop decode env s).accepted = s.accepted := by
  unfold drop
  split
  · exact ⟨.idle _, rfl⟩
  · exact cancel_progress decode hs

lemma intoInner_progress :
    Progress s.toCore (intoInner decode env s).toCore ∧ (intoInner decode env s).accepted = s.accepted := by
  change Progress s.toCore (finish (if s.pending.isSome then (cancel decode env s).1 else s)).toCore ∧
    (if s.pending.isSome then (cancel decode env s).1 else s).accepted = s.accepted
  cases hphase : s.phase with
  | initial =>
    have hnone := congrArg Core.pending (hs.eq_new hphase)
    rw [hnone, if_neg (by decide), toCore_finish, hs.eq_new hphase]
    exact ⟨.refused, rfl⟩
  | pending =>
    obtain ⟨req, prompt, pending, -, heq⟩ := hs.eq_prompted hphase
    have hclosed := cancel_closed decode heq env
    rw [congrArg Core.pending heq, if_pos (by rfl), toCore_finish]
    rw [show ({ (cancel decode env s).1.toCore with phase := .finished } : Core) =
      (cancel decode env s).1.toCore by
      rw [← hclosed.phase]]
    exact cancel_progress decode hs
  | finished =>
    rw [hs.pending_eq_none hphase, toCore_finish, ← hphase]
    exact ⟨.idle _, rfl⟩

end

lemma step_progress (call : Call) (hs : Reached s.toCore) : Progress s.toCore (step decode s call).1.toCore := by
  unfold step
  split
  · exact .idle _
  cases call with
  | begin_ req env => exact begin_progress decode hs
  | beginAdaptive req env => exact beginAdaptive_progress decode req env hs
  | beginAdaptiveRef username nonce service origin env => exact beginAdaptive_progress decode _ env hs
  | commit env => exact (commit_progress decode hs).1
  | cancel env => exact (cancel_progress decode hs).1
  | intoInner env => exact (intoInner_progress decode hs).1
  | drop env => exact (drop_progress decode hs).1

lemma reached_final (hs : Reached s.toCore) (calls : List Call) : Reached (final (step decode) s calls).toCore :=
  @final_invariant _ _ _ _ (fun s : PromptAuthClientConnection => Reached s.toCore)
    (fun _ call h => h.progress (step_progress decode call h)) _ hs calls

end

section

variable {decode : Bytes → Except String Response} {env : Surroundings} {s : PromptAuthClientConnection}

lemma sendRequestUntil_ok
    (h : sendRequestUntil cmd env s = (s', .ok ())) : s' = { s with sent := s.sent ++ [⟨cmd, none⟩] } := by
  unfold sendRequestUntil at h
  split at h
  · cases (Prod.mk.inj h).2
  · exact sendRequest_ok h

lemma takePending_ok
    (h : takePending s = (s', .ok pending)) :
    s' = { finish s with pending := none } ∧ s.pending = some pending := by
  unfold takePending at h
  split at h
  · cases (Prod.mk.inj h).2
  split at h
  · cases (Prod.mk.inj h).2
  rename_i hpending
  cases h
  exact ⟨rfl, hpending⟩

lemma commit_ok (hs : Reached s.toCore) (h : (commit decode env s).2 = .ok r) :
    isPromptAuthTerminalResponse r ∧ receives decode env s.inbox = .ok r := by
  by_cases hphase : s.phase = .pending
  · obtain ⟨req, prompt, pending, -, heq⟩ := hs.eq_prompted hphase
    rcases commit_cases decode heq with ⟨e, he, -⟩ | ⟨r', hterminal, hrecv, hr', -⟩
    · cases he.symm.trans h
    · cases hr'.symm.trans h
      exact ⟨hterminal, hrecv⟩
  · rw [commit, takePending_eq_of_phase_ne hphase] at h
    cases h

lemma cancelledResult_ok {response : Response} (h : cancelledResult pending response = .ok ()) :
    ∃ cancelled, response = ⟨some (.authCancelledV1 cancelled)⟩ ∧
    cancelled.clientNonce = pending.clientNonce.val := by
  obtain ⟨result⟩ := response
  unfold cancelledResult at h
  split at h
  next hresult =>
    split at h
    next hvalid =>
      exact ⟨_, congrArg _ hresult, hvalid.2⟩
    · cases h
  · cases h

lemma cancelPending_ok (h : (cancelPending decode pending env s).2 = .ok ()) :
    ∃ cancelled, receives decode env s.inbox = .ok ⟨some (.authCancelledV1 cancelled)⟩ ∧
      cancelled.clientNonce = pending.clientNonce.val ∧
      (cancelPending decode pending env s).1.sent = s.sent ++ [⟨.cancelAuthV1 pending.closing, none⟩] := by
  unfold cancelPending at h ⊢
  split at h
  · cases h
  rename_i hsend
  split at h
  · cases h
  rename_i hrecv
  obtain ⟨cancelled, rfl, hnonce⟩ := cancelledResult_ok h
  obtain rfl := sendRequestUntil_ok hsend
  refine ⟨cancelled, congrArg Prod.snd hrecv, hnonce, ?_⟩
  exact congrArg Core.sent (toCore_of_receive hrecv)

lemma cancel_ok (h : (cancel decode env s).2 = .ok ()) :
    ∃ cancelled pending, receives decode env s.inbox = .ok ⟨some (.authCancelledV1 cancelled)⟩ ∧
      cancelled.clientNonce = pending.clientNonce ∧
      (cancel decode env s).1.sent = s.sent ++ [⟨.cancelAuthV1 pending, none⟩] := by
  unfold cancel at h ⊢
  split at h
  · cases h
  rename_i pending htake
  obtain ⟨rfl, -⟩ := takePending_ok htake
  split at h
  · cases h
  rename_i hdeadline
  obtain ⟨cancelled, hrecv, hnonce, hsent⟩ := cancelPending_ok h
  rw [if_neg hdeadline]
  exact ⟨cancelled, pending.closing, hrecv, hnonce, hsent⟩

end

def begins (c : Core) : ℕ := c.sent.countP fun frame => Cmd.isBegin frame.cmd

def closings (c : Core) : List ClosingReq := c.sent.filterMap fun frame => Cmd.closing frame.cmd

def Call.surroundings : Call → Surroundings
  | .begin_ _ env | .beginAdaptive _ env | .beginAdaptiveRef _ _ _ _ env | .commit env | .cancel env
  | .intoInner env | .drop env => env

lemma Reached.begins_le (h : Reached c) : begins c ≤ 1 := by
  cases h with
  | closed h cut hcmd =>
    rename_i cmd
    cases cmd with
    | beginAuthV1 req => cases hcmd
    | commitAuthV1 req | cancelAuthV1 req => exact le_rfl
  | new | refused => exact Nat.zero_le 1
  | _ => exact le_rfl

lemma closings_closed {begun : BeginAuthV1Req} {req : ClosingReq} (hcmd : Cmd.closing cmd = some req)
    {phase : PromptClientPhase} {cut : Option ℕ} {accepted : List PromptRequiredV1} :
    closings ⟨phase, none, [⟨.beginAuthV1 begun, none⟩, ⟨cmd, cut⟩], accepted⟩ = [req] := by
  have hlast : [(⟨cmd, cut⟩ : Frame)].filterMap (fun frame => Cmd.closing frame.cmd) = [req] := by
    simp [hcmd]
  exact hlast

lemma Reached.closings_eq (h : Reached c) : closings c = [] ∨
      ∃ begun prompt pending, Answers begun prompt pending ∧ ⟨.beginAuthV1 begun, none⟩ ∈ c.sent ∧
        c.accepted = [prompt] ∧ closings c = [pending.closing] := by
  cases h with
  | closed h cut hcmd =>
    exact .inr ⟨_, _, _, h, List.mem_cons_self, rfl, closings_closed hcmd⟩
  | _ => exact .inl rfl

lemma Progress.accepted_eq (h : Progress c c') (hne : closings c' ≠ closings c) :
    ∃ prompt, c.accepted = [prompt] := by
  cases h with
  | closed req prompt pending cut h | abandoned req prompt pending => exact ⟨prompt, rfl⟩
  | _ => exact absurd rfl hne

lemma Progress.phase_ne (h : Progress c c') (hc : c.phase ≠ .initial) : c'.phase ≠ .initial := by
  cases h with
  | idle => exact hc
  | refused | rejected req cut | prompted h => exact absurd rfl hc
  | _ => nofun

variable (decode : Bytes → Except String Response)

lemma phase_final_ne (hs : Reached s.toCore) (hphase : s.phase ≠ .initial)
    (calls : List Call) : (final (step decode) s calls).phase ≠ .initial :=
  (@final_invariant _ _ _ _ (fun s : PromptAuthClientConnection => Reached s.toCore ∧ s.phase ≠ .initial)
    (fun _ call h => ⟨h.1.progress (step_progress decode call h.1), (step_progress decode call h.1).phase_ne h.2⟩)
    _ ⟨hs, hphase⟩ calls).2

lemma beginAdaptive_accepted (hs : Reached s.toCore) : (beginAdaptive decode req env s).1.accepted = s.accepted ∨
      ∃ prompt, receives decode env s.inbox = .ok ⟨some (.promptRequiredV1 prompt)⟩ ∧
        (beginAdaptive decode req env s).1.accepted = s.accepted ++ [prompt] := by
  rcases beginAdaptive_cases decode hs with
    ⟨-, -, -, h⟩ | ⟨hnew, ⟨-, -, hc, -⟩ | ⟨prompt, pending, -, -, hrecv, hc, -⟩⟩
  · exact .inl h
  · exact .inl ((congrArg Core.accepted hc).trans (congrArg Core.accepted hnew).symm)
  · refine .inr ⟨prompt, hrecv, ?_⟩
    rw [congrArg Core.accepted hnew]
    exact congrArg Core.accepted hc

lemma beginAdaptive_promptModeOff (hs : Reached s.toCore)
    (h : (beginAdaptive decode req env s).2 = .ok .promptModeOff) :
    ∃ message, receives decode env s.inbox = .ok ⟨some (.error message promptProtocolIncompatibleError)⟩ := by
  rcases beginAdaptive_cases decode hs with
    ⟨e, he, -⟩ | ⟨-, ⟨message, hrecv, -⟩ | ⟨_, _, _, -, -, -, hok⟩⟩
  · cases he.symm.trans h
  · exact ⟨message, hrecv⟩
  · cases hok.symm.trans h

lemma begin_fst (req : BeginAuthV1Req) (env : Surroundings) (s : PromptAuthClientConnection) :
    (begin_ decode req env s).1 = (beginAdaptive decode req env s).1 := by
  unfold begin_
  split <;> rename_i heq <;> rw [heq]

lemma step_accepted (hs : Reached s.toCore) (call : Call) : (step decode s call).1.accepted = s.accepted ∨
      ∃ prompt, receives decode (Call.surroundings call) s.inbox = .ok ⟨some (.promptRequiredV1 prompt)⟩ ∧
        (step decode s call).1.accepted = s.accepted ++ [prompt] := by
  unfold step
  split
  · exact .inl rfl
  cases call with
  | begin_ req env =>
    rw [begin_fst]
    exact beginAdaptive_accepted decode hs
  | beginAdaptive req env => exact beginAdaptive_accepted decode hs
  | beginAdaptiveRef username nonce service origin env => exact beginAdaptive_accepted decode hs
  | commit env => exact .inl (commit_progress decode hs).2
  | cancel env => exact .inl (cancel_progress decode hs).2
  | intoInner env => exact .inl (intoInner_progress decode hs).2
  | drop env => exact .inl (drop_progress decode hs).2

lemma step_promptModeOff (hs : Reached s.toCore) {call : Call} (h : (step decode s call).2 = .beganAdaptive
    (.ok .promptModeOff)) : ∃ message, receives decode (Call.surroundings call) s.inbox =
      .ok ⟨some (.error message promptProtocolIncompatibleError)⟩ := by
  unfold step at h
  split at h
  · cases h
  cases call with
  | beginAdaptive req env => exact beginAdaptive_promptModeOff decode hs (Answer.beganAdaptive.inj h)
  | beginAdaptiveRef username nonce service origin env =>
    exact beginAdaptive_promptModeOff decode hs (Answer.beganAdaptive.inj h)
  | _ => cases h

lemma step_commit_ok (hs : Reached s.toCore) (h : (step decode s (.commit env)).2 = .committed (.ok r)) :
    isPromptAuthTerminalResponse r ∧ receives decode env s.inbox = .ok r := by
  unfold step at h
  split at h
  · cases h
  · exact commit_ok hs (Answer.committed.inj h)

lemma step_cancel_ok (h : (step decode s (.cancel env)).2 = .cancelled (.ok ())) :
    ∃ cancelled req, receives decode env s.inbox = .ok ⟨some (.authCancelledV1 cancelled)⟩ ∧
      cancelled.clientNonce = req.clientNonce ∧
      (step decode s (.cancel env)).1.sent = s.sent ++ [⟨.cancelAuthV1 req, none⟩] := by
  unfold step at h ⊢
  split at h
  · cases h
  next howned =>
    rw [if_neg howned]
    exact cancel_ok (Answer.cancelled.inj h)

/-- The discipline of one connection, in the state that any calls lead to and for any peer. A commit that succeeds
has a terminal response; only the answer to a cancel carries the nonce back. -/
theorem prompt_client_discipline (calls : List Call) :
    let s := final (step decode) new calls
    begins s.toCore ≤ 1 ∧ (closings s.toCore).length ≤ 1 ∧
      (∀ req ∈ closings s.toCore, ∃ prompt, s.accepted = [prompt] ∧ prompt.validate = true ∧
        req.transactionToken = prompt.transactionToken ∧ req.clientNonce = prompt.clientNonce) ∧
      (∀ call, closings (step decode s call).1.toCore ≠ closings s.toCore → ∃ prompt, s.accepted = [prompt]) ∧
      (∀ call, (step decode s call).1.accepted = s.accepted ∨
        ∃ prompt, receives decode (Call.surroundings call) s.inbox = .ok ⟨some (.promptRequiredV1 prompt)⟩ ∧
          (step decode s call).1.accepted = s.accepted ++ [prompt]) ∧
      (s.phase ≠ .initial → ∀ more, (final (step decode) s more).phase ≠ .initial) ∧
      (∀ env r, (step decode s (.commit env)).2 = .committed (.ok r) →
        isPromptAuthTerminalResponse r = true ∧ receives decode env s.inbox = .ok r) ∧
      (∀ env, (step decode s (.cancel env)).2 = .cancelled (.ok ()) →
        ∃ cancelled req, receives decode env s.inbox = .ok ⟨some (.authCancelledV1 cancelled)⟩ ∧
          cancelled.clientNonce = req.clientNonce ∧
          (step decode s (.cancel env)).1.sent = s.sent ++ [⟨.cancelAuthV1 req, none⟩]) ∧
      ∀ call, (step decode s call).2 = .beganAdaptive (.ok .promptModeOff) →
        ∃ message, receives decode (Call.surroundings call) s.inbox =
          .ok ⟨some (.error message promptProtocolIncompatibleError)⟩ := by
  have hs := reached_final decode .new calls
  refine ⟨hs.begins_le, ?_, ?_, fun call hne => (step_progress decode call hs).accepted_eq hne,
    step_accepted decode hs, phase_final_ne decode hs, fun _ _ => step_commit_ok decode hs,
    fun _ => step_cancel_ok decode,
    fun _ => step_promptModeOff decode hs⟩
  · rcases hs.closings_eq with h | ⟨_, _, _, -, -, -, h⟩ <;> rw [h]
    · exact Nat.zero_le 1
    · exact le_rfl
  intro req hreq
  rcases hs.closings_eq with h | ⟨begun, prompt, pending, hans, -, haccepted, h⟩
  · rw [h] at hreq
    cases hreq
  · rw [h, List.mem_singleton] at hreq
    subst hreq
    exact ⟨prompt, haccepted, hans.valid, hans.pending_token, hans.pending_nonce⟩

def Response.clientNonce (response : Response) : Option Bytes :=
  match response.result with
  | some (.promptRequiredV1 prompt) => some prompt.clientNonce
  | some (.authCancelledV1 cancelled) => some cancelled.clientNonce
  | _ => none

def samplePrompt : PromptRequiredV1 := ⟨1, List.replicate 32 1, List.replicate 32 7, 1000, 1000⟩

def samplePromptPayload : Bytes :=
  [0x8a, 0x01, 76, 0x08, 1, 0x12, 32] ++ List.replicate 32 1 ++ [0x1a, 32] ++ List.replicate 32 7 ++
    [0x20, 0xe8, 0x07, 0x28, 0xe8, 0x07]

def sampleSuccess : Response := ⟨some (.success ⟨0, "", 0, 0⟩)⟩

def sampleDecode (payload : Bytes) : Except String Response :=
  if payload = samplePromptPayload then .ok ⟨some (.promptRequiredV1 samplePrompt)⟩
  else if payload = [0x0a, 0] then .ok sampleSuccess
  else .error ""

def sampleBegin : Call :=
  .beginAdaptive ⟨1, "alice", List.replicate 32 7, some ⟨"sudo", 1⟩⟩
    { arrives := [0, 0, 0, 79] ++ samplePromptPayload }

/-- A commit succeeds on a response that has no nonce. -/
theorem commit_succeeds_without_nonce :
    (step sampleDecode (final (step sampleDecode) new [sampleBegin])
        (.commit { arrives := [0, 0, 0, 2, 0x0a, 0] })).2 = .committed (.ok sampleSuccess) ∧
      closings (step sampleDecode (final (step sampleDecode) new [sampleBegin])
        (.commit { arrives := [0, 0, 0, 2, 0x0a, 0] })).1.toCore =
        [⟨1, List.replicate 32 1, List.replicate 32 7⟩] ∧
      Response.clientNonce sampleSuccess = none :=
  ⟨by rfl, by decide +kernel, by rfl⟩

end Howy.Client.PromptDiscipline
