import Howy.Client.PamModule
import Howy.Client.PromptDiscipline
import Howy.Library.Traces

namespace Howy.Client.PamSuccess

open Library Storage Prompt PromptConnection PromptDiscipline PamModule

def isCommit (frame : Frame) : Bool :=
  match frame.cmd with
  | .commitAuthV1 _ => true
  | _ => false

def Agreed (log : List Event) : Prop :=
  ∃ status responses, confirmed status responses ∧ .conversed status responses ∈ log

def Orderly (log : List Event) : Prop :=
  ∀ before frame, before ++ [.wrote frame] <+: log → isCommit frame → Agreed before

lemma Agreed.mono {log log' : List Event} (h : Agreed log) (hsub : log ⊆ log') : Agreed log' := by
  obtain ⟨status, responses, hconfirmed, hmem⟩ := h
  exact ⟨status, responses, hconfirmed, hsub hmem⟩

lemma Orderly.concat {log : List Event} {e : Event} (h : Orderly log)
    (he : ∀ frame, e = .wrote frame → isCommit frame → Agreed log) : Orderly (log ++ [e]) := by
  intro before frame hbefore hcommit
  rcases List.prefix_concat_iff.mp hbefore with heq | hbefore
  · obtain ⟨rfl, hlast⟩ := List.append_inj' heq rfl
    exact he frame (List.singleton_inj.mp hlast).symm hcommit
  · exact h before frame hbefore hcommit

lemma Orderly.append {log events : List Event} (h : Orderly log)
    (he : ∀ frame, .wrote frame ∈ events → isCommit frame → Agreed log) : Orderly (log ++ events) := by
  induction events generalizing log with
  | nil => rwa [List.append_nil]
  | cons e events ih =>
    rw [← List.singleton_append, ← List.append_assoc]
    refine ih (h.concat fun frame hframe => he frame (hframe ▸ List.mem_cons_self)) fun frame hframe hcommit => ?_
    exact (he frame (List.mem_cons_of_mem _ hframe) hcommit).mono (List.subset_append_left _ _)

structure Sound (s : Session) : Prop where
  orderly : Orderly s.log
  calm : .panicked ∉ s.log

lemma sound_start : Sound {} where
  orderly _ _ h := absurd (List.prefix_nil.mp h) (List.append_ne_nil_of_right_ne_nil _ (List.cons_ne_nil _ _))
  calm := List.not_mem_nil

variable {s x : Session} {e : Exit} {outcome : PromptBeginOutcome} {response : Response} {env : Surroundings}
  {before s' : PromptAuthClientConnection} {event : Int → Option Bytes → Event} {answer : Except IoError Response}
  {maxBytes : ℕ} {flags : UInt32} {handle : Bool}

lemma Sound.record (h : Sound s) {e : Event} (hwrote : ∀ frame, e ≠ .wrote frame) (hpanic : e ≠ .panicked) :
    Sound (s.record e) where
  orderly := h.orderly.concat fun frame hframe => absurd hframe (hwrote frame)
  calm hmem := by
    rcases List.mem_append.mp hmem with hmem | hmem
    · exact h.calm hmem
    · exact hpanic (List.mem_singleton.mp hmem).symm

abbrev PamTriple {α : Type} (P : Session → Prop) (p : Pam α) (Q : α → Session → Prop) : Prop :=
  Triple Sound (fun _ _ => True) P p Q

variable {α β : Type} {P : Session → Prop} {Q : α → Session → Prop} {R : β → Session → Prop}

lemma triple_step {f : Choice → Session → Except Exit α × Session}
    (h : ∀ c s, Sound s → P s → Sound (f c s).2 ∧ ∀ a, (f c s).1 = .ok a → Q a (f c s).2) :
    PamTriple P (step f) Q := by
  refine triple_action fun c s hi hs => ⟨trivial, ?_⟩
  by_cases hc : c.panics
  · rw [hc]
    exact ⟨hi, fun a ha => nomatch ha⟩
  · simp only [hc]
    exact h c s hi hs

lemma triple_failIf {p : Prop} [Decidable p] {k : Unit → Pam β} (h : ¬ p → PamTriple P (k ()) R) :
    PamTriple P (failIf p e >>= k) R := by
  unfold PamModule.failIf
  split
  · exact triple_throw_bind
  next hp =>
    exact .bind (triple_pure fun _ _ hs => hs) fun _ => h hp

lemma triple_orElse {x : Option α} {k : α → Pam β} (h : ∀ a, x = some a → PamTriple P (k a) R) :
    PamTriple P (orElse x e >>= k) R := by
  cases x with
  | none => exact triple_throw_bind
  | some a =>
    refine .bind (Q := fun b s => b = a ∧ P s) (triple_pure fun _ _ hs => ⟨rfl, hs⟩) fun b => ?_
    exact triple_of_imp fun hb => hb ▸ h a rfl

lemma triple_readPamStringItem
    (hwrote : ∀ status value frame, event status value ≠ .wrote frame)
    (hpanic : ∀ status value, event status value ≠ .panicked) :
    PamTriple (· = x) (readPamStringItem event maxBytes)
      fun value s => s = x.record (event pamSuccess (value.map utf8Bytes)) := by
  refine .bind (Q := fun r s => s = x.record (event r.1 r.2)) (triple_step ?_) fun r => ?_
  · rintro c s hs rfl
    refine ⟨hs.record (hwrote _ _) (hpanic _ _), fun a ha => ?_⟩
    cases ha
    rfl
  obtain ⟨status, value⟩ := r
  refine triple_failIf fun hstatus => ?_
  obtain rfl := not_not.mp hstatus
  cases value with
  | none => exact triple_pure fun _ _ hs => hs
  | some bytes =>
    refine triple_failIf fun _ => ?_
    refine triple_orElse fun text htext => triple_pure fun s _ hs => ?_
    rw [fromUtf8_eq_some] at htext
    rw [hs, Option.map_some, htext]

lemma triple_readUser : PamTriple (fun s => s = {}) readUser fun name s =>
    (isValidUsername name ∧ name ≠ "root") ∧ s = { log := [.user pamSuccess (some (utf8Bytes name))] } := by
  refine .bind (Q := fun r s => s = { log := [.user r.1 r.2] }) (triple_step ?_) fun r => ?_
  · rintro c s hs rfl
    refine ⟨hs.record (fun _ => nofun) nofun, fun a ha => ?_⟩
    cases ha
    rfl
  obtain ⟨status, value⟩ := r
  dsimp only
  split
  · exact triple_throw_bind
  rename_i hstatus
  obtain rfl := not_not.mp hstatus
  refine triple_orElse fun name hname => triple_failIf fun hvalid => triple_failIf fun hroot => triple_pure
    fun s _ hs => ?_
  obtain ⟨bytes, rfl, hbytes⟩ := Option.bind_eq_some_iff.mp hname
  rw [fromUtf8_eq_some] at hbytes
  exact ⟨⟨not_not.mp hvalid, hroot⟩, hbytes ▸ hs⟩

lemma triple_readPamPolicy : PamTriple (· = x) readPamPolicy fun policy s =>
    isValidPamService policy.1 ∧ ∃ rhost, originOf rhost = some policy.2 ∧
      s = (x.record (.service pamSuccess (some (utf8Bytes policy.1)))).record
      (.rhost pamSuccess (rhost.map utf8Bytes)) := by
  refine .bind (triple_readPamStringItem (fun _ _ _ => nofun) fun _ _ => nofun) fun value => ?_
  refine triple_orElse fun service hservice => triple_failIf fun hvalid => ?_
  obtain rfl : value = some service := hservice
  refine .bind (triple_readPamStringItem (fun _ _ _ => nofun) fun _ _ => nofun) fun rhost => ?_
  refine triple_orElse fun origin horigin => triple_pure fun s _ hs => ?_
  exact ⟨not_not.mp hvalid, rhost, horigin, hs⟩

section

variable {decode : Bytes → Except String Response} {env : Surroundings} {s : PromptAuthClientConnection}
  {req : BeginAuthV1Req} {prompt : PromptRequiredV1} {pending : PendingClientPrompt}

inductive Began (req : BeginAuthV1Req) : Core → PromptBeginOutcome → Response → Prop
  | prompted {prompt : PromptRequiredV1} {pending : PendingClientPrompt} (h : Answers req prompt pending)
      (metadata : PromptMetadata) :
      Began req (prompted req prompt pending) (.promptRequired metadata) ⟨some (.promptRequiredV1 prompt)⟩
  | off (message : String) :
      Began req (rejected req none) .promptModeOff ⟨some (.error message promptProtocolIncompatibleError)⟩

lemma Began.sent_eq {c : Core} (h : Began req c outcome response) : c.sent = [⟨.beginAuthV1 req, none⟩] := by
  cases h <;> rfl

lemma beginAdaptive_ok (hs : s.toCore = new.toCore) (h : (beginAdaptive decode req env s).2 = .ok outcome) :
    ∃ response, receives decode env s.inbox = .ok response ∧
      Began req (beginAdaptive decode req env s).1.toCore outcome response := by
  rcases beginAdaptive_cases decode (by rw [hs]; exact .new) with
    ⟨e, he, -⟩ | ⟨-, ⟨message, hrecv, hc, hok⟩ | ⟨prompt, pending, metadata, ha, hrecv, hc, hok⟩⟩
  · cases he.symm.trans h
  · cases hok.symm.trans h
    exact ⟨_, hrecv, hc ▸ .off message⟩
  · cases hok.symm.trans h
    exact ⟨_, hrecv, hc ▸ .prompted ha metadata⟩

def Uncommitted (events : List Event) : Prop := ∀ frame, .wrote frame ∈ events → ¬ isCommit frame

lemma uncommitted_nil : Uncommitted [] := fun _ h => absurd h List.not_mem_nil

lemma written_append (frames : List Frame) (h : s'.sent = s.sent ++ frames) :
    written s s' = frames.map .wrote := by
  rw [written, h, List.drop_left]

lemma takePending_sent : (takePending s).1.sent = s.sent := by
  unfold takePending
  split
  · rfl
  · split <;> rfl

lemma cancel_sent : (cancel decode env s).1.sent = s.sent ∨
    ∃ req cut, (cancel decode env s).1.sent = s.sent ++ [⟨.cancelAuthV1 req, cut⟩] := by
  have htaken := takePending_sent (s := s)
  unfold cancel
  split
  next htake =>
    rw [htake] at htaken
    exact .inl htaken
  rename_i t taken htake
  rw [htake] at htaken
  split
  · exact .inl htaken
  rw [← htaken]
  rcases toCore_cancelPending decode t with h | h
  · exact .inl (congrArg Core.sent h)
  · exact .inr ⟨_, _, congrArg Core.sent h⟩

lemma uncommitted_of_sent
    (h : s'.sent = s.sent ∨ ∃ req cut, s'.sent = s.sent ++ [⟨.cancelAuthV1 req, cut⟩]) :
    Uncommitted (written s s') := by
  rcases h with h | ⟨req, cut, h⟩
  · rw [written_append [] (h.trans (List.append_nil _).symm)]
    exact uncommitted_nil
  rw [written_append _ h]
  intro frame hframe
  cases List.mem_singleton.mp hframe
  exact Bool.false_ne_true

lemma uncommitted_cancel : Uncommitted (written s (cancel decode env s).1) := uncommitted_of_sent cancel_sent

lemma uncommitted_drop : Uncommitted (written s (drop decode env s)) := by
  unfold drop
  split
  · exact uncommitted_of_sent (.inl rfl)
  · exact uncommitted_of_sent cancel_sent

lemma drop_finished (h : s.phase = .finished) : drop decode env s = { s with owned := false } :=
  if_pos (.inl (by rw [h]; exact PromptClientPhase.noConfusion))

lemma uncommitted_of_progress {c : Core} (h : Progress new.toCore c) : Uncommitted (c.sent.map .wrote) := by
  have hbegin : ∀ (req : BeginAuthV1Req) (cut : Option ℕ), Uncommitted [.wrote ⟨.beginAuthV1 req, cut⟩] := by
    intro req cut frame hframe
    cases List.mem_singleton.mp hframe
    exact Bool.false_ne_true
  generalize hnew : new.toCore = before at h
  cases h with
  | idle =>
    subst hnew
    exact uncommitted_nil
  | refused => exact uncommitted_nil
  | rejected req cut => exact hbegin req cut
  | prompted ha => exact hbegin _ none
  | abandoned req prompt pending | closed req prompt pending cut hcmd => cases hnew

end

section

variable {decode : Bytes → Except String Response}

lemma Sound.append {prompt : PromptAuthClientConnection} {events : List Event} (hs : Sound s)
    (hcommit : ∀ frame, .wrote frame ∈ events → isCommit frame → Agreed s.log) (hcalm : .panicked ∉ events) :
    Sound ⟨prompt, s.log ++ events⟩ where
  orderly := hs.orderly.append hcommit
  calm hmem := (List.mem_append.mp hmem).elim hs.calm hcalm

lemma panicked_notMem_written {after : PromptAuthClientConnection} : .panicked ∉ written before after := by
  intro h
  obtain ⟨frame, -, hframe⟩ := List.mem_map.mp h
  cases hframe

lemma mem_answered {r : Except IoError α} {e : Event}
    (h : e ∈ answered decode env before r) : ∃ response, e = .received response := by
  unfold answered at h
  split at h
  · exact ⟨_, List.mem_singleton.mp h⟩
  · cases h

lemma sound_onPrompt
    {call : Surroundings → PromptAuthClientConnection → PromptAuthClientConnection × Except IoError α}
    (hs : Sound s) (h : Agreed s.log ∨ Uncommitted (written s.prompt (call env s.prompt).1)) :
    Sound ⟨(call env s.prompt).1,
      s.log ++ written s.prompt (call env s.prompt).1 ++ answered decode env s.prompt (call env s.prompt).2⟩ := by
  rw [List.append_assoc]
  refine hs.append (fun frame hframe hcommit => ?_) fun hpanic => ?_
  · rcases List.mem_append.mp hframe with hframe | hframe
    · exact h.elim id fun h => absurd hcommit (h frame hframe)
    · obtain ⟨response, he⟩ := mem_answered hframe
      cases he
  · rcases List.mem_append.mp hpanic with hpanic | hpanic
    · exact panicked_notMem_written hpanic
    · obtain ⟨response, he⟩ := mem_answered hpanic
      cases he

lemma Sound.dropPrompt (hs : Sound s) (env : Surroundings) : Sound (s.dropPrompt decode env) :=
  hs.append (fun frame hframe hcommit => absurd hcommit (uncommitted_drop frame hframe)) panicked_notMem_written

lemma dropPrompt_finished (h : s.prompt.phase = .finished) :
    (s.dropPrompt decode env).prompt.phase = .finished ∧ (s.dropPrompt decode env).log = s.log := by
  rw [Session.dropPrompt, drop_finished h]
  have hwritten : written s.prompt { s.prompt with owned := false } = [] :=
    written_append [] (List.append_nil _).symm
  refine ⟨h, ?_⟩
  rw [hwritten, List.append_nil]

lemma answered_ok {x : α} (h : receives decode env before.inbox = .ok response) :
    answered decode env before (.ok x) = [.received response] := by
  unfold answered
  simp [h]

end

structure Admission where
  name : String
  service : String
  rhost : Option String
  origin : PromptOriginV1
  nonce : FixedArray UInt8 promptNonceBytes
  name_valid : isValidUsername name
  name_ne_root : name ≠ "root"
  service_valid : isValidPamService service
  rhost_valid : originOf rhost = some origin

namespace Admission

variable (a : Admission)

def begin_ : BeginAuthV1Req := beginAuthV1Ref a.name a.nonce a.service a.origin

def log : List Event :=
  [.user pamSuccess (some (utf8Bytes a.name)), .service pamSuccess (some (utf8Bytes a.service)),
    .rhost pamSuccess (a.rhost.map utf8Bytes), .connected, .wrote ⟨.beginAuthV1 a.begin_, none⟩]

def Confirmed (flags : UInt32) (log : List Event) : Prop :=
  ∃ prompt reply success, flags &&& pamSilent = 0 ∧ prompt.validate = true ∧ prompt.clientNonce = a.nonce.val ∧
    (reply = [] ∨ reply = utf8Bytes "OK") ∧
    log = a.log ++ [.received ⟨some (.promptRequiredV1 prompt)⟩, .conversed pamSuccess (some ⟨0, some reply⟩),
      .wrote ⟨.commitAuthV1 ⟨promptProtocolVersion, prompt.transactionToken, prompt.clientNonce⟩, none⟩,
      .received ⟨some (.success success)⟩]

def Unprompted (log : List Event) : Prop :=
  ∃ message success, log = a.log ++ [.received ⟨some (.error message promptProtocolIncompatibleError)⟩, .connected,
    .wroteAuthenticate ⟨promptProtocolVersion, a.name, 0⟩ none, .received ⟨some (.success success)⟩,
    .checkedDeadline true]

end Admission

section

variable {decode : Bytes → Except String Response} {flags : UInt32} {a : Admission}

lemma confirmed_eq_true {status : Int} {responses : Option PamResponse} (h : confirmed status responses) :
    ∃ reply, (reply = [] ∨ reply = utf8Bytes "OK") ∧ status = pamSuccess ∧ responses = some ⟨0, some reply⟩ := by
  simp only [confirmed, Bool.and_eq_true, beq_iff_eq, Option.any_eq_true] at h
  obtain ⟨hstatus, response, rfl, hretcode, reply, hreply, hallowed⟩ := h
  obtain ⟨retcode, resp⟩ := response
  subst hretcode hreply
  simp only [confirmationResponseIsAllowed, Bool.and_eq_true, Option.any_eq_true, Bool.or_eq_true,
    beq_iff_eq] at hallowed
  obtain ⟨-, text, htext, hallowed⟩ := hallowed
  rw [fromUtf8_eq_some] at htext
  subst htext
  refine ⟨_, ?_, hstatus, rfl⟩
  rcases hallowed with rfl | rfl
  · exact .inl rfl
  · exact .inr rfl

lemma triple_requestConfirmation :
    PamTriple (· = x) (requestConfirmation flags) fun isConfirmed s => isConfirmed →
      flags &&& pamSilent = 0 ∧ ∃ reply, (reply = [] ∨ reply = utf8Bytes "OK") ∧
        s = x.record (.conversed pamSuccess (some ⟨0, some reply⟩)) := by
  unfold requestConfirmation
  split
  · exact triple_pure fun _ _ _ h => absurd h Bool.false_ne_true
  rename_i hflags
  refine triple_step ?_
  rintro c s hs rfl
  have hrefused : Sound s ∧ ∀ b, (Except.ok false : Except Exit Bool) = .ok b → b →
      flags &&& pamSilent = 0 ∧ ∃ reply, (reply = [] ∨ reply = utf8Bytes "OK") ∧
        s = s.record (.conversed pamSuccess (some ⟨0, some reply⟩)) :=
    ⟨hs, fun b hb hb' => absurd (Except.ok.inj hb ▸ hb') Bool.false_ne_true⟩
  split
  · exact hrefused
  split
  · refine ⟨hs.record (fun _ => nofun) nofun, fun b hb hconfirmed => ⟨not_not.mp hflags, ?_⟩⟩
    cases hb
    obtain ⟨reply, hreply, rfl, rfl⟩ := confirmed_eq_true hconfirmed
    exact ⟨reply, hreply, rfl⟩
  · exact hrefused

lemma mapAuthResponse_eq_success (h : mapAuthResponse response = pamSuccess) :
    ∃ success, response = ⟨some (.success success)⟩ := by
  obtain ⟨result⟩ := response
  unfold mapAuthResponse at h
  split at h
  next success hresult =>
    exact ⟨success, congrArg _ hresult⟩
  · cases h
  · cases h

lemma triple_settle : PamTriple (· = x) (settle answer) fun status s => status = pamSuccess →
      (∃ success, answer = .ok ⟨some (.success success)⟩) ∧ s = x := by
  refine .bind (Q := fun _ s => s = x) (triple_step fun c s hs hx => ⟨hs, fun _ _ => hx⟩) fun _ => ?_
  cases answer with
  | error e => exact triple_throw
  | ok response =>
    refine triple_pure fun s _ hx hsuccess => ⟨?_, hx⟩
    obtain ⟨success, rfl⟩ := mapAuthResponse_eq_success hsuccess
    exact ⟨success, rfl⟩

def Pending (a : Admission) (prompt : PromptRequiredV1) (pending : PendingClientPrompt) (s : Session) : Prop :=
  s.prompt.toCore = prompted a.begin_ prompt pending ∧
    s.log = a.log ++ [.received ⟨some (.promptRequiredV1 prompt)⟩]

def Earned (flags : UInt32) (a : Admission) (s : Session) : Prop :=
  s.prompt.phase = .finished ∧ (a.Confirmed flags s.log ∨ a.Unprompted s.log)

lemma triple_commit (prompt : PromptRequiredV1) (pending : PendingClientPrompt) (log : List Event) {reply : Bytes}
    (hreply : reply = [] ∨ reply = utf8Bytes "OK") :
    PamTriple (fun s => s.prompt.toCore = prompted a.begin_ prompt pending ∧
        s.log = log ++ [.conversed pamSuccess (some ⟨0, some reply⟩)])
      (onPrompt decode (commit decode)) fun answer s => ∀ response, answer = .ok response →
        s.prompt.phase = .finished ∧ s.log = log ++ [.conversed pamSuccess (some ⟨0, some reply⟩),
          .wrote ⟨.commitAuthV1 pending.closing, none⟩, .received response] := by
  refine triple_step fun c s hs hpre => ⟨sound_onPrompt hs (.inl ?_), fun answer hanswer response hresponse => ?_⟩
  · refine ⟨pamSuccess, some ⟨0, some reply⟩, ?_, hpre.2 ▸ List.mem_append_right _ (List.mem_singleton.mpr rfl)⟩
    rcases hreply with rfl | rfl <;> decide
  cases hanswer
  obtain ⟨e, he, -⟩ | ⟨r, -, hreceives, hr, hcore⟩ := commit_cases decode hpre.1
  · cases he.symm.trans hresponse
  cases hr.symm.trans hresponse
  have hwritten : written s.prompt (commit decode c.env s.prompt).1 =
      [.wrote ⟨.commitAuthV1 pending.closing, none⟩] := by
    refine written_append [⟨.commitAuthV1 pending.closing, none⟩] ?_
    rw [congrArg Core.sent hpre.1]
    exact congrArg Core.sent hcore
  refine ⟨congrArg Core.phase hcore, ?_⟩
  rw [hwritten, hresponse, answered_ok hreceives, hpre.2]
  simp

lemma triple_authenticateByPrompt {prompt : PromptRequiredV1} {pending : PendingClientPrompt}
    (hans : Answers a.begin_ prompt pending) :
    PamTriple (Pending a prompt pending) (authenticateByPrompt decode flags)
      fun status s => status = pamSuccess → Earned flags a s := by
  refine triple_intro fun x _ hx => ?_
  refine .bind triple_requestConfirmation fun isConfirmed => ?_
  cases isConfirmed with
  | false =>
    refine .bind (Q := fun _ _ => True) (triple_step fun c s hs _ => ?_) fun _ => triple_throw
    exact ⟨sound_onPrompt hs (.inr uncommitted_cancel), fun _ _ => trivial⟩
  | true =>
    refine triple_intro fun y _ hy => ?_
    obtain ⟨hflags, reply, hreply, rfl⟩ := hy rfl
    refine .bind ((triple_commit (a := a) prompt pending x.log hreply).pre ?_) fun answer => ?_
    · rintro s - ⟨rfl, -⟩
      exact ⟨hx.1, rfl⟩
    refine triple_intro fun z _ hz => ?_
    refine triple_settle.post ?_
    rintro status s - hsettled hsuccess
    obtain ⟨⟨success, rfl⟩, rfl⟩ := hsettled hsuccess
    obtain ⟨hphase, hlog⟩ := hz _ rfl
    refine ⟨hphase, .inl ⟨prompt, reply, success, hflags, hans.valid, hans.nonce, hreply, ?_⟩⟩
    rw [hlog, hx.2, PendingClientPrompt.closing, hans.pending_token, hans.pending_nonce]
    simp

lemma triple_requestMessageUntil {req : AuthenticateV1Req} :
    PamTriple (· = x) (requestMessageUntil decode req) fun answer s => ∀ response, answer = .ok response →
      s = (x.record (.wroteAuthenticate req none)).record (.received response) := by
  refine triple_step ?_
  rintro c s hs rfl
  have hwrote : ∀ cut, Sound (s.record (.wroteAuthenticate req cut)) := fun cut => hs.record (fun _ => nofun) nofun
  split
  · exact ⟨hwrote _, fun _ hanswer response hresponse => by cases hanswer; cases hresponse⟩
  · exact ⟨hwrote _, fun _ hanswer response hresponse => by cases hanswer; cases hresponse⟩
  split
  · exact ⟨hwrote _, fun _ hanswer response hresponse => by cases hanswer; cases hresponse⟩
  refine ⟨(hwrote _).record (fun _ => nofun) nofun, fun _ hanswer response hresponse => ?_⟩
  cases hanswer
  cases hresponse
  rfl

lemma triple_connect : PamTriple (· = x) connect fun _ s => s = x.record .connected := by
  refine triple_step ?_
  rintro c s hs rfl
  split
  · exact ⟨hs.record (fun _ => nofun) nofun, fun _ _ => rfl⟩
  · exact ⟨hs, fun _ h => nomatch h⟩

lemma triple_authenticateOnce (message : String) : PamTriple (fun s => s.prompt.toCore = rejected a.begin_ none ∧
        s.log = a.log ++ [.received ⟨some (.error message promptProtocolIncompatibleError)⟩])
      (authenticateOnce decode a.name) fun status s => status = pamSuccess → Earned flags a s := by
  refine triple_intro fun x _ hx => ?_
  refine .bind (Q := fun _ s => s.prompt.phase = .finished ∧ s.log = x.log) (triple_step ?_) fun _ => ?_
  · rintro c s hs ⟨rfl, -⟩
    exact ⟨hs.dropPrompt c.env, fun _ _ => dropPrompt_finished (congrArg Core.phase hx.1)⟩
  refine triple_intro fun y _ hy => ?_
  refine .bind triple_connect fun _ => ?_
  refine .bind (Q := fun _ s => s = y.record .connected) (triple_step fun c s hs hy' => ?_) fun _ => ?_
  · split
    · exact ⟨hs, fun _ _ => hy'⟩
    · exact ⟨hs, fun _ h => nomatch h⟩
  refine .bind triple_requestMessageUntil fun answer => ?_
  cases answer with
  | error e => exact triple_throw
  | ok response =>
    refine .bind (Q := fun _ s => s = (((y.record .connected).record
      (.wroteAuthenticate ⟨promptProtocolVersion, a.name, 0⟩ none)).record (.received response)).record
      (.checkedDeadline true)) (triple_step fun c s hs hs' => ?_) fun _ => ?_
    · obtain rfl := hs' response rfl
      split
      · exact ⟨hs.record (fun _ => nofun) nofun, fun _ h => nomatch h⟩
      · exact ⟨hs.record (fun _ => nofun) nofun, fun _ _ => rfl⟩
    refine triple_settle.post ?_
    rintro status s - hsettled hsuccess
    obtain ⟨⟨success, hresponse⟩, rfl⟩ := hsettled hsuccess
    cases hresponse
    refine ⟨hy.1, .inr ⟨message, success, ?_⟩⟩
    simp [Session.record, hy.2, hx.2]

lemma triple_begin (hprompt : x.prompt = new) (hlog : x.log ++ [.wrote ⟨.beginAuthV1 a.begin_, none⟩] = a.log) :
    PamTriple (· = x) (onPrompt decode (beginAdaptiveRef decode a.name a.nonce a.service a.origin))
      fun r s => ∀ outcome, r = .ok outcome → ∃ response, Began a.begin_ s.prompt.toCore outcome response ∧
        s.log = a.log ++ [.received response] := by
  refine triple_step ?_
  rintro c s hs rfl
  have hprogress : Progress new.toCore (beginAdaptive decode a.begin_ c.env s.prompt).1.toCore := by
    rw [hprompt]
    exact beginAdaptive_progress decode a.begin_ c.env .new
  have hwritten : written s.prompt (beginAdaptiveRef decode a.name a.nonce a.service a.origin c.env s.prompt).1 =
      (beginAdaptive decode a.begin_ c.env s.prompt).1.sent.map .wrote := by
    rw [hprompt]
    rfl
  refine ⟨sound_onPrompt hs (.inr ?_), fun r hr outcome hok => ?_⟩
  · rw [hwritten]
    exact uncommitted_of_progress hprogress
  cases hr
  have hbegin : (beginAdaptive decode a.begin_ c.env s.prompt).2 = .ok outcome := hok
  obtain ⟨response, hreceives, hbegan⟩ := beginAdaptive_ok (congrArg _ hprompt) hbegin
  refine ⟨response, hbegan, ?_⟩
  rw [hok, answered_ok hreceives, hwritten, hbegan.sent_eq, ← hlog]
  rfl

lemma triple_authenticateUserWith : PamTriple (fun s => s = {}) (authenticateUserWith decode handle flags)
      fun status s => status = pamSuccess → ∃ a, Earned flags a s := by
  refine triple_failIf fun _ => ?_
  refine .bind triple_readUser fun name => triple_of_imp fun hname => ?_
  refine .bind triple_readPamPolicy fun policy => ?_
  obtain ⟨service, origin⟩ := policy
  refine triple_of_imp fun hservice => triple_exists fun rhost => triple_of_imp fun hrhost => ?_
  refine .bind (Q := fun _ s => s = _) (triple_step fun c s hs hs' => ⟨hs, fun _ _ => hs'⟩) fun nonce => ?_
  refine .bind triple_connect fun _ => ?_
  let a : Admission := ⟨name, service, rhost, origin, nonce, hname.1, hname.2, hservice, hrhost⟩
  refine .bind (triple_begin (a := a) rfl rfl) fun r => ?_
  cases r with
  | error e => exact triple_throw
  | ok outcome =>
    refine triple_intro fun x _ hx => ?_
    obtain ⟨response, hbegan, hlog⟩ := hx outcome rfl
    generalize hcore : x.prompt.toCore = core at hbegan
    cases hbegan with
    | prompted hans metadata =>
      refine (triple_authenticateByPrompt hans).conseq ?_ fun status s _ hearned hsuccess => ⟨a, hearned hsuccess⟩
      rintro s - ⟨rfl, -⟩
      exact ⟨hcore, hlog⟩
    | off message =>
      refine (triple_authenticateOnce (a := a) message).conseq ?_ fun status s _ hearned hsuccess =>
        ⟨a, hearned hsuccess⟩
      rintro s - ⟨rfl, -⟩
      exact ⟨hcore, hlog⟩

end

section

variable {decode : Bytes → Except String Response}

lemma unblocked_step {f : PamModule.Choice → Session → Except Exit α × Session} : (step f).run.Unblocked :=
  unblocked_action

lemma unblocked_failIf {p : Prop} [Decidable p] {k : Unit → Pam β} (h : (k ()).run.Unblocked) :
    (failIf p e >>= k).run.Unblocked := by
  refine unblocked_bindE ?_ fun _ => h
  unfold PamModule.failIf
  split <;> exact trivial

lemma unblocked_orElse {x : Option α} {k : α → Pam β} (h : ∀ a, (k a).run.Unblocked) :
    (orElse x e >>= k).run.Unblocked := by
  refine unblocked_bindE ?_ h
  cases x <;> exact trivial

lemma unblocked_readPamStringItem : (readPamStringItem event maxBytes).run.Unblocked := by
  refine unblocked_bindE unblocked_step fun r => unblocked_failIf ?_
  obtain ⟨status, value⟩ := r
  cases value with
  | none => exact trivial
  | some bytes =>
    refine unblocked_failIf ?_
    exact unblocked_orElse fun _ => trivial

lemma unblocked_readUser : readUser.run.Unblocked := by
  refine unblocked_bindE unblocked_step fun r => ?_
  dsimp only
  split
  · exact trivial
  · exact unblocked_orElse fun _ => unblocked_failIf (unblocked_failIf trivial)

lemma unblocked_readPamPolicy : readPamPolicy.run.Unblocked := by
  refine unblocked_bindE unblocked_readPamStringItem fun _ => unblocked_orElse fun _ => unblocked_failIf ?_
  exact unblocked_bindE unblocked_readPamStringItem fun _ => unblocked_orElse fun _ => trivial

lemma unblocked_settle : (settle answer).run.Unblocked := by
  refine unblocked_bindE unblocked_step fun _ => ?_
  cases answer <;> exact trivial

lemma unblocked_authenticateByPrompt : (authenticateByPrompt decode flags).run.Unblocked := by
  refine unblocked_bindE ?_ fun isConfirmed => ?_
  · unfold requestConfirmation
    split
    · exact trivial
    · exact unblocked_step
  · cases isConfirmed with
    | false => exact unblocked_bindE unblocked_step fun _ => trivial
    | true => exact unblocked_bindE unblocked_step fun _ => unblocked_settle

lemma unblocked_authenticateOnce {username : String} : (authenticateOnce decode username).run.Unblocked := by
  refine unblocked_bindE unblocked_step fun _ => unblocked_bindE unblocked_step fun _ => ?_
  refine unblocked_bindE unblocked_step fun _ => unblocked_bindE unblocked_step fun answer => ?_
  cases answer with
  | error e => exact trivial
  | ok response => exact unblocked_bindE unblocked_step fun _ => unblocked_settle

lemma unblocked_pamSmAuthenticate : (pamSmAuthenticate decode handle flags).Unblocked := by
  refine Prog.unblocked_bind ?_ fun result c s => ?_
  · refine unblocked_failIf (unblocked_bindE unblocked_readUser fun _ =>
      unblocked_bindE unblocked_readPamPolicy fun _ => ?_)
    refine unblocked_bindE unblocked_step fun _ => unblocked_bindE unblocked_step fun _ => ?_
    refine unblocked_bindE unblocked_step fun r => ?_
    rcases r with e | (metadata | -)
    · exact trivial
    · exact unblocked_authenticateByPrompt
    · exact unblocked_authenticateOnce
  · rcases result with (⟨status, hne⟩ | -) | status <;> exact ⟨_, _, rfl, trivial⟩

end

section

variable (decode : Bytes → Except String Response) (handle : Bool) (flags : UInt32)

/-- The call always ends, and success is earned in one of two ways; nothing is committed before the user agreed; a
panic is no success. -/
theorem pam_success_earned (q : Prog PamModule.Choice Session Int) (s : Session)
    (hsteps : Prog.Steps (fun _ => True) (pamSmAuthenticate decode handle flags) {} q s) :
    (pamSmAuthenticate decode handle flags).Unblocked ∧ Orderly s.log ∧ ∀ status, q = .done status →
      (status = pamSuccess → ∃ a : Admission, a.Confirmed flags s.log ∨ a.Unprompted s.log) ∧
        (.panicked ∈ s.log → status = pamAuthinfoUnavail) := by
  refine ⟨unblocked_pamSmAuthenticate, ?_⟩
  rcases steps_bind hsteps with ⟨p', hbody, rfl⟩ | ⟨result, t, hbody, hlast⟩
  · obtain ⟨hs, -⟩ := triple_authenticateUserWith.steps sound_start rfl hbody
    refine ⟨hs.orderly, fun status hstatus => ?_⟩
    cases p' <;> cases hstatus
  obtain ⟨ht, hresult⟩ := triple_authenticateUserWith.steps sound_start rfl hbody
  rcases steps_atomic hlast with ⟨rfl, rfl⟩ | ⟨c, status, -, hend, rfl⟩
  · exact ⟨ht.orderly, fun status hstatus => nomatch hstatus⟩
  have hdrop : Sound (t.dropPrompt decode c.env) := ht.dropPrompt c.env
  rcases result with (⟨status', hne⟩ | -) | status'
  · cases hend
    refine ⟨hdrop.orderly, fun status hstatus => ⟨fun hsuccess => ?_, fun hpanic => absurd hpanic hdrop.calm⟩⟩
    cases hstatus
    exact absurd hsuccess hne
  · cases hend
    refine ⟨hdrop.orderly.concat fun _ => nofun, fun status hstatus => ⟨fun hsuccess => ?_, fun _ => ?_⟩⟩
    · cases hstatus
      exact absurd hsuccess pamAuthinfoUnavail_ne
    · cases hstatus
      rfl
  · cases hend
    refine ⟨hdrop.orderly, fun status hstatus => ⟨fun hsuccess => ?_, fun hpanic => absurd hpanic hdrop.calm⟩⟩
    cases hstatus
    obtain ⟨a, hphase, hearned⟩ := hresult hsuccess
    rw [(dropPrompt_finished hphase).2]
    exact ⟨a, hearned⟩

end

def confirmedChoices : List PamModule.Choice :=
  [{ string := some (utf8Bytes "alice") }, { string := some (utf8Bytes "sudo") }, {},
    { nonce := some (.filled 32 7) }, {}, { env := { arrives := [0, 0, 0, 79] ++ samplePromptPayload } },
    { conv := some (some (0, some ⟨0, some (utf8Bytes "OK")⟩)) },
    { env := { arrives := [0, 0, 0, 2, 0x0a, 0] } }, {}, {}]

def confirmedCall : Option (Int × Session) := (pamSmAuthenticate sampleDecode true 0).run confirmedChoices {}

theorem pam_success_earned_confirmed : ∃ s, confirmedCall = some (pamSuccess, s) ∧ Orderly s.log ∧
    ∃ a : Admission, a.Confirmed 0 s.log ∨ a.Unprompted s.log := by
  have hsuccess : confirmedCall.map Prod.fst = some pamSuccess := by decide +kernel
  obtain ⟨⟨status, s⟩, hrun, rfl⟩ := Option.map_eq_some_iff.mp hsuccess
  obtain ⟨-, horderly, hearned⟩ :=
    pam_success_earned sampleDecode true 0 _ s (Prog.steps_of_run (fun _ _ => trivial) hrun)
  exact ⟨s, hrun, horderly, (hearned _ rfl).1 rfl⟩

/-- The Success that answers the Commit has no nonce to compare. -/
theorem pam_success_without_nonce : ∃ s, confirmedCall = some (pamSuccess, s) ∧
    s.log.getLast? = some (.received sampleSuccess) ∧ Response.clientNonce sampleSuccess = none := by
  have hsuccess : confirmedCall.map (fun x => (x.1, x.2.log.getLast?)) =
      some (pamSuccess, some (.received sampleSuccess)) := by decide +kernel
  obtain ⟨⟨status, s⟩, hrun, hs⟩ := Option.map_eq_some_iff.mp hsuccess
  obtain ⟨rfl, hlast⟩ := Prod.mk.inj hs
  exact ⟨s, hrun, hlast, rfl⟩

end Howy.Client.PamSuccess
