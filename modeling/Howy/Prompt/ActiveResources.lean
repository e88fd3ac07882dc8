import Howy.Library.Runs

/-! Cancellation of one active transaction and the resources its workers register, in any interleaving. -/

namespace Howy.Prompt.ActiveResources

open Library

variable {ρ : Type}

structure ActiveControl (ρ : Type) where
  cancelled : Bool
  resources : List ρ

inductive Call (ρ : Type) where
  | cancel
  | cancelling (resources : List ρ) (changed : Bool)
  | cancelReturned (changed : Bool)
  | registerResource (resource : ρ)
  | registering (resource : ρ) (cancelled : Bool)
  | registerReturned (resource : ρ)

/-- The next step of a call: what it leaves of the control, whom it signals, and where it then is. -/
def advance (control : ActiveControl ρ) : Call ρ → ActiveControl ρ × List ρ × Call ρ
  | .cancel => (⟨true, control.resources⟩, [], .cancelling control.resources !control.cancelled)
  | .cancelling (resource :: resources) changed => (control, [resource], .cancelling resources changed)
  | .cancelling [] changed => (control, [], .cancelReturned changed)
  | .registerResource resource =>
    if control.cancelled then (control, [], .registering resource true)
    else (⟨false, control.resources ++ [resource]⟩, [], .registering resource false)
  | .registering resource cancelled => (control, if cancelled then [resource] else [], .registerReturned resource)
  | call => (control, [], call)

structure World (ρ : Type) where
  control : ActiveControl ρ
  calls : List (Call ρ)
  signals : List (ℕ × ρ)

inductive Event (ρ : Type) where
  | cancel
  | registerResource (resource : ρ)
  | step (id : ℕ)

def invoke (w : World ρ) (call : Call ρ) : World ρ := { w with calls := w.calls ++ [call] }

def step (w : World ρ) : Event ρ → World ρ × Unit
  | .cancel => (invoke w .cancel, ())
  | .registerResource resource => (invoke w (.registerResource resource), ())
  | .step id =>
    match w.calls[id]? with
    | none => (w, ())
    | some call =>
      let (control, signalled, next) := advance w.control call
      (⟨control, w.calls.set id next, w.signals ++ signalled.map (id, ·)⟩, ())

def initial : World ρ := ⟨⟨false, []⟩, [], []⟩

def reached (events : List (Event ρ)) : World ρ := final step initial events

def At (w : World ρ) (id : ℕ) (call : Call ρ) : Prop := w.calls[id]? = some call

def Signalled (signals : List (ℕ × ρ)) (resource : ρ) : Prop := ∃ id, (id, resource) ∈ signals

def Kept (control : ActiveControl ρ) (signals : List (ℕ × ρ)) (id : ℕ) : Call ρ → Prop
  | .cancelling resources _ => control.cancelled = true ∧
      (∀ resource ∈ control.resources, resource ∈ resources ∨ Signalled signals resource) ∧
      resources.length ≤ control.resources.length
  | .cancelReturned _ => control.cancelled = true ∧ ∀ resource ∈ control.resources, Signalled signals resource
  | .registering resource cancelled => cancelled = true ∨ resource ∈ control.resources
  | .registerReturned resource => (id, resource) ∈ signals ∨ resource ∈ control.resources
  | .cancel | .registerResource _ => True

def Late (signals : List (ℕ × ρ)) (id : ℕ) : Call ρ → Prop
  | .registering _ cancelled => cancelled = true
  | .registerReturned resource => (id, resource) ∈ signals
  | _ => True

def chosen : Call ρ → Bool
  | .cancelling _ changed | .cancelReturned changed => changed
  | _ => false

def returnedTrue : Call ρ → Bool
  | .cancelReturned changed => changed
  | _ => false

def registered : Call ρ → Bool
  | .registering _ _ | .registerReturned _ => true
  | _ => false

structure Invariant (w : World ρ) : Prop where
  kept : ∀ id call, At w id call → Kept w.control w.signals id call
  sole : w.calls.countP chosen = w.control.cancelled.toNat
  resources_le : w.control.resources.length ≤ w.calls.countP registered

/-- The resource of a registration; a cancellation has none. -/
def request : Call ρ → Option ρ
  | .registerResource resource | .registering resource _ | .registerReturned resource => some resource
  | _ => none

/-- The steps a call still takes when at most `n` resources are ever registered. -/
def due (n : ℕ) : Call ρ → ℕ
  | .cancel => n + 2
  | .cancelling resources _ => resources.length + 1
  | .registerResource _ => 2
  | .registering _ _ => 1
  | .cancelReturned _ | .registerReturned _ => 0

def isStep (id : ℕ) : Event ρ → Bool
  | .step i => i == id
  | _ => false

def Returned : Call ρ → Prop
  | .cancelReturned _ | .registerReturned _ => True
  | _ => False

variable {w : World ρ}

lemma advance_grows {control : ActiveControl ρ} {call : Call ρ} :
    (control.cancelled → (advance control call).1 = control) ∧
      ∀ resource ∈ control.resources, resource ∈ (advance control call).1.resources := by
  fun_cases advance control call with
  | case1 => exact ⟨fun h => by rw [← h], fun _ h => h⟩
  | case5 _ h => exact ⟨fun h' => absurd h' h, fun _ => List.mem_append_left _⟩
  | _ => exact ⟨fun _ => rfl, fun _ h => h⟩

variable {e : Event ρ}

lemma calls_step {P : ActiveControl ρ → List (ℕ × ρ) → ℕ → Call ρ → Prop}
    (hframe : ∀ other signals id call, P w.control w.signals id call →
      P (advance w.control other).1 (w.signals ++ signals) id call)
    (hcancel : P w.control w.signals w.calls.length .cancel)
    (hregister : ∀ resource, P w.control w.signals w.calls.length (.registerResource resource))
    (hadvance : ∀ id call, P w.control w.signals id call → P (advance w.control call).1
      (w.signals ++ (advance w.control call).2.1.map (id, ·)) id (advance w.control call).2.2)
    (h : ∀ id call, At w id call → P w.control w.signals id call) :
    ∀ id call, At (step w e).1 id call → P (step w e).1.control (step w e).1.signals id call := by
  have hinvoke {fresh : Call ρ} (hf : P w.control w.signals w.calls.length fresh) (id : ℕ) (call : Call ρ)
      (hc : (w.calls ++ [fresh])[id]? = some call) : P w.control w.signals id call := by
    rw [List.getElem?_append] at hc
    split at hc
    · exact h id call hc
    · obtain ⟨hlt, rfl⟩ := List.getElem?_eq_some_iff.mp hc
      have hid : id = w.calls.length := by
        rw [List.length_singleton] at hlt
        omega
      simpa [hid] using hf
  cases e with
  | cancel => exact hinvoke hcancel
  | registerResource resource => exact hinvoke (hregister resource)
  | step i =>
    rw [step]
    split
    · exact h
    next call hcall =>
      intro id other hother
      rw [At, List.getElem?_set] at hother
      split at hother
      next hid =>
        obtain ⟨-, rfl⟩ : i < w.calls.length ∧ (advance w.control call).2.2 = other := by simpa using hother
        exact hid ▸ hadvance i call (h i call hcall)
      · exact hframe call _ id other (h id other hother)

lemma kept_step (h : ∀ id call, At w id call → Kept w.control w.signals id call) (e : Event ρ) :
    ∀ id call, At (step w e).1 id call → Kept (step w e).1.control (step w e).1.signals id call := by
  refine calls_step ?_ trivial (fun _ => trivial) ?_ h
  · intro other signals id call hk
    obtain ⟨hflag, hresources⟩ := advance_grows
    have hsignals (x : ℕ × ρ) (hx : x ∈ w.signals) : x ∈ w.signals ++ signals := List.mem_append_left _ hx
    cases call with
    | cancel | registerResource => trivial
    | cancelling resources changed =>
      rw [hflag hk.1]
      exact ⟨hk.1, fun r hr => (hk.2.1 r hr).imp_right fun ⟨id, hid⟩ => ⟨id, hsignals _ hid⟩, hk.2.2⟩
    | cancelReturned changed =>
      rw [hflag hk.1]
      exact ⟨hk.1, fun r hr => (hk.2 r hr).imp fun id hid => hsignals _ hid⟩
    | registering r cancelled => exact hk.imp_right (hresources r)
    | registerReturned r => exact hk.imp (hsignals _) (hresources r)
  · intro id call hk
    fun_cases advance w.control call with
    | case1 => exact ⟨rfl, fun r hr => .inl hr, Nat.le_refl _⟩
    | case2 r resources changed =>
      refine ⟨hk.1, fun x hx => ?_, Nat.le_of_succ_le hk.2.2⟩
      rcases hk.2.1 x hx with hx | ⟨id', hx⟩
      · rcases List.mem_cons.mp hx with rfl | hx
        · exact .inr ⟨id, List.mem_append_right _ (List.mem_singleton_self _)⟩
        · exact .inl hx
      · exact .inr ⟨id', List.mem_append_left _ hx⟩
    | case3 changed =>
      exact ⟨hk.1, fun x hx => ((hk.2.1 x hx).resolve_left List.not_mem_nil).imp fun _ => List.mem_append_left _⟩
    | case4 r hcancelled => exact .inl rfl
    | case5 r hcancelled => exact .inr (List.mem_append_right _ (List.mem_singleton_self r))
    | case6 r cancelled =>
      cases cancelled with
      | true => exact .inl (List.mem_append_right _ (List.mem_singleton_self _))
      | false => exact .inr (hk.resolve_left nofun)
    | case7 => simpa using hk

lemma late_step {n : ℕ} (hcancelled : w.control.cancelled)
    (h : ∀ id call, At w id call → n ≤ id → Late w.signals id call) :
    ∀ id call, At (step w e).1 id call → n ≤ id → Late (step w e).1.signals id call := by
  refine calls_step (P := fun _ signals id call => n ≤ id → Late signals id call) ?_ (fun _ => trivial)
    (fun _ _ => trivial) ?_ h
  · intro other signals id call hl hn
    cases call with
    | registering => exact hl hn
    | registerReturned => exact List.mem_append_left _ (hl hn)
    | _ => trivial
  · intro id call hl hn
    have hl := hl hn
    fun_cases advance w.control call with
    | case5 r hnot => exact absurd hcancelled hnot
    | case6 r cancelled =>
      obtain rfl : cancelled := hl
      exact List.mem_append_right _ (List.mem_singleton_self _)
    | case7 => simpa using hl
    | case4 => exact rfl
    | _ => trivial

lemma countP_advance (p : Call ρ → Bool) {i : ℕ} (hi : i < w.calls.length) :
    (w.calls.set i (advance w.control w.calls[i]).2.2).countP p + (p w.calls[i]).toNat =
      w.calls.countP p + (p (advance w.control w.calls[i]).2.2).toNat := by
  have hle : (p w.calls[i]).toNat ≤ w.calls.countP p := by
    cases hp : p w.calls[i] with
    | false => exact Nat.zero_le _
    | true => exact List.countP_pos_iff.mpr ⟨_, List.getElem_mem hi, hp⟩
  have hif (b : Bool) : (if b = true then 1 else 0) = b.toNat := by cases b <;> rfl
  rw [List.countP_set hi, hif, hif]
  omega

lemma counts_advance (control : ActiveControl ρ) (call : Call ρ) :
    (chosen (advance control call).2.2).toNat + control.cancelled.toNat =
        (chosen call).toNat + (advance control call).1.cancelled.toNat ∧
      (registered call).toNat + (advance control call).1.resources.length ≤
        (registered (advance control call).2.2).toNat + control.resources.length := by
  fun_cases advance control call with
  | case1 => cases h : control.cancelled <;> exact ⟨rfl, Nat.le_refl _⟩
  | case4 => exact ⟨rfl, by simp [registered]⟩
  | case5 r h => simp_all [chosen, registered, Nat.add_comm]
  | _ => exact ⟨rfl, Nat.le_refl _⟩

lemma counts_step (hsole : w.calls.countP chosen = w.control.cancelled.toNat)
    (hresources : w.control.resources.length ≤ w.calls.countP registered) :
    (step w e).1.calls.countP chosen = (step w e).1.control.cancelled.toNat ∧
      (step w e).1.control.resources.length ≤ (step w e).1.calls.countP registered := by
  cases e with
  | cancel | registerResource =>
    simpa [step, invoke, List.countP_append, chosen, registered] using ⟨hsole, hresources⟩
  | step i =>
    rw [step]
    split
    · exact ⟨hsole, hresources⟩
    next hcall =>
      obtain ⟨hi, rfl⟩ := List.getElem?_eq_some_iff.mp hcall
      obtain ⟨hchosen, hregistered⟩ := counts_advance w.control w.calls[i]
      have hsum := countP_advance chosen hi
      have hsum' := countP_advance registered hi
      constructor
      · change (w.calls.set i (advance w.control w.calls[i]).2.2).countP chosen =
          (advance w.control w.calls[i]).1.cancelled.toNat
        omega
      · change (advance w.control w.calls[i]).1.resources.length ≤
          (w.calls.set i (advance w.control w.calls[i]).2.2).countP registered
        omega

lemma cancelled_step (h : w.control.cancelled) : (step w e).1.control.cancelled := by
  cases e with
  | cancel | registerResource => exact h
  | step i =>
    simp only [step]
    split
    · exact h
    · rw [advance_grows.1 h, h]

lemma invariant_step (h : Invariant w) (e : Event ρ) : Invariant (step w e).1 :=
  have hcounts := counts_step h.sole h.resources_le
  ⟨kept_step h.kept e, hcounts.1, hcounts.2⟩

lemma invariant_reached (events : List (Event ρ)) : Invariant (reached events) := by
  refine final_invariant (fun w e h => (invariant_step h e : Invariant (step w e).1)) ?_ events
  exact ⟨nofun, rfl, Nat.le_refl _⟩

lemma length_calls_step : w.calls.length ≤ (step w e).1.calls.length := by
  cases e with
  | cancel | registerResource => simp [step, invoke]
  | step i =>
    simp only [step]
    split
    · exact Nat.le_refl _
    · exact Nat.le_of_eq (List.length_set ..).symm

lemma length_calls_final (later : List (Event ρ)) : w.calls.length ≤ (final step w later).calls.length :=
  @final_invariant _ _ _ _ (fun v => w.calls.length ≤ v.calls.length)
    (fun _ _ h => Nat.le_trans h length_calls_step) w (Nat.le_refl _) later

variable {n id : ℕ} {call : Call ρ}

lemma due_advance {control : ActiveControl ρ} (hn : control.resources.length ≤ n) :
    request (advance control call).2.2 = request call ∧ due n (advance control call).2.2 ≤ due n call - 1 := by
  fun_cases advance control call with
  | case1 => exact ⟨rfl, Nat.succ_le_succ hn⟩
  | case7 call h1 h2 h3 h4 h5 =>
    cases call with
    | cancelReturned | registerReturned => exact ⟨rfl, Nat.le_refl _⟩
    | cancel => exact absurd rfl h1
    | cancelling resources changed => cases resources with
      | nil => exact absurd rfl (h3 changed)
      | cons r rs => exact absurd rfl (h2 r rs changed)
    | registerResource r => exact absurd rfl (h4 r)
    | registering r cancelled => exact absurd rfl (h5 r cancelled)
  | _ => exact ⟨rfl, Nat.le_refl _⟩

lemma due_step (h : At w id call) (hn : w.control.resources.length ≤ n) :
    ∃ next, At (step w e).1 id next ∧ request next = request call ∧
      due n next ≤ due n call - (isStep id e).toNat := by
  cases e with
  | cancel | registerResource =>
    refine ⟨call, ?_, rfl, Nat.le_refl _⟩
    obtain ⟨hid, rfl⟩ := List.getElem?_eq_some_iff.mp h
    exact (List.getElem?_append_left hid).trans h
  | step i =>
    by_cases hi : i = id
    · subst hi
      obtain ⟨hlt, -⟩ := List.getElem?_eq_some_iff.mp h
      have hat : w.calls[i]? = some call := h
      refine ⟨(advance w.control call).2.2, ?_, ?_⟩
      · simp only [At, step, hat]
        exact List.getElem?_set_self hlt
      · simpa [isStep] using due_advance hn
    · refine ⟨call, ?_, rfl, by simp [isStep, beq_false_of_ne hi]⟩
      simp only [At, step]
      split
      · exact h
      · exact (List.getElem?_set_ne hi).trans h

/-- Whatever else runs between them, a call's own steps bring it to its return. -/
lemma due_final (later : List (Event ρ)) (hw : Invariant w) (h : At w id call)
    (hn : (final step w later).calls.length ≤ n) :
    ∃ next, At (final step w later) id next ∧ request next = request call ∧
      due n next ≤ due n call - later.countP (isStep id) := by
  induction later generalizing w call with
  | nil => exact ⟨call, h, rfl, Nat.le_refl _⟩
  | cons e later ih =>
    have hresources : w.control.resources.length ≤ n := by
      have hall := length_calls_final (w := w) (e :: later)
      have hcalls := Nat.le_trans hw.resources_le List.countP_le_length
      omega
    obtain ⟨next, hnext, hrequest, hdue⟩ := due_step (e := e) h hresources
    obtain ⟨last, hlast, hrequest', hdue'⟩ := ih (invariant_step hw e) hnext hn
    refine ⟨last, hlast, hrequest'.trans hrequest, ?_⟩
    have hcount : (e :: later).countP (isStep id) = later.countP (isStep id) + (isStep id e).toNat := by
      rw [List.countP_cons]
      cases isStep id e <;> rfl
    omega

lemma returned_of_due (h : due n call = 0) : Returned call := by
  cases call with
  | cancelReturned | registerReturned => trivial
  | _ => cases h

lemma returned_reached {events later : List (Event ρ)} (h : At (reached events) id call)
    (hsteps : (reached (events ++ later)).calls.length + 2 ≤ later.countP (isStep id)) :
    ∃ next, At (reached (events ++ later)) id next ∧ request next = request call ∧ Returned next := by
  have hw := invariant_reached events
  have hlater : reached (events ++ later) = final step (reached events) later := final_append _ _ _ _
  rw [hlater] at hsteps ⊢
  have hdue : due (final step (reached events) later).calls.length call ≤
      (final step (reached events) later).calls.length + 2 := by
    have hcalls := length_calls_final (w := reached events) later
    have hresources := Nat.le_trans hw.resources_le List.countP_le_length
    cases call with
    | cancelling resources changed =>
      have hkept := (hw.kept _ _ h).2.2
      change resources.length + 1 ≤ _
      omega
    | _ => simp only [due]; omega
  obtain ⟨next, hnext, hrequest, hle⟩ := due_final later hw h (Nat.le_refl _)
  have hzero : due (final step (reached events) later).calls.length next = 0 := by omega
  exact ⟨next, hnext, hrequest, returned_of_due hzero⟩

lemma sole_returned {changed : Bool} (hw : Invariant w)
    (hdone : ∀ id, ¬ At w id .cancel ∧ ∀ resources changed, ¬ At w id (.cancelling resources changed))
    (h : At w id (.cancelReturned changed)) : w.calls.countP returnedTrue = 1 := by
  have hsame : w.calls.countP returnedTrue = w.calls.countP chosen := by
    refine List.countP_congr fun call hc => ?_
    obtain ⟨id, hid⟩ := List.mem_iff_getElem?.mp hc
    cases call with
    | cancelling resources changed => exact absurd hid ((hdone id).2 resources changed)
    | _ => exact Iff.rfl
  rw [hsame, hw.sole, (hw.kept id _ h).1]
  rfl

lemma signalled_returned {id' : ℕ} {changed : Bool} {resource : ρ} (hw : Invariant w)
    (h : At w id (.cancelReturned changed)) (hresource : At w id' (.registerReturned resource)) :
    Signalled w.signals resource := by
  rcases hw.kept id' _ hresource with hsignal | hkept
  · exact ⟨id', hsignal⟩
  · exact (hw.kept id _ h).2 resource hkept

/-- For every interleaving of calls: the flag stays, one cancellation at most returns `true` and exactly one does
when all that began have returned, and a returned cancellation leaves no registered resource without a signal. A
call that takes enough steps returns, whatever runs between them, and once all calls took enough every resource has
its signal. -/
theorem active_cancellation_reaches_resources (events : List (Event ρ)) :
    let w := reached events
    (w.control.cancelled = true → ∀ later, (reached (events ++ later)).control.cancelled = true) ∧
    w.calls.countP returnedTrue ≤ 1 ∧
    ((∀ id, ¬ At w id .cancel ∧ ∀ resources changed, ¬ At w id (.cancelling resources changed)) →
      (∃ id changed, At w id (.cancelReturned changed)) → w.calls.countP returnedTrue = 1) ∧
    ((∃ id changed, At w id (.cancelReturned changed)) →
      (∀ id resource, At w id (.registerReturned resource) → Signalled w.signals resource) ∧
      ∀ resource later, let w' := reached (events ++ .registerResource resource :: later)
        At w' w.calls.length (.registerReturned resource) → (w.calls.length, resource) ∈ w'.signals) ∧
    ∀ later, let w' := reached (events ++ later)
      (∀ id call, At w id call → w'.calls.length + 2 ≤ later.countP (isStep id) →
        ∃ next, At w' id next ∧ request next = request call ∧ Returned next) ∧
      (w'.calls.length = w.calls.length → (∀ id < w.calls.length, w.calls.length + 2 ≤ later.countP (isStep id)) →
        ∀ id call, At w id call → request call = none → w'.calls.countP returnedTrue = 1 ∧
          ∀ id call resource, At w id call → request call = some resource → Signalled w'.signals resource) := by
  intro w
  have hw := invariant_reached events
  have hmono : w.calls.countP returnedTrue ≤ w.calls.countP chosen :=
    List.countP_mono_left fun call _ h => by cases call <;> first | exact h | cases h
  refine ⟨fun h later => ?_, ?_, fun hdone ⟨id, changed, hid⟩ => sole_returned hw hdone hid,
    fun ⟨id, changed, hid⟩ => ⟨fun id' r hr => signalled_returned hw hid hr, ?_⟩, ?_⟩
  · rw [reached, final_append]
    exact final_invariant (fun w e h => cancelled_step (w := w) h) h later
  · rw [hw.sole] at hmono
    exact Nat.le_trans hmono (Bool.toNat_le _)
  · intro r later w' hreturned
    have hw' : w' = final step w (.registerResource r :: later) := final_append _ _ _ _
    rw [hw'] at hreturned ⊢
    refine (@final_invariant _ _ _ _ (fun v : World ρ => v.control.cancelled = true ∧
      ∀ id call, At v id call → w.calls.length ≤ id → Late v.signals id call)
      (fun v e h => ⟨cancelled_step h.1, late_step h.1 h.2⟩) w ⟨(hw.kept id _ hid).1, fun id call hc hle => ?_⟩
      (.registerResource r :: later)).2 _ _ hreturned (Nat.le_refl _)
    obtain ⟨hlt, -⟩ := List.getElem?_eq_some_iff.mp hc
    omega
  · intro later w'
    refine ⟨fun id call h hsteps => returned_reached h hsteps, fun hlength hsteps id call hid hnone => ?_⟩
    have hreturned (id : ℕ) (call : Call ρ) (h : At w id call) :
        ∃ next, At w' id next ∧ request next = request call ∧ Returned next := by
      obtain ⟨hlt, -⟩ := List.getElem?_eq_some_iff.mp h
      exact returned_reached h (hlength ▸ hsteps id hlt)
    have hw' : Invariant w' := invariant_reached _
    obtain ⟨changed, hcancel⟩ : ∃ changed, At w' id (.cancelReturned changed) := by
      obtain ⟨next, hnext, hrequest, hdone⟩ := hreturned id call hid
      cases next with
      | cancelReturned changed => exact ⟨changed, hnext⟩
      | registerReturned => cases hrequest.trans hnone
      | _ => cases hdone
    refine ⟨sole_returned hw' (fun id' => ?_) hcancel, fun id' call' r hcall hr => ?_⟩
    · have hall (call' : Call ρ) (h : At w' id' call') : Returned call' := by
        obtain ⟨hlt, -⟩ := List.getElem?_eq_some_iff.mp h
        obtain ⟨next, hnext, -, hdone⟩ := hreturned id' _ (List.getElem?_eq_getElem (hlength ▸ hlt))
        cases Option.some.inj (hnext.symm.trans h)
        exact hdone
      exact ⟨hall _, fun _ _ => hall _⟩
    · obtain ⟨next, hnext, hrequest, hdone⟩ := hreturned id' call' hcall
      cases next with
      | registerReturned r' =>
        cases Option.some.inj (hrequest.trans hr)
        exact signalled_returned hw' hcancel hnext
      | cancelReturned => cases hrequest.trans hr
      | _ => cases hdone

/-- Two cancellations race with two registrations, one of them before the flag is set and one after. -/
def sampleEvents : List (Event ℕ) := [.registerResource 7, .cancel, .cancel, .step 0, .registerResource 8, .step 2]

def sampleLater : List (Event ℕ) := (List.replicate 6 [3, 1, 0, 2]).flatten.map .step

theorem active_cancellation_reaches_resources_sample :
    (reached (sampleEvents ++ sampleLater)).calls.countP returnedTrue = 1 ∧
      Signalled (reached (sampleEvents ++ sampleLater)).signals 7 ∧
      Signalled (reached (sampleEvents ++ sampleLater)).signals 8 := by
  obtain ⟨-, -, -, -, hlater⟩ := active_cancellation_reaches_resources sampleEvents
  have hsteps : ∀ id < 4, 6 ≤ sampleLater.countP (isStep id) := by decide
  obtain ⟨hsole, hsignalled⟩ := (hlater sampleLater).2 rfl hsteps 1 .cancel rfl rfl
  exact ⟨hsole, hsignalled 0 _ 7 rfl rfl, hsignalled 3 _ 8 rfl rfl⟩

end Howy.Prompt.ActiveResources
