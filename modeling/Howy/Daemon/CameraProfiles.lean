import Howy.Library.Bytes
import Howy.Library.Runs

/-! The camera profile cache: one probe at a time, and tokens that name the profile they came with. -/

namespace Howy.Daemon.CameraProfiles

open Library

variable {P : Type}

inductive CameraProfileState (P : Type) where
  | idle (generation : UInt64)
  | probing (generation : UInt64)
  | ready (profile : P) (generation : UInt64)
  | failed (retryAt : ℕ) (generation : UInt64)
  | shutdown

inductive ProbeClaim where
  | ready
  | wait
  | start (generation : UInt64)
  | shutdown

structure ResolvedCameraProfile (P : Type) where
  profile : P
  token : UInt64

def cameraProfileRetryBackoff : ℕ := 100

def completeProbe (state : CameraProfileState P) (generation : UInt64) (result : Except String P) (now : ℕ) :
    CameraProfileState P :=
  match state with
  | .probing activeGeneration =>
    if activeGeneration ≠ generation then state
    else
      match result with
      | .ok profile => .ready profile generation
      | .error _ => .failed (now + cameraProfileRetryBackoff) generation
  | .idle _ | .ready _ _ | .failed _ _ | .shutdown => state

def claim (state : CameraProfileState P) (now : ℕ) : ProbeClaim × CameraProfileState P :=
  match state with
  | .ready _ _ => (.ready, state)
  | .idle generation => (.start generation, .probing generation)
  | .probing _ => (.wait, state)
  | .failed retryAt generation =>
    if retryAt ≤ now then
      if generation.toNat + 1 < 2 ^ 64 then (.start (generation + 1), .probing (generation + 1))
      else (.shutdown, .shutdown)
    else (.wait, state)
  | .shutdown => (.shutdown, state)

def readyProfile : CameraProfileState P → Option (ResolvedCameraProfile P)
  | .ready profile generation => some ⟨profile, generation⟩
  | _ => none

def invalidateIfCurrent (state : CameraProfileState P) (token : UInt64) (now : ℕ) : Bool × CameraProfileState P :=
  match state with
  | .ready _ generation => if generation = token then (true, .failed now generation) else (false, state)
  | _ => (false, state)

inductive Event (P : Type) where
  | claim (now : ℕ)
  | completeProbe (generation : UInt64) (result : Except String P) (now : ℕ)
  | readyProfile
  | invalidateIfCurrent (token : UInt64) (now : ℕ)
  | shutdown

inductive Answer (P : Type) where
  | claimed (claim : ProbeClaim)
  | resolved (profile : Option (ResolvedCameraProfile P))
  | invalidated (current : Bool)
  | done

def step (s : CameraProfileState P) : Event P → CameraProfileState P × Answer P
  | .claim now => ((claim s now).2, .claimed (claim s now).1)
  | .completeProbe generation result now => (completeProbe s generation result now, .done)
  | .readyProfile => (s, .resolved (readyProfile s))
  | .invalidateIfCurrent token now =>
    ((invalidateIfCurrent s token now).2, .invalidated (invalidateIfCurrent s token now).1)
  | .shutdown => (.shutdown, .done)

def initial : CameraProfileState P := .idle 0

def started : Event P × Answer P → Option UInt64
  | (_, .claimed (.start generation)) => some generation
  | _ => none

def spent : Event P × Answer P → Option UInt64
  | (.invalidateIfCurrent token _, .invalidated true) => some token
  | _ => none

/-- The stages of each generation in turn; every change of the state raises it. -/
def rank : CameraProfileState P → ℕ
  | .idle generation => 3 * generation.toNat
  | .probing generation => 3 * generation.toNat + 1
  | .ready _ generation => 3 * generation.toNat + 2
  | .failed _ generation => 3 * generation.toNat + 3
  | .shutdown => 3 * 2 ^ 64 + 1

inductive Moves (s : CameraProfileState P) : Event P × Answer P → CameraProfileState P → Prop
  | start {generation : UInt64} {now : ℕ} (h : rank s = 3 * generation.toNat) :
      Moves s (.claim now, .claimed (.start generation)) (.probing generation)
  | found {generation : UInt64} {profile : P} {now : ℕ} (h : s = .probing generation) :
      Moves s (.completeProbe generation (.ok profile) now, .done) (.ready profile generation)
  | missed {generation : UInt64} {error : String} {now retryAt : ℕ} (h : s = .probing generation) :
      Moves s (.completeProbe generation (.error error) now, .done) (.failed retryAt generation)
  | invalidate {generation : UInt64} {profile : P} {now : ℕ} (h : s = .ready profile generation) :
      Moves s (.invalidateIfCurrent generation now, .invalidated true) (.failed now generation)
  | close {x : Event P × Answer P} (hstart : started x = none) (hspent : spent x = none) : Moves s x .shutdown
  | stay {x : Event P × Answer P} (hstart : started x = none) (hspent : spent x = none)
      (h : ∀ generation result now, x.1 = .completeProbe generation result now →
        s ≠ .probing generation) : Moves s x s

lemma moves_step {s : CameraProfileState P} {e : Event P} : Moves s (e, (step s e).2) (step s e).1 := by
  cases e with
  | claim now =>
    cases s with
    | idle generation => exact .start rfl
    | failed retryAt generation =>
      rw [step, claim]
      split
      · split
        next hlt =>
          refine .start ?_
          exact congrArg (3 * ·) (Nat.mod_eq_of_lt hlt).symm
        · exact .close rfl rfl
      · exact .stay rfl rfl nofun
    | probing _ | ready _ _ | shutdown => exact .stay rfl rfl nofun
  | completeProbe generation result now =>
    cases s with
    | probing active =>
      simp only [step, completeProbe]
      split
      next hne =>
        refine .stay rfl rfl fun _ _ _ heq hs => hne ?_
        cases heq
        cases hs
        rfl
      next heq =>
        obtain rfl := not_not.mp heq
        cases result with
        | ok profile => exact .found rfl
        | error error => exact .missed rfl
    | idle _ | ready _ _ | failed _ _ | shutdown => exact .stay rfl rfl nofun
  | readyProfile => exact .stay rfl rfl nofun
  | invalidateIfCurrent token now =>
    cases s with
    | ready profile generation =>
      rw [step, invalidateIfCurrent]
      split
      next heq =>
        subst heq
        exact .invalidate rfl
      · exact .stay rfl rfl nofun
    | idle _ | probing _ | failed _ _ | shutdown => exact .stay rfl rfl nofun
  | shutdown => exact .close rfl rfl

variable {s s' : CameraProfileState P} {x : Event P × Answer P} {past : List (Event P × Answer P)}
  {events : List (Event P)} {generation token : UInt64} {profile profile' : P}

lemma rank_le : s = .shutdown ∨ rank s < rank (P := P) .shutdown := by
  cases s with
  | shutdown => exact .inl rfl
  | idle g | probing g | ready _ g | failed _ g =>
    have := g.toNat_lt
    simp only [rank]
    omega

lemma Moves.rank_lt (h : Moves s x s') : s' = s ∨ rank s < rank s' := by
  cases h with
  | start h =>
    rw [h]
    exact .inr (Nat.lt_succ_self _)
  | found h | missed h | invalidate h =>
    subst h
    simp only [rank]
    omega
  | close _ _ => exact rank_le.imp Eq.symm id
  | stay _ _ _ => exact .inl rfl

lemma rank_step (s : CameraProfileState P) (e : Event P) : (step s e).1 = s ∨ rank s < rank (step s e).1 :=
  moves_step.rank_lt

lemma Moves.started (h : Moves s x s') (hx : started x = some generation) :
    rank s = 3 * generation.toNat ∧ s' = .probing generation := by
  cases h with
  | start h =>
    cases hx
    exact ⟨h, rfl⟩
  | close hstart _ | stay hstart _ _ => cases hstart.symm.trans hx
  | found _ | missed _ | invalidate _ => cases hx

lemma Moves.spent (h : Moves s x s') (hx : spent x = some token) :
    (∃ profile, s = .ready profile token) ∧ rank s = 3 * token.toNat + 2 ∧ 3 * token.toNat + 2 < rank s' := by
  cases h with
  | invalidate h =>
    cases hx
    subst h
    exact ⟨⟨_, rfl⟩, rfl, Nat.lt_succ_self _⟩
  | close _ hspent | stay _ hspent _ => cases hspent.symm.trans hx
  | start _ | found _ | missed _ => cases hx

def Started (generation : UInt64) (past : List (Event P × Answer P)) : Prop :=
  ∃ before now during, past = before ++ (.claim now, .claimed (.start generation)) :: during ∧
    ∀ result now answer, (.completeProbe generation result now, answer) ∉ during

def Probed (generation : UInt64) (profile : P) (past : List (Event P × Answer P)) : Prop :=
  ∃ before now answer after, past = before ++ (.completeProbe generation (.ok profile) now, answer) :: after ∧
    Started generation before

def Backed (s : CameraProfileState P) (past : List (Event P × Answer P)) : Prop :=
  match s with
  | .probing generation => Started generation past
  | .ready profile generation => Probed generation profile past
  | .idle _ | .failed _ _ | .shutdown => True

lemma Moves.backed (h : Moves s x s') (hs : Backed s past) : Backed s' (past ++ [x]) := by
  cases h with
  | start _ => exact ⟨past, _, [], rfl, fun _ _ _ => List.not_mem_nil⟩
  | found h =>
    subst h
    exact ⟨past, _, _, [], rfl, hs⟩
  | missed _ | invalidate _ | close _ _ => trivial
  | stay _ _ hother =>
    cases s with
    | probing generation =>
      obtain ⟨before, now, during, rfl, hnone⟩ := hs
      refine ⟨before, now, during ++ [x], by simp, fun result now answer hmem => ?_⟩
      rcases List.mem_append.mp hmem with hmem | hmem
      · exact hnone result now answer hmem
      · exact hother generation result now (congrArg Prod.fst (List.mem_singleton.mp hmem)).symm rfl
    | ready profile generation =>
      obtain ⟨before, now, answer, after, rfl, hstarted⟩ := hs
      exact ⟨before, now, answer, after ++ [x], by simp, hstarted⟩
    | idle _ | failed _ _ | shutdown => trivial

lemma eq_ready_of_resolved
    (h : (.readyProfile, .resolved (some ⟨profile, token⟩)) ∈ trace step initial events)
    (hs : final step initial events = .ready profile' token) : profile' = profile := by
  obtain ⟨t, ht, -, hfinal⟩ := mem_trace_rank rank_step h
  cases t with
  | ready _ _ =>
    cases ht
    rw [hs] at hfinal
    rcases hfinal with heq | hlt
    · cases heq
      rfl
    · exact absurd hlt (Nat.lt_irrefl _)
  | idle _ | probing _ | failed _ _ | shutdown => cases ht

lemma not_probing_of_started (h : generation ∈ (trace step initial events).filterMap started)
    (hs : final step initial events ≠ .probing generation) {later : List (Event P)} :
    final step (final step initial events) later ≠ .probing generation := by
  obtain ⟨⟨e, a⟩, hx, hstart⟩ := List.mem_filterMap.mp h
  obtain ⟨t, rfl, -, hfinal⟩ := mem_trace_rank rank_step hx
  rw [(moves_step.started hstart).2] at hfinal
  have hlt := hfinal.resolve_left hs
  intro hprobing
  rcases final_rank rank_step (final step initial events) later with heq | hlt'
  · exact hs (heq.symm.trans hprobing)
  · rw [hprobing] at hlt'
    exact absurd hlt' (Nat.lt_asymm hlt)

lemma completeProbe_of_ne (h : s ≠ .probing generation) (result : Except String P) (now : ℕ) :
    completeProbe s generation result now = s := by
  cases s with
  | probing active => exact if_pos fun heq => h (congrArg _ heq)
  | idle _ | ready _ _ | failed _ _ | shutdown => rfl

end Howy.Daemon.CameraProfiles
