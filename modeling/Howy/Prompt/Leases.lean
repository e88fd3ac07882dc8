import Howy.Prompt.Shutdown

namespace Howy.Prompt.Leases

open Library Storage Accounting

def Granted (w : World) (past : List (Event × Response)) : Prop :=
  ∀ e h id, (e, Response.promoted h id) ∈ past → ∃ c, w.controls.lookup id = some c

variable {m : ManagerInner} {w w' : World} {e : Event}

def Keeps (w w' : World) : Prop := ∀ id c, w.controls.lookup id = some c → ∃ c', w'.controls.lookup id = some c'

lemma keeps_step (hi : Invariant m w) : Keeps w (step m w e).1 := (stepped hi e).follows.keeps

lemma granted_of_promoted (hi : Invariant m w) {h id : ℕ} (he : (step m w e).2 = .promoted h id) :
    ∃ c, w.controls.lookup id = some c := by
  have ha := (stepped hi e).answer
  rw [he] at ha
  cases ha with
  | promoted handle binding now =>
    obtain ⟨claim, s', -, -, -, hc, -⟩ := promoted_inv hi he
    obtain ⟨c, hc, -⟩ := hc.control
    exact ⟨c, hc⟩

structure Tracked (m : ManagerInner) (w : World) (past : List (Event × Response)) : Prop where
  invariant : Invariant m w
  covered : Covered w
  granted : Granted w past

lemma tracked_reachable (m : ManagerInner) (entropy : Entropy) (secret : InstanceSecret) (counter : ℕ)
    (events : List Event) : Tracked m (reached m (initial entropy secret counter) events)
      (answers m (initial entropy secret counter) events) := by
  have hstep : ∀ w past e, Tracked m w past → Tracked m (step m w e).1 (past ++ [(e, (step m w e).2)]) := by
    intro w past e hw
    have hf := (stepped hw.invariant e).follows
    refine ⟨hf.invariant, hf.covered hw.covered, ?_⟩
    intro e' h id hmem
    have hcontrol : ∃ c, w.controls.lookup id = some c := by
      rcases List.mem_append.mp hmem with hold | hnew
      · exact hw.granted e' h id hold
      · rw [List.mem_singleton, Prod.mk.injEq] at hnew
        exact granted_of_promoted hw.invariant hnew.2.symm
    obtain ⟨c, hc⟩ := hcontrol
    exact keeps_step hw.invariant id c hc
  refine history_invariant hstep ⟨invariant_initial, ?_, ?_⟩ events
  · intro id c hc
    exact absurd hc (by simp [initial])
  · intro e h id hmem
    cases hmem

def sumHash : Sha256 := fun input =>
  .filled 32 (UInt8.ofNat (input.foldl (fun total b => total + b.toNat) 0))

def sampleManager : ManagerInner where
  sha256 := sumHash
  promptTimeout := 10
  activeTimeout := 20
  commitToCameraTimeout := 5
  maxPendingPerUid := 1
  maxPendingGlobal := 2
  maxActive := 1
  lastInstant := 1000
  timeouts_pos := by decide
  maxPendingPerUid_pos := by decide
  maxPendingPerUid_le := by decide
  maxActive_pos := by decide

def sampleStart : World :=
  initial ⟨fun n => some (.filled 32 (UInt8.ofNat (n + 1))), 0⟩ (.filled 32 7) 0

def sampleSnapshot : SecuritySnapshot :=
  ⟨.filled 32 1, ⟨.ready, .absent, .filled 32 2, .filled 32 3⟩⟩

def sampleCommit : CommitBinding := ⟨1, 1000, ⟨"alice", 1000⟩, "sudo", .local_, sampleSnapshot⟩

def sampleClaimed : List Event :=
  [.newConnection, .reserveBegin 1 1000 ⟨"alice", 1000⟩,
    .issue 0 ⟨1, 1000, ⟨"alice", 1000⟩, .filled 32 9, "sudo", .local_, sampleSnapshot⟩,
    .activate 1 none 0, .claimCommit 1 (.filled 32 22) (.filled 32 9) 1000 1000 3]

theorem prompt_manager_fails_closed (m : ManagerInner) (entropy : Entropy) (secret : InstanceSecret) (counter : ℕ)
    (events : List Event) (h : FailedClosed m (initial entropy secret counter) events) :
    let w := reached m (initial entropy secret counter) events
    Empty w.state ∧
    (∀ e, Request w e → (step m w e).2 = .refused .unavailable) ∧
    (∀ k, (step m w (.drop k)).1.state = w.state) ∧
    (w.cleanups = [] → ∀ e k id, (e, Response.promoted k id) ∈ answers m (initial entropy secret counter) events →
      ∃ c, w.controls.lookup id = some c ∧ c.cancelled = true) := by
  have ht := terminal_of_failedClosed h
  have hw := tracked_reachable m entropy secret counter events
  have he := hw.invariant.closed ht
  refine ⟨he, fun e => refused_of_closed ht, fun k => (stepped hw.invariant _).follows.closed ht, ?_⟩
  intro hclean e k id hmem
  obtain ⟨c, hc⟩ := hw.granted e k id hmem
  refine ⟨c, hc, ?_⟩
  rcases hw.covered id c hc with hcancelled | ha | ⟨_, hk, -⟩
  · exact hcancelled
  · rw [he.active] at ha
    exact absurd ha (AList.notMem_empty id)
  · rw [hclean] at hk
    cases hk

theorem prompt_manager_fails_closed_after_promotion :
    let events := sampleClaimed ++ [.promote 2 sampleCommit 4, .shutdown, .finishCleanup]
    (.promote 2 sampleCommit 4, .promoted 3 1) ∈ answers sampleManager sampleStart events ∧
      ∃ c, (reached sampleManager sampleStart events).controls.lookup 1 = some c ∧ c.cancelled = true := by
  have hmem : (.promote 2 sampleCommit 4, .promoted 3 1) ∈ answers sampleManager sampleStart
      (sampleClaimed ++ [.promote 2 sampleCommit 4, .shutdown, .finishCleanup]) := by decide +kernel
  have hclean : (reached sampleManager sampleStart
      (sampleClaimed ++ [.promote 2 sampleCommit 4, .shutdown, .finishCleanup])).cleanups = [] := by decide +kernel
  have hclosed : FailedClosed sampleManager sampleStart
      (sampleClaimed ++ [.promote 2 sampleCommit 4, .shutdown, .finishCleanup]) :=
    ⟨sampleClaimed ++ [.promote 2 sampleCommit 4], .shutdown, [.finishCleanup], rfl, .inl rfl⟩
  exact ⟨hmem, (prompt_manager_fails_closed sampleManager _ _ 0 _ hclosed).2.2.2 hclean _ _ _ hmem⟩

end Howy.Prompt.Leases
