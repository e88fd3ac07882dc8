import Howy.Prompt.Worlds

namespace Howy.Prompt

variable {m : ManagerInner} {w w' : World}

lemma locked_ok {α : Type} {f : ManagerState → Outcome α} {a : α} (h : locked w f = (.ok a, w')) :
    w.poisoned = false ∧ w.state.terminal = false ∧ (f w.state).1 = .ok a ∧
      w' = { w with state := (f w.state).2 } := by
  rcases locked_cases f with ⟨-, hl⟩ | ⟨-, -, hl⟩ | ⟨hp, ht, hl⟩
  · rw [hl] at h
    cases h
  · rw [hl] at h
    cases h
  · rw [hl, Prod.mk.injEq] at h
    exact ⟨hp, ht, h.1, h.2.symm⟩

inductive Answer : Event → Response → Prop where
  | connection (id) : Answer .newConnection (.connection id)
  | reserved (c u t h) : Answer (.reserveBegin c u t) (.reserved h)
  | issued (h b k t) : Answer (.issue h b) (.issued k t)
  | activated (h u n d) : Answer (.activate h u n) (.activated d)
  | claimed (h t n p q i k j) : Answer (.claimCommit h t n p q i) (.claimed k j)
  | cancelled (h t n p q i) : Answer (.cancel h t n p q i) .cancelled
  | promoted (h b n k j) : Answer (.promote h b n) (.promoted k j)
  | done (e) : Answer e .done
  | refused (e x) : Answer e (.refused x)
  | noHandle (e) : Answer e .noHandle

lemma promoted_inv (hi : Invariant m w) {handle : ℕ} {binding : CommitBinding} {now : Instant} {k id : ℕ}
    (h : (step m w (.promote handle binding now)).2 = .promoted k id) :
    ∃ claim s', w.handles.lookup handle = some (.claim claim) ∧ claim.activeId = id ∧ k = w.nextHandle ∧
      PromotionChecked (w.controls.lookup id) claim binding now ∧
      (step m w (.promote handle binding now)).1 =
        addHandle { consume w handle with state := s' } (.lease id) := by
  simp only [step, stepPromote] at h ⊢
  split at h
  next claim hx =>
    split at h
    next hl =>
      cases h
      obtain ⟨-, ht, hok, rfl⟩ := locked_ok hl
      obtain ⟨l, hlive⟩ := (hi.owned ht).live handle _ hx
      rcases promoteClaim_cases hi.sound hlive with
        ⟨e, hr⟩ | ⟨s', hr, -, hc, -⟩
      · rw [show (consume w handle).state = w.state from rfl, hr] at hok
        cases hok
      · exact ⟨claim, _, hx, rfl, rfl, hc, rfl⟩
    · cases h
  · cases h

end Howy.Prompt
