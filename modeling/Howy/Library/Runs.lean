import Mathlib.Data.List.Induction

/-! Runs of a state machine that answers every event, and the two inductions used on them. -/

namespace Howy.Library

variable {S E R : Type} (step : S → E → S × R)

def final : S → List E → S
  | s, [] => s
  | s, e :: es => final (step s e).1 es

def trace : S → List E → List (E × R)
  | _, [] => []
  | s, e :: es => (e, (step s e).2) :: trace (step s e).1 es

lemma final_append (s : S) (es fs : List E) : final step s (es ++ fs) = final step (final step s es) fs := by
  induction es generalizing s with
  | nil => rfl
  | cons e es ih => exact ih _

lemma trace_append (s : S) (es fs : List E) :
    trace step s (es ++ fs) = trace step s es ++ trace step (final step s es) fs := by
  induction es generalizing s with
  | nil => rfl
  | cons e es ih =>
    rw [List.cons_append, trace, trace, ih]
    rfl

lemma map_fst_trace (s : S) (es : List E) : (trace step s es).map Prod.fst = es := by
  induction es generalizing s with
  | nil => rfl
  | cons e es ih => rw [trace, List.map_cons, ih]

variable {step}

lemma final_invariant {inv : S → Prop} (hstep : ∀ s e, inv s → inv (step s e).1) {s : S} (h : inv s)
    (es : List E) : inv (final step s es) := by
  induction es generalizing s with
  | nil => exact h
  | cons e es ih => exact ih (hstep s e h)

lemma history_invariant {inv : S → List (E × R) → Prop}
    (hstep : ∀ s past e, inv s past → inv (step s e).1 (past ++ [(e, (step s e).2)])) {s : S}
    (h : inv s []) (es : List E) : inv (final step s es) (trace step s es) := by
  induction es using List.reverseRecOn with
  | nil => exact h
  | append_singleton es e ih =>
    rw [final_append, trace_append]
    exact hstep _ _ e ih

lemma trace_split {s : S} {es : List E} {front back : List (E × R)} {x : E × R}
    (h : trace step s es = front ++ x :: back) :
    front = trace step s (front.map Prod.fst) ∧ x.2 = (step (final step s (front.map Prod.fst)) x.1).2 ∧
      es = front.map Prod.fst ++ x.1 :: back.map Prod.fst := by
  induction front generalizing s es with
  | nil =>
    cases es with
    | nil => cases h
    | cons e es =>
      obtain ⟨rfl, rfl⟩ := h
      refine ⟨rfl, rfl, ?_⟩
      simp [map_fst_trace]
  | cons y front ih =>
    cases es with
    | nil => cases h
    | cons e es =>
      rw [trace, List.cons_append, List.cons.injEq] at h
      obtain ⟨rfl, h⟩ := h
      obtain ⟨hf, hx, hes⟩ := ih h
      refine ⟨?_, hx, ?_⟩
      · rw [List.map_cons, trace, ← hf]
      · rw [List.map_cons, List.cons_append, ← hes]

section

variable {rank : S → ℕ} (hstep : ∀ s e, (step s e).1 = s ∨ rank s < rank (step s e).1)

include hstep

lemma final_rank (s : S) (es : List E) : final step s es = s ∨ rank s < rank (final step s es) := by
  induction es generalizing s with
  | nil => exact .inl rfl
  | cons e es ih =>
    rcases hstep s e with hs | hs
    · rw [final, hs]
      exact ih s
    · right
      rcases ih (step s e).1 with h | h
      · rwa [final, h]
      · exact Nat.lt_trans hs h

lemma mem_trace_rank {s : S} {es : List E} {e : E} {r : R} (h : (e, r) ∈ trace step s es) :
    ∃ t, r = (step t e).2 ∧ rank s ≤ rank t ∧
      (final step s es = (step t e).1 ∨ rank (step t e).1 < rank (final step s es)) := by
  induction es generalizing s with
  | nil => cases h
  | cons e' es ih =>
    cases h with
    | head => exact ⟨s, rfl, Nat.le_refl _, final_rank hstep _ es⟩
    | tail _ h =>
      obtain ⟨t, ht, hle, hfinal⟩ := ih h
      refine ⟨t, ht, Nat.le_trans ?_ hle, hfinal⟩
      exact (hstep s e').elim (fun h => Nat.le_of_eq (congrArg rank h.symm)) Nat.le_of_lt

lemma nodup_marks {γ : Type} {mark : E × R → Option γ} (key : γ → ℕ)
    (hmark : ∀ s e g, mark (e, (step s e).2) = some g → rank s = key g ∧ key g < rank (step s e).1) (s : S)
    (es : List E) : ((trace step s es).filterMap mark).Nodup := by
  induction es generalizing s with
  | nil => exact List.nodup_nil
  | cons e es ih =>
    rw [trace, List.filterMap_cons]
    split
    · exact ih _
    rename_i g hg
    refine List.nodup_cons.mpr ⟨fun hmem => ?_, ih _⟩
    obtain ⟨⟨e', r⟩, hx, hg'⟩ := List.mem_filterMap.mp hmem
    obtain ⟨t, rfl, hle, -⟩ := mem_trace_rank hstep hx
    have := hmark s e g hg
    have := hmark t e' g hg'
    omega

end

end Howy.Library
