import Howy.Storage.Cache

namespace Howy.Storage

open Library

structure Shrinks (s s' : CacheState) : Prop where
  revision : s.revision ≤ s'.revision
  entries : ∀ u e', s'.entries.lookup u = some e' → ∃ e, s.entries.lookup u = some e ∧ e.model = e'.model

variable {s s' s'' : CacheState} {u v : CanonicalUsername} {model : AuthModel}
  {protected_ : Option CanonicalUsername} {limits : ModelCacheLimits} {available : ℕ}

lemma Shrinks.refl (s : CacheState) : Shrinks s s := ⟨le_rfl, fun _ e h => ⟨e, h, rfl⟩⟩

lemma Shrinks.trans (h : Shrinks s s') (h' : Shrinks s' s'') : Shrinks s s'' where
  revision := h.revision.trans h'.revision
  entries u e'' he'' := by
    obtain ⟨e', he', hm'⟩ := h'.entries u e'' he''
    obtain ⟨e, he, hm⟩ := h.entries u e' he'
    exact ⟨e, he, hm.trans hm'⟩

lemma dlookup_map_lastUsed (l : List ((_ : CanonicalUsername) × CacheEntry)) (u : CanonicalUsername) :
    List.dlookup u (l.map fun e => (⟨e.1, { e.2 with lastUsed := 0 }⟩ : (_ : CanonicalUsername) × CacheEntry)) =
      (List.dlookup u l).map fun e => { e with lastUsed := 0 } := by
  induction l with
  | nil => rfl
  | cons e l ih =>
    obtain ⟨v, e⟩ := e
    by_cases h : v = u
    · subst h
      rw [List.map_cons, List.dlookup_cons_eq, List.dlookup_cons_eq]
      rfl
    · rw [List.map_cons, List.dlookup_cons_ne _ _ (Ne.symm h), List.dlookup_cons_ne _ _ (Ne.symm h), ih]

lemma revision_nextClock (s : CacheState) : s.nextClock.revision = s.revision := by
  rw [CacheState.nextClock]
  split <;> rfl

lemma remove_eq_some (h : s.remove u = some s') :
    Shrinks s s' ∧ s'.entries.lookup u = none ∧ s'.revision = s.revision + 1 := by
  rw [CacheState.remove] at h
  split at h
  · cases h
  cases h
  refine ⟨⟨Nat.le_succ _, fun v e' he' => ?_⟩, AList.lookup_erase _ _, rfl⟩
  exact ⟨e', (lookup_of_erase he').1, rfl⟩

lemma remove_eq_none (h : s.remove u = none) : s.entries.lookup u = none := by
  rw [CacheState.remove] at h
  split at h
  · assumption
  · cases h

lemma disabled_nextClock (c : CacheState) : c.nextClock.disabled = c.disabled := by
  rw [CacheState.nextClock]
  split <;> rfl

lemma disabled_remove (h : s.remove u = some s') : s'.disabled = s.disabled := by
  rw [CacheState.remove] at h
  split at h
  · cases h
  · cases h
    rfl

def Evicts : CacheState → CacheState → Prop := Relation.ReflTransGen fun s s' => ∃ u, s.remove u = some s'

lemma Evicts.keeps {P : CacheState → Prop} (h : Evicts s s')
    (hP : ∀ {s s' : CacheState} {u : CanonicalUsername}, s.remove u = some s' → P s → P s') (hs : P s) : P s' := by
  induction h with
  | refl => exact hs
  | tail _ hr ih =>
    obtain ⟨u, hr⟩ := hr
    exact hP hr ih

lemma Evicts.shrinks (h : Evicts s s') : Shrinks s s' :=
  h.keeps (fun hr hs => hs.trans (remove_eq_some hr).1) (Shrinks.refl s)

lemma Evicts.disabled (h : Evicts s s') : s'.disabled = s.disabled :=
  h.keeps (P := fun t => t.disabled = s.disabled) (fun hr ht => (disabled_remove hr).trans ht) rfl

lemma evicts_getD_remove : Evicts s ((s.remove u).getD s) := by
  cases h : s.remove u with
  | none => exact .refl
  | some s' => exact .single ⟨u, h⟩

lemma evictLruExcept_eq_some (h : s.evictLruExcept protected_ = some s') : ∃ u, s.remove u = some s' := by
  rw [CacheState.evictLruExcept] at h
  split at h
  · cases h
  · exact ⟨_, h⟩

lemma evicts_reserveLoop (protected_ : Option CanonicalUsername) (n : ℕ) (s : CacheState) :
    Evicts s (CacheState.reserveLoop protected_ n s).2 := by
  induction n generalizing s with
  | zero => exact .refl
  | succ n ih =>
    rw [CacheState.reserveLoop]
    split
    · exact .refl
    next s' h =>
      exact .head (evictLruExcept_eq_some h) (ih s')

lemma evicts_reserveOperationExcept (s : CacheState) (bytes : ℕ) (protected_ : Option CanonicalUsername)
    (refusals : ℕ) : Evicts s (s.reserveOperationExcept bytes protected_ refusals available).2 := by
  have h := evicts_reserveLoop protected_ refusals s
  rw [CacheState.reserveOperationExcept]
  split
  · exact .refl
  · split
    · exact .refl
    · split <;> simp_all

lemma evicts_reserveEnrollmentExcept {operationBytes plaintextBytes : ℕ} {refusals : ℕ} :
    Evicts s (s.reserveEnrollmentExcept operationBytes plaintextBytes protected_ refusals available).2 := by
  rw [CacheState.reserveEnrollmentExcept]
  split
  · exact .refl
  split
  · exact .refl
  dsimp only
  have h := evicts_reserveLoop protected_
    (if 2 ^ 64 ≤ operationBytes + plaintextBytes then size s.entries + 1 else refusals) s
  split <;> simp_all

lemma evicts_makeRoom (limits : ModelCacheLimits) (bytes n : ℕ) (s : CacheState) :
    Evicts s (CacheState.makeRoom limits bytes n s).2 := by
  induction n generalizing s with
  | zero => exact .refl
  | succ n ih =>
    rw [CacheState.makeRoom]
    split
    · split
      · exact .refl
      next s' h =>
        exact .head (evictLruExcept_eq_some h) (ih s')
    · exact .refl

def Inserts (u : CanonicalUsername) (model : AuthModel) (s s' : CacheState) : Prop :=
  s' = s ∨ s.disabled = false ∧ ∃ t, Evicts s t ∧ (s' = t ∨ s' = t.publishEntry u model)

lemma inserts_insert (s : CacheState) (u : CanonicalUsername) (model : AuthModel)
    (permit : ℕ) : Inserts u model s (CacheState.insert limits s u model permit).2 := by
  rw [CacheState.insert]
  split
  · exact .inl rfl
  split
  · exact .inl rfl
  split
  · exact .inl rfl
  rename_i hd
  have hroom := evicts_getD_remove.trans (evicts_makeRoom limits model.plaintextBytes
    (size ((s.remove u).getD s).entries) ((s.remove u).getD s))
  refine .inr ⟨by simpa using hd, _, hroom, ?_⟩
  dsimp only
  split <;> simp_all

lemma inserts_insertProvisional
    {expectedRevision : ℕ} {expectedGeneration : UInt64} {publish : Bool} : Inserts u model s
      (s.insertProvisionalIfRevision limits u expectedRevision expectedGeneration model publish).2 := by
  rw [CacheState.insertProvisionalIfRevision]
  split
  · exact .inl rfl
  split
  · exact .inl rfl
  split
  · exact .inl rfl
  rename_i hd
  split
  · exact .inl rfl
  split
  · exact .inl rfl
  · refine .inr ⟨by simpa using hd, _, evicts_makeRoom limits model.plaintextBytes (size s.entries) s, ?_⟩
    split <;> simp_all

lemma invalidate_spec :
    Shrinks s (s.invalidate u) ∧ (s.invalidate u).entries.lookup u = none ∧
    s.revision < (s.invalidate u).revision := by
  rw [CacheState.invalidate]
  cases h : s.remove u with
  | some s' =>
    obtain ⟨hs, hn, hr⟩ := remove_eq_some h
    exact ⟨hs, hn, by simp only [Option.getD_some]; omega⟩
  | none => exact ⟨⟨Nat.le_succ _, fun _ e he => ⟨e, he, rfl⟩⟩, remove_eq_none (s := s) h, Nat.lt_succ_self _⟩

end Howy.Storage
