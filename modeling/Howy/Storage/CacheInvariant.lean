import Howy.Library.Runs
import Howy.Storage.CacheSpec

namespace Howy.Storage.CacheInvariant

open Library

abbrev BuiltModel := { model : AuthModel // ∃ generation digest dimension ids labels embeddings,
  AuthModel.newExact generation digest dimension ids labels embeddings = .ok model }

/-- The calls on one cache. `refusals` and `available` are what the budget answers, `publish` what the predicate
does. -/
inductive CacheCall where
  | get (u : CanonicalUsername)
  | generation (u : CanonicalUsername)
  | reserveOperation (bytes refusals available : ℕ)
  | reserveOperationForUser (bytes : ℕ) (u : CanonicalUsername) (refusals available : ℕ)
  | reserveEnrollmentForUser (operationBytes plaintextBytes : ℕ) (u : CanonicalUsername) (refusals available : ℕ)
  | insert (u : CanonicalUsername) (model : BuiltModel) (permit : ℕ)
  | insertProvisionalIfRevision (u : CanonicalUsername) (expectedRevision : ℕ) (expectedGeneration : UInt64)
      (model : BuiltModel) (publish : Bool)
  | invalidate (u : CanonicalUsername)
  | clear
  | poison

inductive CacheAnswer where
  | lease (model : Option AuthModel)
  | generation (generation : Option UInt64)
  | permit (bytes : BackendResult ℕ)
  | admission (bytes : BackendResult (ℕ × ℕ))
  | inserted (result : BackendResult AuthModel)
  | published (result : BackendResult Bool)
  | done

variable (limits : ModelCacheLimits) {l : List ((_ : CanonicalUsername) × CacheEntry)} {model : AuthModel}
  {permit : ℕ}

def step (s : CacheState) : CacheCall → CacheState × CacheAnswer
  | .get u => ((s.get u).2, .lease (s.get u).1)
  | .generation u => ((s.generation u).2, .generation (s.generation u).1)
  | .reserveOperation bytes refusals available =>
    let r := s.reserveOperationExcept bytes none refusals available
    (r.2, .permit r.1)
  | .reserveOperationForUser bytes u refusals available =>
    let r := s.reserveOperationExcept bytes (some u) refusals available
    (r.2, .permit r.1)
  | .reserveEnrollmentForUser operationBytes plaintextBytes u refusals available =>
    let r := s.reserveEnrollmentExcept operationBytes plaintextBytes (some u) refusals available
    (r.2, .admission r.1)
  | .insert u model permit =>
    let r := CacheState.insert limits s u model.val permit
    (r.2, .inserted r.1)
  | .insertProvisionalIfRevision u expectedRevision expectedGeneration model publish =>
    let r :=
      CacheState.insertProvisionalIfRevision limits s u expectedRevision expectedGeneration model.val publish
    (r.2, .published r.1)
  | .invalidate u => (s.invalidate u, .done)
  | .clear => (s.clear, .done)
  | .poison => (s.poison, .done)

def modelOf (s : CacheState) (u : CanonicalUsername) : Option AuthModel := (s.entries.lookup u).map (·.model)

def entryBytes (t : Table CanonicalUsername CacheEntry) : ℕ := total CacheEntry.bytes t

def maxModelBytes : ℕ := maxEntries * (embeddingDimension * 4 + enrollmentIdSize + labelOwnerSize + maxLabelBytes)

structure Accounted (s : CacheState) : Prop where
  bytes : s.bytes = entryBytes s.entries
  entry : ∀ u e, s.entries.lookup u = some e → e.bytes = e.model.plaintextBytes ∧ e.bytes ≤ maxModelBytes
  bytes_le : s.bytes ≤ limits.maxBytes
  size_le : size s.entries ≤ limits.maxUsers
  sound : s.panicked = false
  empty_of_disabled : s.disabled = true → s.entries = ∅

lemma foldlM_checkedAdd_le {labels : List String} {start total : ℕ}
    (h : labels.foldlM (fun total label => checkedAdd total (utf8Bytes label).length) start = some total)
    (hle : ∀ label ∈ labels, (utf8Bytes label).length ≤ maxLabelBytes) :
    total ≤ start + labels.length * maxLabelBytes := by
  induction labels generalizing start with
  | nil =>
    cases h
    simp
  | cons label labels ih =>
    obtain ⟨next, hnext, hrest⟩ := Option.bind_eq_some_iff.mp h
    obtain ⟨-, rfl⟩ := checkedAdd_eq_some.mp hnext
    have hlabel := hle label List.mem_cons_self
    have htail := ih hrest fun l hl => hle l (List.mem_cons_of_mem label hl)
    rw [List.length_cons, Nat.succ_mul]
    omega

lemma plaintextBytes_le (model : BuiltModel) : model.val.plaintextBytes ≤ maxModelBytes := by
  obtain ⟨model, generation, digest, dimension, ids, labels, embeddings, h⟩ := model
  simp only [AuthModel.newExact, bind_eq_ok, failIf_eq_ok, pure_eq_ok, invalid_eq_ok] at h
  obtain ⟨_, -, _, -, _, hcount, _, hmax, _, -, _, -, _, -, _, hlabels, _, -, labelBytes, hsum, bytes,
    hbytes, rfl⟩ := h
  have hlabel : ∀ label ∈ labels, (utf8Bytes label).length ≤ maxLabelBytes := by
    intro label hl
    simp only [List.any_eq_true, decide_eq_true_eq, not_exists, not_and, not_lt] at hlabels
    exact hlabels label hl
  have htotal := foldlM_checkedAdd_le hsum hlabel
  rw [not_not] at hcount
  have hids := Nat.le_of_not_lt hmax
  calc bytes = ids.length * (embeddingDimension * 4 + enrollmentIdSize + labelOwnerSize) + labelBytes :=
        authModelAllocationBytes_eq_ok hbytes
    _ ≤ ids.length * (embeddingDimension * 4 + enrollmentIdSize + labelOwnerSize) + ids.length *
      maxLabelBytes := by
        rw [hcount]
        omega
    _ = ids.length * (embeddingDimension * 4 + enrollmentIdSize + labelOwnerSize + maxLabelBytes) :=
        (Nat.mul_add _ _ _).symm
    _ ≤ maxModelBytes := Nat.mul_le_mul_right _ hids

section

variable {limits} {s s' : CacheState} {u : CanonicalUsername} {model : BuiltModel}

lemma accounted_remove (h : Accounted limits s) (hr : s.remove u = some s') :
    Accounted limits s' ∧ size s'.entries + 1 = size s.entries := by
  rw [CacheState.remove] at hr
  split at hr
  · cases hr
  rename_i e he
  cases hr
  have hsum := total_erase_add CacheEntry.bytes he
  have hbytes := h.bytes
  have hle := h.bytes_le
  have hsize := size_erase_add_one he
  have hmax := h.size_le
  refine ⟨⟨?_, fun v e' he' => ?_, ?_, ?_, ?_, fun hd => ?_⟩, hsize⟩
  · change s.bytes - e.bytes = total CacheEntry.bytes (s.entries.erase u)
    rw [entryBytes] at hbytes
    omega
  · exact h.entry v e' (lookup_of_erase he').1
  · change s.bytes - e.bytes ≤ _
    omega
  · change size (s.entries.erase u) ≤ _
    omega
  · rw [entryBytes] at hbytes
    rw [h.sound, Bool.false_or, decide_eq_false_iff_not]
    omega
  · have hnone := h.empty_of_disabled hd
    rw [hnone] at he
    cases he

lemma oldest_eq_none (h : CacheState.oldest l = none) : l = [] := by
  cases l with
  | nil => rfl
  | cons e es => cases h

lemma oldest_mem (h : CacheState.oldest l = some u) : ∃ e ∈ l, e.1 = u := by
  cases l with
  | nil => cases h
  | cons e es =>
    cases h
    refine ⟨_, ?_, rfl⟩
    induction es generalizing e with
    | nil => exact List.mem_cons_self
    | cons x es ih =>
      rw [List.foldl_cons]
      split
      · exact List.mem_cons_of_mem e (ih x)
      rcases List.mem_cons.mp (ih e) with h | h
      · rw [h]
        exact List.mem_cons_self
      · exact List.mem_cons_of_mem e (List.mem_cons_of_mem x h)

lemma Accounted.evicted (h : Accounted limits s) (he : Evicts s s') : Accounted limits s' :=
  he.keeps (fun hr h => (accounted_remove h hr).1) h

lemma evictLru_eq_none (h : s.evictLru = none) : s.entries = ∅ := by
  rw [CacheState.evictLru, CacheState.evictLruExcept] at h
  split at h
  next hnone =>
    have hnil := List.filter_eq_nil_iff.mp (oldest_eq_none hnone)
    apply AList.ext
    exact List.eq_nil_iff_forall_not_mem.mpr fun e he => hnil e he (by simp)
  next hv =>
    obtain ⟨⟨v, e⟩, hmem, rfl⟩ := oldest_mem hv
    have hlookup : s.entries.lookup v = some e := AList.mem_lookup_iff.mpr (List.mem_filter.mp hmem).1
    rw [CacheState.remove, hlookup] at h
    cases h

section

variable (h : Accounted limits s)

include h

lemma accounted_nextClock :
    Accounted limits s.nextClock ∧ size s.nextClock.entries = size s.entries ∧ s.nextClock.bytes = s.bytes ∧
      ∀ u, s.nextClock.entries.lookup u = none ↔ s.entries.lookup u = none := by
  rw [CacheState.nextClock]
  split
  · have hlen : size (⟨s.entries.entries.map fun e => ⟨e.1, { e.2 with lastUsed := 0 }⟩, by
        have hk := s.entries.nodupKeys
        rw [List.NodupKeys, List.keys, List.map_map] at *
        exact hk⟩ : Table CanonicalUsername CacheEntry) = size s.entries := List.length_map _
    refine ⟨⟨?_, fun u e' he' => ?_, h.bytes_le, ?_, h.sound, fun hd => ?_⟩, hlen, rfl, fun u => ?_⟩
    · rw [entryBytes, total, List.map_map]
      exact h.bytes
    · rw [AList.lookup, dlookup_map_lastUsed, Option.map_eq_some_iff] at he'
      obtain ⟨e, he, rfl⟩ := he'
      exact h.entry u e he
    · exact hlen.le.trans h.size_le
    · apply AList.ext
      change List.map _ s.entries.entries = []
      rw [congrArg AList.entries (h.empty_of_disabled hd)]
      rfl
    · rw [AList.lookup, dlookup_map_lastUsed, Option.map_eq_none_iff]
      rfl
  · exact ⟨⟨h.bytes, h.entry, h.bytes_le, h.size_le, h.sound, h.empty_of_disabled⟩, rfl, rfl, fun _ => Iff.rfl⟩

lemma accounted_touch : Accounted limits (s.touch u).2 := by
  rw [CacheState.touch]
  split
  · exact h
  obtain ⟨hn, -⟩ := accounted_nextClock h
  dsimp only
  split
  · exact hn
  rename_i e he
  have hsum := total_insert_of_lookup CacheEntry.bytes he { e with lastUsed := s.nextClock.clock }
  refine ⟨hn.bytes.trans (Nat.add_right_cancel hsum).symm, fun v e' he' => ?_, hn.bytes_le, ?_,
    hn.sound, fun hd => ?_⟩
  · rw [lookup_insert_eq] at he'
    split at he'
    · cases he'
      exact hn.entry u e he
    · exact hn.entry v e' he'
  · rw [size_insert_of_lookup he]
    exact hn.size_le
  · have hnone := hn.empty_of_disabled hd
    rw [hnone] at he
    cases he

lemma makeRoom_spec {bytes : ℕ} (hfit : bytes ≤ limits.maxBytes) {n : ℕ} (hn : size s.entries ≤ n) :
    ∃ s', CacheState.makeRoom limits bytes n s = (true, s') ∧ Accounted limits s' ∧
      CacheState.crowded limits bytes s' = false := by
  have hempty {s : CacheState} (h : Accounted limits s) (he : s.entries = ∅) :
      CacheState.crowded limits bytes s = false := by
    have hb : s.bytes = 0 := by
      rw [h.bytes, he]
      rfl
    have hs : size s.entries = 0 := by
      rw [he]
      rfl
    have hpos := limits.maxUsers_pos
    simp only [CacheState.crowded, hs, Bool.or_eq_false_iff, decide_eq_false_iff_not]
    omega
  induction n generalizing s with
  | zero =>
    have he : s.entries = ∅ := by
      apply AList.ext
      exact List.length_eq_zero_iff.mp (Nat.le_zero.mp hn)
    have hc := hempty h he
    exact ⟨s, by rw [CacheState.makeRoom, hc]; rfl, h, hc⟩
  | succ n ih =>
    rw [CacheState.makeRoom]
    split
    next hcrowded =>
      split
      next hnone =>
        rw [hempty h (evictLru_eq_none hnone)] at hcrowded
        cases hcrowded
      next he =>
        obtain ⟨u, hr⟩ := evictLruExcept_eq_some he
        obtain ⟨h', hsize⟩ := accounted_remove h hr
        obtain ⟨s'', hs, ha, hc⟩ := ih h' (by omega)
        exact ⟨s'', hs, ha, hc⟩
    next hroom =>
      exact ⟨s, rfl, h, by simpa using hroom⟩

lemma accounted_publishEntry (hu : s.entries.lookup u = none) (hd : s.disabled = false)
    (model : BuiltModel) (hroom : CacheState.crowded limits model.val.plaintextBytes s = false) :
    Accounted limits (s.publishEntry u model.val) := by
  obtain ⟨hn, hsize, hbytes, hlookup⟩ := accounted_nextClock h
  have hmodel := plaintextBytes_le model
  simp only [CacheState.crowded, Bool.or_eq_false_iff, decide_eq_false_iff_not, not_le] at hroom
  -- the sum of all entries is far below the end of `usize`, so the saturating sum is exact
  have hsum : s.bytes + model.val.plaintextBytes < 2 ^ 64 - 1 := by
    have hentries := total_le CacheEntry.bytes fun u e he => (h.entry u e he).2
    rw [← entryBytes, ← h.bytes] at hentries
    have husers := Nat.mul_le_mul_right maxModelBytes (hroom.1.le.trans limits.maxUsers_lt.le)
    have hmax : 2 ^ 32 * maxModelBytes + maxModelBytes < 2 ^ 64 - 1 := by decide
    omega
  have hnew := (hlookup u).mpr hu
  refine ⟨?_, fun v e' he' => ?_, ?_, ?_, ?_, fun hdis => ?_⟩
  · change s.nextClock.bytes + model.val.plaintextBytes = entryBytes (s.nextClock.entries.insert u _)
    rw [entryBytes, total_insert_of_none _ hnew, hn.bytes]
    rfl
  · change (s.nextClock.entries.insert u _).lookup v = some e' at he'
    rw [lookup_insert_eq] at he'
    split at he'
    · cases he'
      exact ⟨rfl, hmodel⟩
    · exact hn.entry v e' he'
  · change s.nextClock.bytes + model.val.plaintextBytes ≤ _
    omega
  · change size (s.nextClock.entries.insert u _) ≤ _
    rw [size_insert, erase_of_lookup_eq_none hnew]
    omega
  · change (s.nextClock.panicked || decide (2 ^ 64 ≤ s.nextClock.bytes + model.val.plaintextBytes)) = false
    rw [hn.sound, Bool.false_or, decide_eq_false_iff_not]
    omega
  · change s.nextClock.disabled = true at hdis
    rw [disabled_nextClock, hd] at hdis
    cases hdis

lemma publish_spec (hu : s.entries.lookup u = none) (hd : s.disabled = false)
    (hfit : model.val.plaintextBytes ≤ limits.maxBytes) :
    ∃ s', CacheState.makeRoom limits model.val.plaintextBytes (size s.entries) s = (true, s') ∧
      Accounted limits (s'.publishEntry u model.val) := by
  obtain ⟨s', hs, ha, hc⟩ := makeRoom_spec h hfit le_rfl
  have hevicts := evicts_makeRoom limits model.val.plaintextBytes (size s.entries) s
  rw [hs] at hevicts
  have hu' : s'.entries.lookup u = none := by
    cases he : s'.entries.lookup u with
    | none => rfl
    | some e' =>
      obtain ⟨e, he, -⟩ := hevicts.shrinks.entries u e' he
      rw [hu] at he
      cases he
  exact ⟨s', hs, accounted_publishEntry ha hu' (hevicts.disabled.trans hd) model hc⟩

lemma insert_spec (hd : s.disabled = false)
    (hfit : model.val.plaintextBytes ≤ limits.maxBytes) (hp : model.val.plaintextBytes ≤ permit) :
    ∃ s', CacheState.insert limits s u model.val permit = (.ok model.val, s') ∧ Accounted limits s' := by
  have hremoved : Accounted limits ((s.remove u).getD s) ∧ ((s.remove u).getD s).entries.lookup u = none ∧
      ((s.remove u).getD s).disabled = false := by
    cases hr : s.remove u with
    | some s' => exact ⟨(accounted_remove h hr).1, (remove_eq_some hr).2.1, (disabled_remove hr).trans hd⟩
    | none => exact ⟨h, remove_eq_none hr, hd⟩
  obtain ⟨ha, hu, hd'⟩ := hremoved
  obtain ⟨s', hs, hpub⟩ := publish_spec ha hu hd' hfit
  refine ⟨s'.publishEntry u model.val, ?_, hpub⟩
  rw [CacheState.insert, if_neg (by omega), if_neg (by omega), hd]
  dsimp only
  rw [hs]
  rfl

lemma provisional_spec (hd : s.disabled = false) (hu : s.entries.lookup u = none)
    (hfit : model.val.plaintextBytes ≤ limits.maxBytes) :
    ∃ s', CacheState.insertProvisionalIfRevision limits s u s.revision model.val.generation model.val true =
      (.ok true, s') ∧ Accounted limits s' := by
  obtain ⟨s', hs, hpub⟩ := publish_spec h hu hd hfit
  refine ⟨s'.publishEntry u model.val, ?_, hpub⟩
  rw [CacheState.insertProvisionalIfRevision, if_neg (by simp), if_neg (by omega), hd, hu, hs]
  simp

lemma accounted_insert : Accounted limits (CacheState.insert limits s u model.val permit).2 := by
  by_cases hfit : limits.maxBytes < model.val.plaintextBytes
  · rwa [CacheState.insert, if_pos hfit]
  by_cases hp : permit < model.val.plaintextBytes
  · rwa [CacheState.insert, if_neg hfit, if_pos hp]
  cases hd : s.disabled with
  | true => rwa [CacheState.insert, if_neg hfit, if_neg hp, hd]
  | false =>
    obtain ⟨s', hs, ha⟩ := insert_spec h hd (Nat.le_of_not_lt hfit) (Nat.le_of_not_lt hp)
    rwa [hs]

lemma accounted_insertProvisional {expectedRevision : ℕ} {expectedGeneration : UInt64} {publish : Bool} :
    Accounted limits (CacheState.insertProvisionalIfRevision limits s u expectedRevision
      expectedGeneration model.val publish).2 := by
  rw [CacheState.insertProvisionalIfRevision]
  split
  · exact h
  split
  · exact h
  rename_i hfit
  split
  · exact h
  rename_i hd
  split
  · exact h
  rename_i hrevision
  rw [not_or, Option.not_isSome_iff_eq_none] at hrevision
  split
  · exact h
  · obtain ⟨s', hs, ha⟩ := publish_spec h hrevision.2 (by simpa using hd) (Nat.le_of_not_lt hfit)
    rwa [hs]

lemma accounted_emptied (he : s'.entries = ∅) (hb : s'.bytes = 0)
    (hp : s'.panicked = s.panicked) : Accounted limits s' := by
  refine ⟨?_, fun v e hv => ?_, ?_, ?_, hp.trans h.sound, fun _ => he⟩
  · rw [hb, he]
    rfl
  · rw [he] at hv
    cases hv
  · rw [hb]
    exact Nat.zero_le _
  · rw [he]
    exact Nat.zero_le _

lemma accounted_step (call : CacheCall) : Accounted limits (step limits s call).1 := by
  cases call with
  | get u | generation u => exact accounted_touch h
  | reserveOperation bytes refusals available | reserveOperationForUser bytes u refusals available =>
    exact h.evicted (evicts_reserveOperationExcept s _ _ _)
  | reserveEnrollmentForUser _ _ u refusals available => exact h.evicted evicts_reserveEnrollmentExcept
  | insert u model permit => exact accounted_insert h
  | insertProvisionalIfRevision u revision generation model publish => exact accounted_insertProvisional h
  | invalidate u =>
    change Accounted limits (s.invalidate u)
    rw [CacheState.invalidate]
    cases hr : s.remove u with
    | some s' => exact (accounted_remove h hr).1
    | none => exact ⟨h.bytes, h.entry, h.bytes_le, h.size_le, h.sound, h.empty_of_disabled⟩
  | clear | poison => exact accounted_emptied h rfl rfl rfl

end

lemma accounted_empty {limits : ModelCacheLimits} : Accounted limits .empty :=
  ⟨rfl, nofun, Nat.zero_le _, Nat.zero_le _, rfl, fun _ => rfl⟩

end

def Advances (s s' : CacheState) : Prop :=
  (s'.revision = s.revision ∧ ∀ u, modelOf s' u = modelOf s u) ∨ s.revision < s'.revision

section

variable {limits} {s s' s'' : CacheState} {u : CanonicalUsername}

lemma Advances.refl (s : CacheState) : Advances s s := .inl ⟨rfl, fun _ => rfl⟩

lemma Advances.le (h : Advances s s') : s.revision ≤ s'.revision := by
  rcases h with ⟨h, -⟩ | h
  · exact h.ge
  · exact h.le

lemma Advances.trans (h : Advances s s') (h' : Advances s' s'') : Advances s s'' := by
  have hle' := h'.le
  rcases h with ⟨hr, hm⟩ | hr
  · rcases h' with ⟨hr', hm'⟩ | hr'
    · exact .inl ⟨hr'.trans hr, fun u => (hm' u).trans (hm u)⟩
    · exact .inr (by omega)
  · exact .inr (by omega)

lemma Advances.of_evicts (h : Evicts s s') : Advances s s' := by
  refine h.keeps (fun hr hs => hs.trans (.inr ?_)) (Advances.refl s)
  rw [(remove_eq_some hr).2.2]
  exact Nat.lt_succ_self _

lemma advances_nextClock : Advances s s.nextClock := by
  refine .inl ⟨revision_nextClock s, fun u => ?_⟩
  rw [CacheState.nextClock]
  split
  · rw [modelOf, AList.lookup, dlookup_map_lastUsed, Option.map_map]
    rfl
  · rfl

lemma advances_touch : Advances s (s.touch u).2 := by
  rw [CacheState.touch]
  split
  · exact .refl s
  refine advances_nextClock.trans ?_
  dsimp only
  split
  · exact .refl _
  rename_i he
  refine .inl ⟨rfl, fun v => ?_⟩
  rw [modelOf, modelOf, lookup_insert_eq]
  split
  next hv =>
    rw [hv, he]
    rfl
  · rfl

lemma advances_publishEntry : Advances s (s.publishEntry u model) := by
  right
  change s.revision < s.nextClock.revision + 1
  rw [revision_nextClock]
  exact Nat.lt_succ_self _

lemma Advances.of_inserts (h : Inserts u model s s') : Advances s s' := by
  obtain rfl | ⟨-, t, ht, rfl | rfl⟩ := h
  · exact .refl _
  · exact .of_evicts ht
  · exact (Advances.of_evicts ht).trans advances_publishEntry

lemma advances_step (s : CacheState) (call : CacheCall) : Advances s (step limits s call).1 := by
  cases call with
  | get u | generation u => exact advances_touch
  | reserveOperation bytes refusals available | reserveOperationForUser bytes u refusals available =>
    exact .of_evicts (evicts_reserveOperationExcept s _ _ _)
  | reserveEnrollmentForUser _ _ u refusals available => exact .of_evicts evicts_reserveEnrollmentExcept
  | insert u model permit => exact .of_inserts (inserts_insert s u model.val permit)
  | insertProvisionalIfRevision u revision generation model publish =>
    exact .of_inserts inserts_insertProvisional
  | invalidate u => exact .inr invalidate_spec.2.2
  | clear | poison => exact .inr (Nat.lt_succ_self _)

lemma advances_run (limits : ModelCacheLimits) (s : CacheState) (calls : List CacheCall) :
    Advances s (final (step limits) s calls) := by
  induction calls generalizing s with
  | nil => exact .refl s
  | cons call calls ih => exact (advances_step s call).trans (ih _)

end

def Refused : CacheCall → CacheAnswer → Prop
  | .insert .., .inserted result => ∃ e, result = .error e
  | .insertProvisionalIfRevision _ _ _ model _, .published result =>
    result ≠ .ok true ∧ (model.val.plaintextBytes ≤ limits.maxBytes → ∃ e, result = .error e)
  | .reserveOperation .., .permit result => result = .error .unavailable
  | .reserveOperationForUser .., .permit result => result = .error .unavailable
  | .reserveEnrollmentForUser .., .admission result => result = .error .unavailable
  | .get .., .lease model => model = none
  | .generation .., .generation g => g = none
  | .invalidate .., .done => True
  | .clear, .done => True
  | .poison, .done => True
  | _, _ => False

lemma refused_of_disabled {s : CacheState} (hd : s.disabled) {call : CacheCall} :
    (step limits s call).1.disabled ∧ Refused limits call (step limits s call).2 := by
  cases call with
  | get u => simp [step, CacheState.get, CacheState.touch, hd, Refused]
  | generation u => simp [step, CacheState.generation, CacheState.touch, hd, Refused]
  | reserveOperation bytes refusals available | reserveOperationForUser bytes u refusals available =>
    simp [step, CacheState.reserveOperationExcept, hd, Refused]
  | reserveEnrollmentForUser _ _ u refusals available =>
    simp [step, CacheState.reserveEnrollmentExcept, hd, Refused]
  | insert u model permit =>
    rw [step, CacheState.insert, hd]
    split
    · exact ⟨hd, _, rfl⟩
    · split <;> exact ⟨hd, _, rfl⟩
  | insertProvisionalIfRevision u revision generation model publish =>
    rw [step, CacheState.insertProvisionalIfRevision, hd]
    split
    · exact ⟨hd, by simp, fun _ => ⟨_, rfl⟩⟩
    split
    next hlarge =>
      exact ⟨hd, by simp, fun hfit => absurd hlarge (Nat.not_lt.mpr hfit)⟩
    · exact ⟨hd, by simp, fun _ => ⟨_, rfl⟩⟩
  | invalidate u =>
    refine ⟨?_, trivial⟩
    change (s.invalidate u).disabled
    rw [CacheState.invalidate]
    cases hr : s.remove u with
    | none => exact hd
    | some s' => exact (disabled_remove hr).trans hd
  | clear => exact ⟨hd, trivial⟩
  | poison => exact ⟨rfl, trivial⟩

structure Invariant (s : CacheState) : Prop where
  bytes : s.bytes = entryBytes s.entries ∧ s.bytes ≤ limits.maxBytes
  users : size s.entries ≤ limits.maxUsers
  accounting : s.panicked = false
  revision : ∀ calls, (final (step limits) s calls).revision = s.revision →
    ∀ u, modelOf (final (step limits) s calls) u = modelOf s u
  insert : s.disabled = false → ∀ u (model : BuiltModel) permit, model.val.plaintextBytes ≤ limits.maxBytes →
    model.val.plaintextBytes ≤ permit → (CacheState.insert limits s u model.val permit).1 = .ok model.val
  -- the predicate is asked only when everything else agrees
  provisional : s.disabled = false → ∀ u (model : BuiltModel), model.val.plaintextBytes ≤ limits.maxBytes →
    modelOf s u = none →
    (CacheState.insertProvisionalIfRevision limits s u s.revision model.val.generation model.val true).1 = .ok true
  poison : ∀ calls, (final (step limits) s (.poison :: calls)).entries = ∅ ∧
    ∀ call answer, (call, answer) ∈ trace (step limits) s.poison calls → Refused limits call answer

theorem model_cache_invariant (calls : List CacheCall) :
    Invariant limits (final (step limits) .empty calls) := by
  have hrun (s : CacheState) (h : Accounted limits s) (calls : List CacheCall) :
      Accounted limits (final (step limits) s calls) :=
    @final_invariant _ _ _ _ (Accounted limits) (fun _ call h => accounted_step h call) s h calls
  have h := hrun _ accounted_empty calls
  generalize final (step limits) .empty calls = s at h
  have hdisabled (calls : List CacheCall) : (final (step limits) s.poison calls).disabled = true :=
    @final_invariant _ _ _ _ (fun s : CacheState => s.disabled = true) (fun _ call hd =>
      (refused_of_disabled limits hd).1) _ rfl calls
  refine ⟨⟨h.bytes, h.bytes_le⟩, h.size_le, h.sound, fun calls hr => ?_, fun hd u model permit hfit hp => ?_,
    fun hd u model hfit hu => ?_, fun calls => ⟨?_, fun call answer hmem => ?_⟩⟩
  · rcases advances_run limits s calls with ⟨-, hm⟩ | hlt
    · exact hm
    · omega
  · obtain ⟨s', hs, -⟩ := insert_spec h hd hfit hp
    rw [hs]
  · obtain ⟨s', hs, -⟩ := provisional_spec h hd (Option.map_eq_none_iff.mp hu) hfit
    rw [hs]
  · exact (hrun _ (accounted_step h .poison) calls).empty_of_disabled (hdisabled calls)
  · obtain ⟨front, back, hsplit⟩ := List.append_of_mem hmem
    obtain ⟨-, hanswer, -⟩ := trace_split hsplit
    have hanswer' : answer = (step limits (final (step limits) s.poison (front.map Prod.fst)) call).2 := hanswer
    rw [hanswer']
    exact (refused_of_disabled limits (hdisabled _)).2

def oneEntryModel : AuthModel where
  generation := 1
  modelDigest := .filled 32 7
  dimension := embeddingDimension
  enrollmentIds := [⟨.filled 16 1, by decide⟩]
  labels := [""]
  flatEmbeddings := List.replicate embeddingDimension 0
  plaintextBytes := 2080

/-- A permit smaller than the model is refused, however much room there is. -/
theorem insert_refuses_small_permit : ∃ (limits : ModelCacheLimits) (model : BuiltModel) (u : CanonicalUsername),
    model.val.plaintextBytes ≤ limits.maxBytes ∧ CacheState.empty.disabled = false ∧
      (CacheState.insert limits .empty u model.val 1).1 =
      .error (.invalidInput "model reservation is too small") := by
  have hbuilt : AuthModel.newExact oneEntryModel.generation oneEntryModel.modelDigest oneEntryModel.dimension
      oneEntryModel.enrollmentIds oneEntryModel.labels oneEntryModel.flatEmbeddings = .ok oneEntryModel := by
    decide +kernel
  have hfits : oneEntryModel.plaintextBytes ≤ 100000 := by decide
  exact ⟨⟨4, 100000, by decide, by decide, by decide, by decide⟩, ⟨oneEntryModel, _, _, _, _, _, _, hbuilt⟩,
    ⟨"alice", by decide⟩, hfits, rfl, rfl⟩

end Howy.Storage.CacheInvariant
