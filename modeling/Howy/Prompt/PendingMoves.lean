import Howy.Prompt.Slots

namespace Howy.Prompt

open Library

variable {m : ManagerInner} {t : Tables} (hs : Sound m t) {p : ProvisionalRecord} {r : PendingRecord}

include hs

lemma moves_refl : Moves m t t none none := ⟨hs, by simp, by simp⟩

variable {c l : BindingDigest}

lemma moves_insertProvisional (hc : c ∉ t.provisional)
    (hb : c ∉ t.pendingByConnection) (hg : size t.provisional + size t.pending < m.maxPendingGlobal)
    (hu : countValues (fun r => r.peerUid == p.peerUid) t.provisional +
      countValues (fun r => r.peerUid == p.peerUid) t.pending < m.maxPendingPerUid) :
    Moves m t { t with provisional := t.provisional.insert c p } none (some (.provisional c)) := by
  have he := erase_of_lookup_eq_none (AList.lookup_eq_none.mpr hc)
  refine ⟨{ hs with total_le := ?_, forUid_le := ?_, provisional_free := ?_ }, ?_, ?_⟩
  · simp only [size_insert, he]
    omega
  · intro uid
    simp only [countValues_insert, he]
    by_cases hp : p.peerUid = uid
    · subst hp
      simp only [beq_self_eq_true, if_true]
      omega
    · have := hs.forUid_le uid
      simp only [beq_eq_false_iff_ne.mpr hp]
      simpa using this
  · intro d q hd
    rw [lookup_insert_eq] at hd
    split at hd
    next hdc =>
      rw [hdc]
      exact AList.lookup_eq_none.mpr hb
    · exact hs.provisional_free d q hd
  · rintro _ ⟨⟩ ⟨q, hq⟩
    exact hc (mem_iff_lookup.mpr ⟨q, hq⟩)
  · intro x
    cases x with
    | provisional d =>
      simp only [Occupied, lookup_insert_eq]
      by_cases hd : d = c <;> simp [hd]
    | pending d l | claim id | lease id => simp [Occupied]

lemma moves_eraseProvisional :
    Moves m t { t with provisional := t.provisional.erase c } (some (.provisional c)) none := by
  refine ⟨{ hs with total_le := ?_, forUid_le := ?_, provisional_free := ?_ }, by simp, ?_⟩
  · have := size_erase_le t.provisional c
    have := hs.total_le
    simp only
    omega
  · intro uid
    have := countValues_erase_le t.provisional c (fun r => r.peerUid == uid)
    have := hs.forUid_le uid
    simp only
    omega
  · intro d q hd
    exact hs.provisional_free d q (lookup_of_erase hd).1
  · intro x
    cases x with
    | provisional d =>
      simp only [Occupied, lookup_erase_eq]
      by_cases hd : d = c <;> simp [hd]
    | pending d l | claim id | lease id => simp [Occupied]

lemma moves_issue
    (hp : t.provisional.lookup c = some p) (hr : r.connectionBinding = c) (hu : r.peerUid = p.peerUid)
    (hl : t.pending.lookup l = none) (ha : ∀ id a, t.active.lookup id = some a → a.tokenLookup ≠ l) : Moves m t
      { t with provisional := t.provisional.erase c, pending := t.pending.insert l r,
               pendingByConnection := t.pendingByConnection.insert c l }
      (some (.provisional c)) (some (.pending c l)) := by
  have hc := hs.provisional_free c p hp
  have he := erase_of_lookup_eq_none hl
  refine ⟨{ hs with
    total_le := ?_, forUid_le := ?_, bijection := ?_, provisional_free := ?_, pending_ne_active := ?_ }, ?_, ?_⟩
  · have := size_erase_add_one hp
    have := hs.total_le
    simp only [size_insert, he]
    omega
  · intro uid
    have := countValues_erase_add hp (fun r => r.peerUid == uid)
    have := hs.forUid_le uid
    simp only [countValues_insert, he, hu]
    omega
  · intro d k
    simp only [lookup_insert_eq]
    by_cases hd : d = c
    · subst hd
      rw [if_pos rfl]
      by_cases hk : k = l
      · subst hk
        simp [hr]
      have hnone : ¬ ∃ r, t.pending.lookup k = some r ∧ r.connectionBinding = d := by
        rw [← hs.bijection, hc]
        simp
      simp only [hk, if_false, hnone, iff_false, Option.some.injEq]
      exact fun h => hk h.symm
    · rw [if_neg hd, hs.bijection]
      by_cases hk : k = l
      · subst hk
        simp only [hl, if_true, Option.some.injEq, exists_eq_left', hr]
        simp [Ne.symm hd]
      · simp [hk]
  · intro d q hd
    obtain ⟨hd, hdc⟩ := lookup_of_erase hd
    rw [lookup_insert_eq, if_neg hdc]
    exact hs.provisional_free d q hd
  · intro k r' id a hk hid
    rw [lookup_insert_eq] at hk
    split at hk
    next hkl =>
      rw [hkl]
      exact ha id a hid
    · exact hs.pending_ne_active k r' id a hk hid
  · rintro _ ⟨⟩ ⟨q, hq, -⟩
    rw [hl] at hq
    cases hq
  · intro x
    cases x with
    | provisional d =>
      simp only [Occupied, lookup_erase_eq]
      by_cases hd : d = c <;> simp [hd]
    | pending d k =>
      simp only [Occupied]
      by_cases hk : k = l
      · subst hk
        simp [hl, hr, eq_comm]
      · simp [hk]
    | claim id | lease id => simp [Occupied]

lemma moves_updatePending {r' : PendingRecord} (hl : t.pending.lookup l = some r)
    (hr : r'.connectionBinding = r.connectionBinding) (hu : r'.peerUid = r.peerUid) :
    Moves m t { t with pending := t.pending.insert l r' } none none := by
  refine ⟨{ hs with total_le := ?_, forUid_le := ?_, bijection := ?_, pending_ne_active := ?_ }, by simp, ?_⟩
  · simp only [size_insert_of_lookup hl]
    exact hs.total_le
  · intro uid
    have hcount : countValues (fun r => r.peerUid == uid) (t.pending.insert l r') =
        countValues (fun r => r.peerUid == uid) t.pending :=
      countValues_insert_of_lookup hl (by rw [hu])
    simp only [hcount]
    exact hs.forUid_le uid
  · intro d k
    rw [hs.bijection]
    by_cases hk : k = l
    · subst hk
      simp [hl, hr]
    · simp [hk]
  · intro k q id a hk hid
    rw [lookup_insert_eq] at hk
    split at hk
    next hkl =>
      rw [hkl]
      exact hs.pending_ne_active l r id a hl hid
    · exact hs.pending_ne_active k q id a hk hid
  · intro x
    cases x with
    | pending d k =>
      simp only [Occupied]
      by_cases hk : k = l
      · subst hk
        simp [hl, hr]
      · simp [hk]
    | provisional d | claim id | lease id => simp [Occupied]

lemma moves_removePending (hc : t.pendingByConnection.lookup c = some l) :
    Moves m t { t with pending := t.pending.erase l, pendingByConnection := t.pendingByConnection.erase c }
      (some (.pending c l)) none := by
  obtain ⟨r, hl, hr⟩ := (hs.bijection c l).mp hc
  refine ⟨{ hs with
    total_le := ?_, forUid_le := ?_, bijection := ?_, provisional_free := ?_, pending_ne_active :=
      ?_ }, by simp, ?_⟩
  · have := size_erase_le t.pending l
    have := hs.total_le
    simp only
    omega
  · intro uid
    have := countValues_erase_le t.pending l (fun r => r.peerUid == uid)
    have := hs.forUid_le uid
    simp only
    omega
  · intro d k
    simp only [lookup_erase_eq]
    by_cases hd : d = c
    · subst hd
      by_cases hk : k = l
      · simp [hk]
      have hnone : ¬ ∃ r, t.pending.lookup k = some r ∧ r.connectionBinding = d := by
        rw [← hs.bijection, hc, Option.some.injEq]
        exact Ne.symm hk
      simp [hk, hnone]
    · rw [if_neg hd, hs.bijection]
      by_cases hk : k = l
      · subst hk
        simp [hl, hr, Ne.symm hd]
      · simp [hk]
  · intro d q hd
    rw [lookup_erase_eq]
    split
    · rfl
    · exact hs.provisional_free d q hd
  · intro k q id a hk hid
    exact hs.pending_ne_active k q id a (lookup_of_erase hk).1 hid
  · intro x
    cases x with
    | pending d k =>
      simp only [Occupied, lookup_erase_eq]
      by_cases hk : k = l
      · subst hk
        simp only [hl, Option.some.injEq, exists_eq_left', hr]
        simp [eq_comm]
      · simp [hk]
    | provisional d | claim id | lease id => simp [Occupied]

end Howy.Prompt
