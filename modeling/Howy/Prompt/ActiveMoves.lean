import Howy.Prompt.Slots

namespace Howy.Prompt

open Library

variable {l : BindingDigest} {id : ℕ} {m : ManagerInner} {t : Tables} (hs : Sound m t)

include hs

lemma sound_bump {n : ℕ} (hn : t.nextActive ≤ n) : Sound m { t with nextActive := n } :=
  { hs with active_lt := fun id a hid => lt_of_lt_of_le (hs.active_lt id a hid) hn }

lemma moves_insertClaim (hl : t.pending.lookup l = none)
    (ha : ∀ id a, t.active.lookup id = some a → a.tokenLookup ≠ l) (hm : size t.active < m.maxActive) :
    Moves m t { t with active := t.active.insert t.nextActive (.claim l), nextActive := t.nextActive + 1 }
      none (some (.claim t.nextActive)) := by
  have hfresh : t.active.lookup t.nextActive = none := by
    cases h : t.active.lookup t.nextActive with
    | none => rfl
    | some a => exact absurd (hs.active_lt _ a h) (Nat.lt_irrefl _)
  refine ⟨{ hs with active_le := ?_, pending_ne_active := ?_, active_inj := ?_, active_lt := ?_ }, ?_, ?_⟩
  · simp only [size_insert, erase_of_lookup_eq_none hfresh]
    omega
  · intro k r id a hk hid
    rw [lookup_insert_eq] at hid
    split at hid
    · cases hid
      rintro rfl
      rw [ActiveRecord.tokenLookup, hl] at hk
      cases hk
    · exact hs.pending_ne_active k r id a hk hid
  · intro id id' a a' hid hid' he
    rw [lookup_insert_eq] at hid hid'
    split at hid <;> split at hid'
    next h h' =>
      rw [h, h']
    · cases hid
      exact absurd he.symm (ha id' a' hid')
    · cases hid'
      exact absurd he (ha id a hid)
    · exact hs.active_inj id id' a a' hid hid' he
  · intro id a hid
    simp only
    rw [lookup_insert_eq] at hid
    split at hid
    · omega
    · have := hs.active_lt id a hid
      omega
  · rintro _ ⟨⟩ ⟨q, hq⟩
    rw [hfresh] at hq
    cases hq
  · intro x
    cases x with
    | claim id =>
      simp only [Occupied, lookup_insert_eq]
      by_cases hid : id = t.nextActive <;> simp [hid]
    | lease id =>
      simp only [Occupied]
      by_cases hid : id = t.nextActive
      · subst hid
        simp [hfresh]
      · simp [hid]
    | provisional d | pending d k => simp [Occupied]

lemma moves_promote (hid : t.active.lookup id = some (.claim l)) :
    Moves m t { t with active := t.active.insert id (.active l) } (some (.claim id)) (some (.lease id)) := by
  have hsame : ∀ {k a}, (t.active.insert id (.active l)).lookup k = some a →
      ∃ b, t.active.lookup k = some b ∧ b.tokenLookup = a.tokenLookup := by
    intro k a hk
    rw [lookup_insert_eq] at hk
    split at hk
    next hkid =>
      cases hk
      exact ⟨.claim l, by rw [hkid, hid], rfl⟩
    · exact ⟨a, hk, rfl⟩
  refine ⟨{ hs with active_le := ?_, pending_ne_active := ?_, active_inj := ?_, active_lt := ?_ }, ?_, ?_⟩
  · simp only [size_insert_of_lookup hid]
    exact hs.active_le
  · intro k r j a hk hj
    obtain ⟨b, hb, he⟩ := hsame hj
    exact he ▸ hs.pending_ne_active k r j b hk hb
  · intro j j' a a' hj hj' he
    obtain ⟨b, hb, hbe⟩ := hsame hj
    obtain ⟨b', hb', hbe'⟩ := hsame hj'
    exact hs.active_inj j j' b b' hb hb' (by rw [hbe, hbe', he])
  · intro j a hj
    obtain ⟨b, hb, -⟩ := hsame hj
    exact hs.active_lt j b hb
  · rintro _ ⟨⟩ ⟨q, hq⟩
    rw [hid] at hq
    cases hq
  · intro x
    cases x with
    | claim j =>
      simp only [Occupied, lookup_insert_eq]
      by_cases hj : j = id <;> simp [hj]
    | lease j =>
      simp only [Occupied, lookup_insert_eq]
      by_cases hj : j = id <;> simp [hj]
    | provisional d | pending d k => simp [Occupied]

lemma sound_eraseActive : Sound m { t with active := t.active.erase id } := by
  have hsub : ∀ {k a}, (t.active.erase id).lookup k = some a → t.active.lookup k = some a := by
    intro k a hk
    exact (lookup_of_erase hk).1
  exact { hs with
    active_le := (size_erase_le t.active id).trans hs.active_le
    pending_ne_active := fun k r j a hk hj => hs.pending_ne_active k r j a hk (hsub hj)
    active_inj := fun j j' a a' hj hj' => hs.active_inj j j' a a' (hsub hj) (hsub hj')
    active_lt := fun j a hj => hs.active_lt j a (hsub hj) }

lemma moves_eraseClaim (hid : t.active.lookup id = some (.claim l)) :
    Moves m t { t with active := t.active.erase id } (some (.claim id)) none := by
  refine ⟨sound_eraseActive hs, by simp, ?_⟩
  intro x
  cases x with
  | claim j =>
    simp only [Occupied, lookup_erase_eq]
    by_cases hj : j = id <;> simp [hj]
  | lease j =>
    simp only [Occupied]
    by_cases hj : j = id
    · subst hj
      simp [hid]
    · simp [hj]
  | provisional d | pending d k => simp [Occupied]

lemma moves_eraseLease (hid : t.active.lookup id = some (.active l)) :
    Moves m t { t with active := t.active.erase id } (some (.lease id)) none := by
  refine ⟨sound_eraseActive hs, by simp, ?_⟩
  intro x
  cases x with
  | claim j =>
    simp only [Occupied]
    by_cases hj : j = id
    · subst hj
      simp [hid]
    · simp [hj]
  | lease j =>
    simp only [Occupied, lookup_erase_eq]
    by_cases hj : j = id <;> simp [hj]
  | provisional d | pending d k => simp [Occupied]

end Howy.Prompt
