import Mathlib.Algebra.GroupWithZero.Nat
import Mathlib.Algebra.Order.BigOperators.Group.List
import Mathlib.Algebra.Order.Group.Nat
import Mathlib.Data.List.AList

/-! Finite keyed tables: how inserting and erasing change their size, the number of values of a kind and sums over
them. -/

namespace Howy.Library

variable {K V : Type} [DecidableEq K] {l : K}

abbrev Table (K V : Type) := AList (fun _ : K => V)

def size (t : Table K V) : ℕ := t.entries.length

def countValues (p : V → Bool) (t : Table K V) : ℕ := t.entries.countP fun e => p e.2

def values (t : Table K V) : List V := t.entries.map Sigma.snd

def total (f : V → ℕ) (t : Table K V) : ℕ := (t.entries.map fun e => f e.2).sum

variable {t : Table K V} {k : K} {v : V}

lemma mem_iff_lookup : k ∈ t ↔ ∃ v, t.lookup k = some v := by
  rw [← AList.lookup_isSome, Option.isSome_iff_exists]

lemma mem_values : v ∈ values t ↔ ∃ k, t.lookup k = some v := by
  rw [values, List.mem_map]
  constructor
  · rintro ⟨⟨k, v⟩, h, rfl⟩
    exact ⟨k, AList.mem_lookup_iff.mpr h⟩
  · rintro ⟨k, h⟩
    exact ⟨⟨k, v⟩, AList.mem_lookup_iff.mp h, rfl⟩

lemma entries_erase_split (h : t.lookup k = some v) :
    ∃ l r, t.entries = l ++ ⟨k, v⟩ :: r ∧ (t.erase k).entries = l ++ r := by
  have hk := AList.mem_keys.mp (mem_iff_lookup.mpr ⟨v, h⟩)
  obtain ⟨w, l, r, -, hl, hr⟩ := List.exists_of_kerase hk
  have hw : t.lookup k = some w := by
    apply AList.mem_lookup_iff.mpr
    rw [hl]
    exact List.mem_append_right l List.mem_cons_self
  rw [h, Option.some.injEq] at hw
  subst hw
  exact ⟨l, r, hl, hr⟩

lemma size_erase_add_one (h : t.lookup k = some v) : size (t.erase k) + 1 = size t := by
  obtain ⟨l, r, hl, hr⟩ := entries_erase_split h
  simp only [size, hl, hr, List.length_append, List.length_cons]
  omega

lemma countValues_erase_add (h : t.lookup k = some v) (p : V → Bool) :
    countValues p (t.erase k) + (if p v then 1 else 0) = countValues p t := by
  obtain ⟨l, r, hl, hr⟩ := entries_erase_split h
  simp only [countValues, hl, hr, List.countP_append, List.countP_cons]
  omega

lemma erase_of_lookup_eq_none (h : t.lookup k = none) : t.erase k = t := by
  apply AList.ext
  exact List.kerase_of_notMem_keys (AList.lookup_eq_none.mp h)

lemma erase_insert_of_none (h : t.lookup k = none) (v : V) : (t.insert k v).erase k = t := by
  apply AList.ext
  have hcons := List.kerase_cons_eq (l := t.entries.kerase k) (s := ⟨k, v⟩) (rfl : k = k)
  exact hcons.trans (List.kerase_of_notMem_keys (AList.lookup_eq_none.mp h))

lemma size_erase_le (t : Table K V) (k : K) : size (t.erase k) ≤ size t :=
  (List.kerase_sublist k t.entries).length_le

lemma countValues_erase_le (t : Table K V) (k : K) (p : V → Bool) : countValues p (t.erase k) ≤ countValues p t :=
  (List.kerase_sublist k t.entries).countP_le

lemma size_insert (t : Table K V) (k : K) (v : V) : size (t.insert k v) = size (t.erase k) + 1 := rfl

lemma countValues_insert (t : Table K V) (k : K) (v : V) (p : V → Bool) :
    countValues p (t.insert k v) = countValues p (t.erase k) + if p v then 1 else 0 := by
  rw [countValues, AList.entries_insert, List.countP_cons]
  rfl

lemma size_insert_of_lookup {w : V} (h : t.lookup k = some v) : size (t.insert k w) = size t := by
  rw [size_insert, size_erase_add_one h]

lemma countValues_insert_of_lookup {w : V} (h : t.lookup k = some v) {p : V → Bool}
    (hp : p w = p v) : countValues p (t.insert k w) = countValues p t := by
  rw [countValues_insert, hp, countValues_erase_add h]

lemma lookup_insert_eq : (t.insert k v).lookup l = if l = k then some v else t.lookup l := by
  by_cases h : l = k
  · rw [if_pos h, h, AList.lookup_insert]
  · rw [if_neg h, AList.lookup_insert_ne h]

lemma lookup_erase_eq : (t.erase k).lookup l = if l = k then none else t.lookup l := by
  by_cases h : l = k
  · rw [if_pos h, h, AList.lookup_erase]
  · rw [if_neg h, AList.lookup_erase_ne h]

lemma lookup_of_erase {u : V} (h : (t.erase k).lookup l = some u) : t.lookup l = some u ∧ l ≠ k := by
  rw [lookup_erase_eq] at h
  split at h
  · cases h
  next hne =>
    exact ⟨h, hne⟩

lemma lookup_of_insert {u : V} (h : (t.insert k v).lookup l = some u) :
    l = k ∧ v = u ∨ l ≠ k ∧ t.lookup l = some u := by
  rw [lookup_insert_eq] at h
  split at h
  next hk =>
    exact .inl ⟨hk, Option.some.inj h⟩
  next hk =>
    exact .inr ⟨hk, h⟩

section

variable {t : Table K V} {k : K} {v w : V} (f : V → ℕ)

lemma total_erase_add (h : t.lookup k = some v) : total f (t.erase k) + f v = total f t := by
  obtain ⟨l, r, hl, hr⟩ := entries_erase_split h
  simp only [total, hl, hr, List.map_append, List.map_cons, List.sum_append, List.sum_cons]
  omega

lemma total_insert (t : Table K V) (k : K) (v : V) : total f (t.insert k v) = total f (t.erase k) + f v := by
  rw [total, AList.entries_insert, List.map_cons, Nat.add_comm]
  rfl

lemma total_insert_of_none (h : t.lookup k = none) (v : V) : total f (t.insert k v) = total f t + f v := by
  rw [total_insert, erase_of_lookup_eq_none h]

lemma total_insert_of_lookup (h : t.lookup k = some v) (w : V) :
    total f (t.insert k w) + f v = total f t + f w := by
  have herase := total_erase_add f h
  rw [total_insert]
  omega

lemma total_le {bound : ℕ} (h : ∀ k v, t.lookup k = some v → f v ≤ bound) : total f t ≤ size t * bound := by
  have hall : ∀ x ∈ t.entries.map fun e => f e.2, x ≤ bound := by
    intro x hx
    obtain ⟨⟨k, v⟩, hmem, rfl⟩ := List.mem_map.mp hx
    exact h k v (AList.mem_lookup_iff.mpr hmem)
  have hsum := List.sum_le_card_nsmul _ _ hall
  rw [List.length_map] at hsum
  exact hsum

end

lemma eq_empty_of_lookup (h : ∀ k, t.lookup k = none) : t = ∅ := by
  apply AList.ext
  apply List.eq_nil_iff_forall_not_mem.mpr
  rintro ⟨k, v⟩ hkv
  have hv := AList.mem_lookup_iff.mpr hkv
  rw [h k] at hv
  cases hv

end Howy.Library
