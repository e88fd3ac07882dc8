import Mathlib.Data.List.Flatten
import Mathlib.Data.List.Range
import Mathlib.Tactic.Common

/-! Lists cut into blocks of one width. -/

namespace Howy.Library

variable {α : Type} {k : ℕ}

def block (w k : ℕ) (l : List α) : List α := (l.drop (k * w)).take w

def overwrite (start : ℕ) (b l : List α) : List α := l.take start ++ (b ++ l.drop (start + b.length))

variable {n w : ℕ} {l : List α} {bs : List (List α)}

lemma length_block (h : l.length = n * w) (hk : k < n) : (block w k l).length = w := by
  have hle := Nat.mul_le_mul_right w hk
  rw [Nat.succ_mul] at hle
  rw [block, List.length_take, List.length_drop]
  omega

lemma length_overwrite {start : ℕ} {b : List α} (h : start + b.length ≤ l.length) :
    (overwrite start b l).length = l.length := by
  rw [overwrite, List.length_append, List.length_append, List.length_take, List.length_drop]
  omega

lemma drop_flatten (h : ∀ b ∈ bs, b.length = w) (k : ℕ) : bs.flatten.drop (k * w) = (bs.drop k).flatten := by
  induction k generalizing bs with
  | zero => rw [Nat.zero_mul, List.drop_zero, List.drop_zero]
  | succ k ih =>
    cases bs with
    | nil => simp
    | cons b bs =>
      have hb := h b List.mem_cons_self
      rw [List.flatten_cons, List.drop_succ_cons, Nat.succ_mul, Nat.add_comm, ← List.drop_drop, ← hb,
        List.drop_left, hb]
      exact ih fun c hc => h c (List.mem_cons_of_mem b hc)

lemma slice_flatten {a m : ℕ} (h : ∀ b ∈ bs, b.length = w) (hk : k < bs.length)
    (ham : a + m ≤ w) : (bs.flatten.drop (k * w + a)).take m = (bs[k].drop a).take m := by
  have hb := h _ (List.getElem_mem hk)
  rw [← List.drop_drop, drop_flatten h, List.drop_eq_getElem_cons hk, List.flatten_cons,
    List.drop_append_of_le_length (by omega), List.take_append_of_le_length]
  rw [List.length_drop]
  omega

lemma length_flatten (h : ∀ b ∈ bs, b.length = w) : bs.flatten.length = bs.length * w := by
  induction bs with
  | nil => simp
  | cons b bs ih =>
    rw [List.flatten_cons, List.length_append, h b List.mem_cons_self, ih fun c hc =>
      h c (List.mem_cons_of_mem b hc), List.length_cons, Nat.succ_mul, Nat.add_comm]

lemma block_succ : block w (k + 1) l = block w k (l.drop w) := by
  rw [block, block, List.drop_drop, Nat.succ_mul, Nat.add_comm]

lemma flatten_blocks (h : l.length = n * w) : ((List.range n).map (block w · l)).flatten = l := by
  induction n generalizing l with
  | zero =>
    rw [Nat.zero_mul] at h
    rw [List.eq_nil_of_length_eq_zero h]
    rfl
  | succ n ih =>
    rw [Nat.succ_mul] at h
    have hrest : (l.drop w).length = n * w := by
      rw [List.length_drop]
      omega
    have hblocks : (List.range n).map (fun k => block w (k + 1) l) = (List.range n).map (block w · (l.drop w)) :=
      List.map_congr_left fun k _ => block_succ
    rw [List.range_succ_eq_map, List.map_cons, List.map_map]
    change block w 0 l ++ ((List.range n).map fun k => block w (k + 1) l).flatten = l
    rw [hblocks, ih hrest, block, Nat.zero_mul, List.drop_zero, List.take_append_drop]

lemma foldl_overwrite {m : ℕ} {f : ℕ → List α} (hf : ∀ k < n, (f k).length = w) (hm : m ≤ n) :
    (List.range m).foldl (fun l k => overwrite (k * w) (f k) l) l =
      ((List.range m).map f).flatten ++ l.drop (m * w) := by
  induction m with
  | zero => simp
  | succ m ih =>
    have hlen : ((List.range m).map f).flatten.length = m * w := by
      rw [length_flatten, List.length_map, List.length_range]
      intro b hb
      obtain ⟨k, hk, rfl⟩ := List.mem_map.mp hb
      exact hf k ((List.mem_range.mp hk).trans (by omega))
    rw [List.range_succ, List.foldl_append, ih (by omega), List.foldl_cons, List.foldl_nil, overwrite,
      List.map_append, List.flatten_append, List.map_singleton, List.flatten_singleton, hf m (by omega),
      List.take_append_of_le_length hlen.ge, ← hlen, List.take_length, hlen, List.drop_append, hlen,
      List.drop_eq_nil_of_le (by omega), List.nil_append, List.drop_drop, List.append_assoc, Nat.succ_mul]
    congr 3
    omega

end Howy.Library
