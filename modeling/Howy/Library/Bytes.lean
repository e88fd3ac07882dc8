import Mathlib.Data.List.Basic
import Mathlib.Tactic.Ring

/-! Little-endian integers and UTF-8 text as lists of bytes. -/

namespace Howy.Library

def leBytes : ℕ → ℕ → List UInt8
  | 0, _ => []
  | w + 1, n => UInt8.ofNat n :: leBytes w (n / 256)

def leValue : List UInt8 → ℕ
  | [] => 0
  | b :: bs => b.toNat + 256 * leValue bs

@[simp] lemma length_leBytes (w n : ℕ) : (leBytes w n).length = w := by
  induction w generalizing n with
  | zero => rfl
  | succ w ih => simp [leBytes, ih]

lemma leValue_lt (bs : List UInt8) : leValue bs < 256 ^ bs.length := by
  induction bs with
  | nil => exact Nat.one_pos
  | cons b bs ih =>
    have hb := b.toNat_lt
    rw [List.length_cons]
    rw [leValue]
    omega

variable {bs : List UInt8} {n : ℕ}

lemma leValue_leBytes {w : ℕ} (h : n < 256 ^ w) : leValue (leBytes w n) = n := by
  induction w generalizing n with
  | zero =>
    rw [Nat.pow_zero, Nat.lt_one_iff] at h
    simp [leBytes, leValue, h]
  | succ w ih =>
    have hn : n / 256 < 256 ^ w := by
      omega
    have hb : (UInt8.ofNat n).toNat = n % 256 := UInt8.toNat_ofNat'
    rw [leBytes, leValue, ih hn]
    omega

lemma leBytes_leValue (bs : List UInt8) : leBytes bs.length (leValue bs) = bs := by
  induction bs with
  | nil => rfl
  | cons b bs ih =>
    have hb := b.toNat_lt
    have hlow : UInt8.ofNat (b.toNat + 256 * leValue bs) = b := by
      apply UInt8.toNat_inj.mp
      rw [UInt8.toNat_ofNat']
      omega
    have hhigh : (b.toNat + 256 * leValue bs) / 256 = leValue bs := by omega
    rw [List.length_cons, leValue, leBytes, hlow, hhigh, ih]

lemma leBytes_injOn {w m : ℕ} (hn : n < 256 ^ w) (hm : m < 256 ^ w) (h : leBytes w n = leBytes w m) : n = m := by
  rw [← leValue_leBytes hn, ← leValue_leBytes hm, h]

lemma leBytes_uint64_inj {a b : UInt64} : leBytes 8 a.toNat = leBytes 8 b.toNat ↔ a = b :=
  ⟨fun h => UInt64.toNat_inj.mp (leBytes_injOn a.toNat_lt b.toNat_lt h), by rintro rfl; rfl⟩

lemma leBytes_uint32_inj {a b : UInt32} : leBytes 8 a.toNat = leBytes 8 b.toNat ↔ a = b := by
  have hlt (x : UInt32) : x.toNat < 256 ^ 8 := by
    have := x.toNat_lt
    omega
  exact ⟨fun h => UInt32.toNat_inj.mp (leBytes_injOn (hlt a) (hlt b) h), by rintro rfl; rfl⟩

def leU32 (x : UInt32) : List UInt8 := leBytes 4 x.toNat

def leWords : List UInt8 → List UInt32
  | a :: b :: c :: d :: bs => UInt32.ofNat (leValue [a, b, c, d]) :: leWords bs
  | _ => []

lemma leU32_ofNat_leValue (h : bs.length = 4) : leU32 (UInt32.ofNat (leValue bs)) = bs := by
  have hlt := leValue_lt bs
  rw [h] at hlt
  have hv := UInt32.toNat_ofNat_of_lt' hlt
  rw [leU32, hv, ← h, leBytes_leValue]

lemma leWords_leU32_append (x : UInt32) (bs : List UInt8) : leWords (leU32 x ++ bs) = x :: leWords bs := by
  obtain ⟨a, b, c, d, he⟩ : ∃ a b c d, leU32 x = [a, b, c, d] := ⟨_, _, _, _, rfl⟩
  have hx := x.toNat_lt
  have hv : leValue [a, b, c, d] = x.toNat := by rw [← he, leU32, leValue_leBytes hx]
  rw [he]
  simp [leWords, hv]

lemma leWords_flatMap (xs : List UInt32) : leWords (xs.flatMap leU32) = xs := by
  induction xs with
  | nil => rfl
  | cons x xs ih => rw [List.flatMap_cons, leWords_leU32_append, ih]

lemma length_flatMap_leU32 (xs : List UInt32) : (xs.flatMap leU32).length = xs.length * 4 := by
  induction xs with
  | nil => rfl
  | cons x xs ih =>
    rw [List.flatMap_cons, List.length_append, ih, leU32, length_leBytes, List.length_cons]
    ring

lemma flatMap_leWords (h : bs.length = n * 4) : (leWords bs).flatMap leU32 = bs := by
  induction n generalizing bs with
  | zero =>
    rw [List.length_eq_zero_iff] at h
    subst h
    rfl
  | succ n ih =>
    match bs, h with
    | a :: b :: c :: d :: bs, h =>
      have hbs : bs.length = n * 4 := by
        simp only [List.length_cons] at h
        omega
      rw [leWords, List.flatMap_cons, ih hbs, leU32_ofNat_leValue rfl]
      rfl
    | [], h | [_], h | [_, _], h | [_, _, _], h =>
      simp only [List.length_cons, List.length_nil] at h
      omega

lemma length_leWords (h : bs.length = n * 4) : (leWords bs).length = n := by
  have hl := length_flatMap_leU32 (leWords bs)
  rw [flatMap_leWords h] at hl
  omega

def utf8Bytes (s : String) : List UInt8 := s.toByteArray.data.toList

def fromUtf8 (bs : List UInt8) : Option String := String.fromUTF8? ⟨⟨bs⟩⟩

lemma utf8Bytes_injective : Function.Injective utf8Bytes := by
  intro s t h
  apply String.toByteArray_inj.mp
  apply ByteArray.ext
  exact Array.toList_inj.mp h

lemma fromUtf8_eq_some {s : String} : fromUtf8 bs = some s ↔ utf8Bytes s = bs := by
  constructor
  · intro h
    simp only [fromUtf8, String.fromUTF8?] at h
    split at h
    · cases h
      rfl
    · exact absurd h (by simp)
  · rintro rfl
    have hv : (ByteArray.mk ⟨utf8Bytes s⟩).IsValidUTF8 := s.isValidUTF8
    simp only [fromUtf8, String.fromUTF8?, dif_pos hv]
    rfl

lemma utf8Bytes_append (s t : String) : utf8Bytes (s ++ t) = utf8Bytes s ++ utf8Bytes t := by
  rfl

lemma utf8Bytes_singleton {b : UInt8} (h : b < 128) : utf8Bytes (String.singleton (Char.ofNat b.toNat)) = [b] := by
  have hb : b.toNat < 128 := UInt8.lt_iff_toNat_lt.mp h
  have hv : b.toNat.isValidChar := .inl (by omega)
  have hn : (Char.ofNat b.toNat).toNat = b.toNat := by
    rw [Char.ofNat, dif_pos hv]
    rfl
  have hs : (Char.ofNat b.toNat).utf8Size = 1 := by
    rw [Char.utf8Size_eq_one_iff]
    exact hn.trans_le (Nat.le_of_lt_succ hb)
  have hc : (Char.ofNat b.toNat).val.toUInt8 = b := by
    apply UInt8.toNat_inj.mp
    change (Char.ofNat b.toNat).toNat % 256 = _
    omega
  rw [utf8Bytes, String.toByteArray_singleton, List.utf8Encode_singleton,
    String.utf8EncodeChar_eq_singleton hs, hc, List.data_toByteArray]

lemma utf8Bytes_ofList (h : ∀ b ∈ bs, b < 128) :
    utf8Bytes (String.ofList (bs.map fun b => Char.ofNat b.toNat)) = bs := by
  induction bs with
  | nil => rfl
  | cons b bs ih =>
    rw [List.map_cons, String.ofList_cons, utf8Bytes_append, ih fun b hb => h b (List.mem_cons_of_mem _ hb),
      utf8Bytes_singleton (h b List.mem_cons_self), List.singleton_append]

lemma fromUtf8_ascii (h : ∀ b ∈ bs, b < 128) : ∃ s, fromUtf8 bs = some s :=
  ⟨_, fromUtf8_eq_some.mpr (utf8Bytes_ofList h)⟩

lemma pairwise_mergeSort {α : Type} (key : α → List UInt8) (l : List α) :
    (l.mergeSort fun a b => decide (key a ≤ key b)).Pairwise fun a b => key a ≤ key b := by
  have h := @List.pairwise_mergeSort α (fun a b => decide (key a ≤ key b))
    (fun a b c hab hbc => decide_eq_true (List.le_trans (of_decide_eq_true hab) (of_decide_eq_true hbc)))
    (fun a b => by
      rw [Bool.or_eq_true, decide_eq_true_eq, decide_eq_true_eq]
      exact List.le_total _ _) l
  exact h.imp of_decide_eq_true

end Howy.Library
