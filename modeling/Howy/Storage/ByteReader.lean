import Howy.Storage.Records

/-! The bounded reader of the record codecs, and what each of its reads accepts. -/

namespace Howy.Storage

open Library

abbrev Reader (α : Type) := StateT Bytes (Except StorageError) α

variable (format : String)

def take (length : ℕ) : Reader Bytes := fun bytes =>
  if length ≤ bytes.length then .ok (bytes.take length, bytes.drop length)
  else .error (.invalidLength format)

def readArray (n : ℕ) : Reader (FixedArray UInt8 n) := do
  let value ← take format n
  if h : value.length = n then pure ⟨value, h⟩ else throw (.invalidLength format)

def readU8 : Reader UInt8 := do
  let bytes ← readArray format 1
  pure (bytes.val.headD 0)

def readU16 : Reader UInt16 := do
  let bytes ← readArray format 2
  pure (UInt16.ofNat (leValue bytes.val))

def readU32 : Reader UInt32 := do
  let bytes ← readArray format 4
  pure (UInt32.ofNat (leValue bytes.val))

def readU64 : Reader UInt64 := do
  let bytes ← readArray format 8
  pure (UInt64.ofNat (leValue bytes.val))

def remaining : Reader ℕ := fun bytes => .ok (bytes.length, bytes)

def finish : Reader Unit := fun bytes =>
  if bytes = [] then .ok ((), bytes) else .error (.invalidLength format)

variable {format}

variable {s t : Bytes} {n : ℕ}

@[simp] lemma accepts_take {length : ℕ} {v : Bytes} :
    Accepts (take format length) s v t ↔ s = v ++ t ∧ v.length = length := by
  rw [Accepts, StateT.run, take]
  constructor
  · intro h
    split at h
    next hl =>
      cases h
      exact ⟨(List.take_append_drop length s).symm, List.length_take_of_le hl⟩
    · cases h
  · rintro ⟨rfl, rfl⟩
    rw [if_pos (by simp), List.take_left, List.drop_left]

@[simp] lemma accepts_readArray {v : FixedArray UInt8 n} :
    Accepts (readArray format n) s v t ↔ s = v.val ++ t := by
  simp only [readArray, accepts_bind, accepts_take]
  constructor
  · rintro ⟨w, u, ⟨rfl, hw⟩, h⟩
    rw [dif_pos hw] at h
    obtain ⟨rfl, rfl⟩ := h
    rfl
  · rintro rfl
    refine ⟨v.val, t, ⟨rfl, v.property⟩, ?_⟩
    rw [dif_pos v.property, accepts_pure]
    exact ⟨rfl, rfl⟩

@[simp] lemma accepts_readU8 {v : UInt8} : Accepts (readU8 format) s v t ↔ s = v :: t := by
  simp only [readU8, accepts_bind, accepts_readArray, accepts_pure]
  constructor
  · rintro ⟨⟨w, hw⟩, u, rfl, rfl, rfl⟩
    obtain ⟨b, rfl⟩ := List.length_eq_one_iff.mp hw
    rfl
  · rintro rfl
    exact ⟨⟨[v], rfl⟩, t, rfl, rfl, rfl⟩

lemma accepts_readInt {α : Type} {ofNat : ℕ → α} {toNat : α → ℕ}
    (hlt : ∀ v, toNat v < 256 ^ n) (hof : ∀ v, ofNat (toNat v) = v) (hto : ∀ k < 256 ^ n,
      toNat (ofNat k) = k) {v : α} :
    Accepts (do let bytes ← readArray format n; pure (ofNat (leValue bytes.val))) s v t ↔
      s = leBytes n (toNat v) ++ t := by
  simp only [accepts_bind, accepts_readArray, accepts_pure]
  constructor
  · rintro ⟨⟨w, hw⟩, u, rfl, rfl, rfl⟩
    have hk := leValue_lt w
    rw [hw] at hk
    have hb := leBytes_leValue w
    rw [hw] at hb
    rw [hto _ hk, hb]
  · rintro rfl
    refine ⟨⟨leBytes n (toNat v), length_leBytes n _⟩, t, rfl, ?_, rfl⟩
    rw [leValue_leBytes (hlt v), hof]

@[simp] lemma accepts_readU16 {v : UInt16} : Accepts (readU16 format) s v t ↔ s = leBytes 2 v.toNat ++ t :=
  accepts_readInt (fun v => v.toNat_lt) (fun _ => UInt16.ofNat_toNat) (fun _ hk => UInt16.toNat_ofNat_of_lt' hk)

@[simp] lemma accepts_readU32 {v : UInt32} : Accepts (readU32 format) s v t ↔ s = leBytes 4 v.toNat ++ t :=
  accepts_readInt (fun v => v.toNat_lt) (fun _ => UInt32.ofNat_toNat) (fun _ hk => UInt32.toNat_ofNat_of_lt' hk)

@[simp] lemma accepts_readU64 {v : UInt64} : Accepts (readU64 format) s v t ↔ s = leBytes 8 v.toNat ++ t :=
  accepts_readInt (fun v => v.toNat_lt) (fun _ => UInt64.ofNat_toNat) (fun _ hk => UInt64.toNat_ofNat_of_lt' hk)

@[simp] lemma accepts_remaining : Accepts remaining s n t ↔ s.length = n ∧ s = t := by
  simp [Accepts, StateT.run, remaining]

@[simp] lemma accepts_finish {u : Unit} : Accepts (finish format) s u t ↔ s = [] ∧ t = [] := by
  rw [Accepts, StateT.run, finish]
  constructor
  · intro h
    split at h
    next hs =>
      cases h
      exact ⟨hs, hs⟩
    · cases h
  · rintro ⟨rfl, rfl⟩
    rfl

end Howy.Storage
