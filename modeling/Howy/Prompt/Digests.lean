import Howy.Storage.Contracts

/-! Framed digests of the prompt manager and the values they bind. -/

namespace Howy.Prompt

open Library Storage

abbrev BindingDigest := FixedArray UInt8 32
abbrev PromptToken := FixedArray UInt8 32
abbrev PromptNonce := FixedArray UInt8 32
abbrev InstanceSecret := FixedArray UInt8 32

abbrev Sha256 := Bytes → BindingDigest

def hashField (field : Bytes) : Bytes := leBytes 8 field.length ++ field

def deriveTokenInput (secret : InstanceSecret) (counter : ℕ) (random : FixedArray UInt8 32) : Bytes :=
  hashField (utf8Bytes "howy-prompt-token-v2") ++ (hashField secret.val ++
    (hashField (leBytes 8 counter) ++ hashField random.val))

def deriveToken (sha256 : Sha256) (secret : InstanceSecret) (counter : ℕ) (random : FixedArray UInt8 32) :
    PromptToken :=
  sha256 (deriveTokenInput secret counter random)

def keyedDigestInput (secret : InstanceSecret) (domain value : Bytes) : Bytes :=
  hashField (utf8Bytes "howy-prompt-keyed-v2") ++ (hashField secret.val ++
    (hashField domain ++ hashField value))

def keyedDigest (sha256 : Sha256) (secret : InstanceSecret) (domain value : Bytes) : BindingDigest :=
  sha256 (keyedDigestInput secret domain value)

def connectionBinding (sha256 : Sha256) (secret : InstanceSecret) (connection : UInt64) : BindingDigest :=
  keyedDigest sha256 secret (utf8Bytes "connection-binding-v2") (leBytes 8 connection.toNat)

def tokenLookupInput (secret : InstanceSecret) (token : PromptToken) : Bytes :=
  keyedDigestInput secret (utf8Bytes "token-lookup-v2") token.val

def nonceInput (secret : InstanceSecret) (nonce : PromptNonce) : Bytes :=
  keyedDigestInput secret (utf8Bytes "nonce-v2") nonce.val

variable {secret : InstanceSecret}

lemma keyedDigestInput_injective {domain : Bytes} {a b : FixedArray UInt8 32}
    (h : keyedDigestInput secret domain a.val = keyedDigestInput secret domain b.val) : a = b := by
  apply Subtype.ext
  simp only [keyedDigestInput, hashField, a.property, b.property] at h
  simpa only [List.append_cancel_left_eq] using h

lemma tokenLookupInput_injective {a b : PromptToken}
    (h : tokenLookupInput secret a = tokenLookupInput secret b) : a = b := keyedDigestInput_injective h

lemma nonceInput_injective {a b : PromptNonce} (h : nonceInput secret a = nonceInput secret b) : a = b :=
  keyedDigestInput_injective h

lemma counter_eq_of_deriveTokenInput_eq {n m : ℕ} {r r' : FixedArray UInt8 32}
    (hn : n < 2 ^ 64) (hm : m < 2 ^ 64) (h : deriveTokenInput secret n r =
      deriveTokenInput secret m r') : n = m := by
  simp only [deriveTokenInput, hashField, length_leBytes, List.append_assoc, List.append_cancel_left_eq] at h
  exact leBytes_injOn hn hm (List.append_inj h (by rw [length_leBytes, length_leBytes])).1

def constantTimeEq (left right : BindingDigest) : Bool :=
  (List.zipWith (· ^^^ ·) left.val right.val).foldl (· ||| ·) 0 == 0

lemma foldl_or_eq_zero {bs : List UInt8} {acc : UInt8} :
    bs.foldl (· ||| ·) acc = 0 ↔ acc = 0 ∧ ∀ b ∈ bs, b = 0 := by
  induction bs generalizing acc with
  | nil => simp
  | cons b bs ih =>
    rw [List.foldl_cons, ih, UInt8.or_eq_zero_iff]
    simp [and_assoc]

lemma zipWith_xor_eq_zero {as bs : Bytes} (h : as.length = bs.length) :
    (∀ x ∈ List.zipWith (· ^^^ ·) as bs, x = 0) ↔ as = bs := by
  induction as generalizing bs with
  | nil =>
    simp [List.length_eq_zero_iff.mp h.symm]
  | cons a as ih =>
    obtain ⟨b, bs, rfl⟩ := List.exists_cons_of_length_eq_add_one h.symm
    have hl : as.length = bs.length := by simpa using h
    rw [List.zipWith_cons_cons]
    simp [ih hl]

@[simp] lemma constantTimeEq_iff {left right : BindingDigest} : constantTimeEq left right ↔ left = right := by
  have hl : left.val.length = right.val.length := by rw [left.property, right.property]
  rw [constantTimeEq, beq_iff_eq, foldl_or_eq_zero, zipWith_xor_eq_zero hl, Subtype.ext_iff]
  exact and_iff_right rfl

inductive PromptOriginV1 where
  | unspecified
  | local_
  | remote
deriving DecidableEq

def PromptOriginV1.toI32 : PromptOriginV1 → Int
  | .unspecified => 0
  | .local_ => 1
  | .remote => 2

def PromptOriginV1.ofI32 (value : Int) : Option PromptOriginV1 :=
  if value = 0 then some .unspecified
  else if value = 1 then some .local_
  else if value = 2 then some .remote
  else none

structure SecuritySnapshot where
  policyGeneration : BindingDigest
  storage : PromptStorageSnapshot
deriving DecidableEq

def SecuritySnapshot.constantTimeEq (a b : SecuritySnapshot) : Bool :=
  Prompt.constantTimeEq a.policyGeneration b.policyGeneration &&
    decide (a.storage.health = b.storage.health) && decide (a.storage.candidate = b.storage.candidate) &&
    Prompt.constantTimeEq a.storage.backendIdentity b.storage.backendIdentity &&
    Prompt.constantTimeEq a.storage.policyGeneration b.storage.policyGeneration

@[simp] lemma SecuritySnapshot.constantTimeEq_iff {a b : SecuritySnapshot} : a.constantTimeEq b ↔ a = b := by
  obtain ⟨pa, ha, ca, ia, ga⟩ := a
  obtain ⟨pb, hb, cb, ib, gb⟩ := b
  simp [SecuritySnapshot.constantTimeEq, and_assoc]

end Howy.Prompt
