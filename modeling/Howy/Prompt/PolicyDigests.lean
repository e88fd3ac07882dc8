import Howy.Daemon.Config
import Howy.Library.Framing
import Howy.Prompt.Digests

/-! The policy digest, and the separation of everything the prompt manager hashes. -/

namespace Howy.Prompt.PolicyDigests

open Library Storage Daemon

/-- What `capture` reads: the presence and security settings, with the two flags their validation does not look
at. -/
structure PolicyConfig where
  presence : PresenceConfig
  localOnly : Bool
  security : SecurityConfig
  requireMlock : Bool
deriving DecidableEq

def presenceModeCode : PresenceMode → UInt8
  | .off => 0
  | .confirm => 1

def embeddingModeCode : EmbeddingSecurityMode → UInt8
  | .plaintext => 0
  | .aeadCached => 1
  | .aeadEphemeral => 2
  | .reservedFuture => 3

def policyFields (config : PolicyConfig) : List Bytes :=
  [utf8Bytes "howy-prompt-policy-v2", [presenceModeCode config.presence.mode], [config.localOnly.toUInt8],
    leBytes 8 config.presence.promptTimeoutMs.toNat, leBytes 8 config.presence.commitToCameraMs.toNat,
    leBytes 8 config.presence.scanTimeoutMs.toNat, leBytes 8 config.presence.maxPendingPerUid.toNat,
    leBytes 8 config.presence.maxPendingGlobal.toNat, leBytes 8 config.presence.allowedPamServices.length] ++
  (config.presence.allowedPamServices.map utf8Bytes ++
  [[embeddingModeCode config.security.embeddingMode], leBytes 8 config.security.keyEpoch.toNat,
    leBytes 8 config.security.maxEmbeddingsPerUser.toNat, leBytes 8 config.security.maxRecordBytes.toNat,
    leBytes 8 config.security.maxPlaintextBytes.toNat, utf8Bytes config.security.cached.credentialName,
    leBytes 8 config.security.cached.maxCachedUsers.toNat, leBytes 8 config.security.cached.maxCacheBytes.toNat,
    [config.requireMlock.toUInt8], utf8Bytes config.security.ephemeral.sealedKeyBlob,
    utf8Bytes config.security.ephemeral.keyDescription, utf8Bytes config.security.ephemeral.tpmParentHandle])

def hashFields (fields : List Bytes) : Bytes := fields.flatMap hashField

def captureInput (config : PolicyConfig) : Bytes := hashFields (policyFields config)

def capture (sha256 : Sha256) (config : PolicyConfig) (storage : PromptStorageSnapshot) : SecuritySnapshot :=
  ⟨sha256 (captureInput config), storage⟩

/-- Slices and strings hold fewer than `2 ^ 64` bytes. -/
abbrev Fits (fields : List Bytes) : Prop := ∀ field ∈ fields, field.length < 2 ^ 64

lemma hashFields_inj {as bs : List Bytes} (ha : Fits as) (hb : Fits bs)
    (h : hashFields as = hashFields bs) : as = bs :=
  separates_leBytes.flatMap_inj (fun _ h => by cases h) ha hb h

lemma presenceModeCode_injective : Function.Injective presenceModeCode := by
  rintro (_ | _) (_ | _) h <;> first | rfl | cases h

lemma embeddingModeCode_injective : Function.Injective embeddingModeCode := by
  rintro (_ | _ | _ | _) (_ | _ | _ | _) h <;> first | rfl | cases h

lemma toUInt8_injective : Function.Injective Bool.toUInt8 := by
  rintro (_ | _) (_ | _) h <;> first | rfl | cases h

lemma policyFields_injective : Function.Injective policyFields := by
  rintro ⟨⟨m, l, t1, t2, t3, p1, p2⟩, lo, ⟨e, k, n1, n2, n3, ⟨c1, c2, c3⟩, ⟨e1, e2, e3⟩⟩, rm⟩
    ⟨⟨m', l', t1', t2', t3', p1', p2'⟩, lo', ⟨e', k', n1', n2', n3', ⟨c1', c2', c3'⟩, ⟨e1', e2', e3'⟩⟩, rm'⟩ h
  obtain ⟨hhead, hrest⟩ := List.append_inj h rfl
  obtain ⟨hservices, htail⟩ := List.append_inj' hrest rfl
  have hl : l = l' := utf8Bytes_injective.list_map hservices
  simp only [List.cons.injEq, leBytes_uint64_inj, leBytes_uint32_inj, presenceModeCode_injective.eq_iff,
    toUInt8_injective.eq_iff, embeddingModeCode_injective.eq_iff, utf8Bytes_injective.eq_iff, and_true,
    true_and] at hhead htail
  simp [hhead, hl, htail]

inductive HashCall where
  | keyedDigest (secret : InstanceSecret) (domain value : Bytes)
  | deriveToken (secret : InstanceSecret) (counter : UInt64) (random : FixedArray UInt8 32)
  | capture (config : PolicyConfig)
deriving DecidableEq

def HashCall.input : HashCall → Bytes
  | .keyedDigest secret domain value => keyedDigestInput secret domain value
  | .deriveToken secret counter random => deriveTokenInput secret counter.toNat random
  | .capture config => captureInput config

def HashCall.digest (sha256 : Sha256) (storage : PromptStorageSnapshot) : HashCall → BindingDigest
  | .keyedDigest secret domain value => Prompt.keyedDigest sha256 secret domain value
  | .deriveToken secret counter random => Prompt.deriveToken sha256 secret counter.toNat random
  | .capture config => (PolicyDigests.capture sha256 config storage).policyGeneration

def HashCall.fields : HashCall → List Bytes
  | .keyedDigest secret domain value => [utf8Bytes "howy-prompt-keyed-v2", secret.val, domain, value]
  | .deriveToken secret counter random =>
    [utf8Bytes "howy-prompt-token-v2", secret.val, leBytes 8 counter.toNat, random.val]
  | .capture config => policyFields config

lemma HashCall.input_eq (call : HashCall) : call.input = hashFields call.fields := by
  cases call with
  | keyedDigest | deriveToken =>
    simp [input, fields, hashFields, keyedDigestInput, deriveTokenInput]
  | capture => rfl

lemma HashCall.digest_eq (sha256 : Sha256) (storage : PromptStorageSnapshot) (call : HashCall) :
    call.digest sha256 storage = sha256 call.input := by
  cases call <;> rfl

lemma HashCall.fields_injective : Function.Injective HashCall.fields := by
  have htag (a b : String) (as bs : List Bytes) (h : utf8Bytes a :: as = utf8Bytes b :: bs) : a = b :=
    utf8Bytes_injective (List.cons.inj h).1
  rintro (⟨s, d, v⟩ | ⟨s, n, r⟩ | c) (⟨s', d', v'⟩ | ⟨s', n', r'⟩ | c') h
  case keyedDigest.keyedDigest | deriveToken.deriveToken =>
    simpa [fields, Subtype.ext_iff, leBytes_uint64_inj] using h
  case capture.capture => rw [policyFields_injective h]
  all_goals exact absurd (htag _ _ _ _ h) (by decide)

/-- Equal hash inputs come from the same function with the same arguments, and so do equal digests. -/
theorem hash_inputs_separated (a b : HashCall) (ha : Fits a.fields) (hb : Fits b.fields) :
    (a.input = b.input → a = b) ∧
    ∀ sha256 storage storage', Set.InjOn sha256 {a.input, b.input} →
      a.digest sha256 storage = b.digest sha256 storage' → a = b := by
  have hinput (h : a.input = b.input) : a = b := by
    rw [a.input_eq, b.input_eq] at h
    exact HashCall.fields_injective (hashFields_inj ha hb h)
  refine ⟨hinput, fun sha256 storage storage' hsha h => hinput ?_⟩
  rw [a.digest_eq, b.digest_eq] at h
  exact hsha (Set.mem_insert _ _) (Set.mem_insert_of_mem _ rfl) h

def sampleConfig (services : List String) : PolicyConfig where
  presence := ⟨.confirm, services, 30000, 5000, 10000, 1, 8⟩
  localOnly := true
  security := ⟨.plaintext, 1, 64, 4096, 4096, ⟨"key", 1, 4096⟩, ⟨"blob", "key", "0x81000001"⟩⟩
  requireMlock := false

theorem hash_inputs_separated_services :
    captureInput (sampleConfig ["su", "do"]) ≠ captureInput (sampleConfig ["sudo"]) := by
  intro h
  have hsame := (hash_inputs_separated (.capture (sampleConfig ["su", "do"])) (.capture (sampleConfig ["sudo"]))
    (by decide) (by decide)).1 h
  exact absurd hsame (by decide)

end Howy.Prompt.PolicyDigests
