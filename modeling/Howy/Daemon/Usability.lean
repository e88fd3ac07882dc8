import Howy.Daemon.ColdLoad

namespace Howy.Daemon.Usability

open Library Storage Howypln1 Howyenc1Exact Budget Mode1 Plaintext

lemma exists_label (length : ℕ) : ∃ label, (utf8Bytes label).length = length := by
  obtain ⟨label, hlabel⟩ := @fromUtf8_ascii (List.replicate length 97) fun b hb => by
    rw [List.eq_of_mem_replicate hb]
    decide
  refine ⟨label, ?_⟩
  rw [fromUtf8_eq_some.mp hlabel, List.length_replicate]

lemma numberedId_injOn {j k : ℕ} (hj : j < 1000) (hk : k < 1000) (h : numberedId j = numberedId k) : j = k := by
  have hbytes := congrArg (fun id => id.bytes.val) h
  have hb := (List.append_inj hbytes (by rw [length_leBytes, length_leBytes])).1
  exact leBytes_injOn (hj.trans (by decide)) (hk.trans (by decide)) hb

lemma exists_entries (count labels : ℕ) (hc : count ≤ 1000) (hl : labels ≤ 256 * count) :
    ∃ entries : List EnrollmentEntry, entries.length = count ∧ labelBytes entries = labels ∧
      (entries.map (·.enrollmentId)).Nodup ∧ ∀ e ∈ entries, ∃ k < count, e.enrollmentId = numberedId k := by
  induction count generalizing labels with
  | zero => exact ⟨[], rfl, (Nat.le_zero.mp hl).symm, List.nodup_nil, fun _ h => absurd h (List.not_mem_nil)⟩
  | succ n ih =>
    obtain ⟨entries, hlength, hlabels, hnodup, hids⟩ := ih (labels - min 256 labels) (by omega) (by omega)
    obtain ⟨label, hlabel⟩ := exists_label (min 256 labels)
    let entry : EnrollmentEntry := ⟨numberedId n, 0, label, .filled _ 0, by
      rw [hlabel]; exact Nat.min_le_left _ _, by decide +kernel⟩
    refine ⟨entry :: entries, by rw [List.length_cons, hlength], ?_, ?_, ?_⟩
    · rw [labelBytes_cons, hlabel]
      omega
    · rw [List.map_cons, List.nodup_cons]
      refine ⟨?_, hnodup⟩
      intro hmem
      obtain ⟨e, he, heq⟩ := List.mem_map.mp hmem
      obtain ⟨k, hk, hid⟩ := hids e he
      have := numberedId_injOn (by omega) (by omega) (hid.symm.trans heq)
      omega
    · rintro e (_ | ⟨_, he⟩)
      · exact ⟨n, Nat.lt_succ_self n, rfl⟩
      · obtain ⟨k, hk, hid⟩ := hids e he
        exact ⟨k, Nat.lt_succ_of_lt hk, hid⟩

lemma exists_request (u : CanonicalUsername) (digest : ModelDigest) {count labels : ℕ} (h0 : count ≠ 0)
    (hc : count ≤ 1000) (hl : labels ≤ 256 * count) :
    ∃ (request : AppendRequest) (record : EnrollmentRecord), request.expectedGeneration = absentGeneration ∧
      EnrollmentRecord.new 1 digest request.username request.entries = .ok record ∧ request.username = u ∧
      request.entries.length = count ∧ labelBytes request.entries = labels := by
  obtain ⟨entries, hlength, hlabels, hnodup, -⟩ := exists_entries count labels hc hl
  have hne : entries ≠ [] := by
    rintro rfl
    exact h0 hlength.symm
  exact ⟨⟨u, absentGeneration, entries, hne⟩, ⟨1, digest, u, entries, by decide, hlength.trans_le hc, hnodup⟩, rfl,
    EnrollmentRecord.new_eq_ok.mpr ⟨rfl, rfl, rfl, rfl⟩, rfl, hlength, hlabels⟩

lemma exists_plaintext_appends (backend : PlaintextStorageBackend) (u : CanonicalUsername) {count labels : ℕ}
    (h0 : count ≠ 0) (hc : count ≤ backend.limits.maxEntries) (hl : labels ≤ 256 * count)
    (hb : 62 + u.bytes.length + 2076 * count + labels ≤ backend.limits.maxRecordBytes) :
    ∃ record bytes, StorageBackend.Appends (.plaintext backend) record bytes ∧ record.entries.length = count ∧
      labelBytes record.entries = labels := by
  have hcount : count ≤ 1000 := hc.trans backend.limits.maxEntries_le
  obtain ⟨request, record, hgeneration, hnew, hu, hlength, hlabels⟩ :=
    exists_request u backend.recognizerModel h0 hcount hl
  obtain ⟨-, -, husername, hentries⟩ := EnrollmentRecord.new_eq_ok.mp hnew
  obtain ⟨model, hmodel, -⟩ := exists_fromRecord record
  obtain ⟨bytes, hencode⟩ : ∃ bytes, encodeHowypln1 record = .ok bytes := ⟨_, encodeHowypln1_eq record⟩
  have hsize := length_encodeHowypln1 hencode
  rw [husername, hu, hentries, hlength] at hsize
  have hprepared : Plaintext.prepareAppend backend request none = .ok (record, model) := by
    simp only [Plaintext.prepareAppend, bind_eq_ok, failIf_eq_ok, invalid_eq_ok, checkedAdd_eq_some,
      mapError_eq_ok, pure_eq_ok, Option.elim_none, hgeneration, List.nil_append, List.length_nil]
    exact ⟨(), by simp, _, ⟨by omega, rfl⟩, (), by omega, 1, rfl, record, hnew, model, hmodel, rfl⟩
  have hencoded : encodeRecord backend record = .ok bytes := by
    simp only [encodeRecord, bind_eq_ok, mapError_eq_ok, failIf_eq_ok]
    exact ⟨_, hencode, (), by omega, rfl⟩
  exact ⟨record, bytes, .plaintext hprepared hencoded, by rw [hentries, hlength], by rw [hentries, hlabels]⟩

lemma appendEstimate_absent {backend : Mode1StorageBackend} {entries : List EnrollmentEntry}
    (h0 : entries.length ≠ 0) (hc : entries.length ≤ backend.limits.maxEntries)
    (hp : 8 + 2076 * entries.length + labelBytes entries ≤ backend.limits.maxPlaintextBytes) :
    appendEstimate backend none entries = .ok (appendEstimateOf [] entries.length (labelBytes entries)) := by
  have hentries : backend.limits.maxEntries ≤ 1000 := backend.limits.maxEntries_le
  have hbytes : backend.limits.maxPlaintextBytes ≤ 2621440 := backend.limits.maxPlaintextBytes_le
  have hshape := forAppendShape_eq none .aeadCached backend.keyEpoch (.filled 12 0) h0
    (Nat.mul_comm 256 _ ▸ labelBytes_le entries)
    (by simp only [entriesOf, Option.elim_none, List.length_nil]; omega)
    (by simp only [entriesOf, Option.elim_none, List.length_nil, labelBytes_nil]; omega)
  simp only [appendEstimate, bind_eq_ok, failIf_eq_ok, invalid_eq_ok, pure_eq_ok,
    foldlM_labelBytes entries 0 (by omega), Option.some.injEq, Option.map_none, Option.elim_none, Nat.zero_add]
  refine ⟨_, rfl, _, hshape, (), ?_, rfl⟩
  simp only [appendEstimateOf, shapeEstimate, entriesOf, Option.elim_none, List.length_nil, labelBytes_nil]
  omega

lemma exists_mode1_appends (backend : Mode1StorageBackend) (u : CanonicalUsername) {count labels : ℕ}
    (h0 : count ≠ 0) (hc : count ≤ backend.limits.maxEntries) (hl : labels ≤ 256 * count)
    (hb : 8 + 2076 * count + labels ≤ backend.limits.maxPlaintextBytes) :
    ∃ record bytes, StorageBackend.Appends (.mode1 backend) record bytes ∧ record.entries.length = count ∧
      labelBytes record.entries = labels := by
  have hcount := hc.trans backend.limits.maxEntries_le
  obtain ⟨request, record, -, hnew, hu, hlength, hlabels⟩ := exists_request u backend.recognizerModel h0 hcount hl
  obtain ⟨-, -, -, hentries⟩ := EnrollmentRecord.new_eq_ok.mp hnew
  have happend := @appendEstimate_absent backend request.entries (by omega) (by omega) (by omega)
  obtain ⟨bytes, hseals⟩ : ∃ bytes, Seals backend record bytes :=
    ⟨_, .filled 12 0, encodeHowyenc1WithNonce_eq_ok.mpr ⟨backend.keyEpoch_ne_zero, rfl⟩⟩
  have hagrees : (none : Option InspectedRecord).map (·.header) =
      (none : Option EnrollmentRecord).map (headerOf · .aeadCached backend.keyEpoch (.filled 12 0)) := rfl
  exact ⟨record, bytes, .mode1 hagrees happend rfl hnew hseals, by rw [hentries,
    hlength], by rw [hentries, hlabels]⟩

structure Validated (security : SecurityConfig) : Prop where
  entries : 1 ≤ security.maxEmbeddingsPerUser.toNat ∧ security.maxEmbeddingsPerUser.toNat ≤ 1000
  record : 4096 ≤ security.maxRecordBytes.toNat ∧ security.maxRecordBytes.toNat ≤ 2621440
  plaintext : security.maxRecordBytes.toNat ≤ security.maxPlaintextBytes.toNat ∧
    security.maxPlaintextBytes.toNat ≤ 1073741824
  cached : security.embeddingMode = .aeadCached → security.keyEpoch ≠ 0 ∧
    1 ≤ security.cached.maxCachedUsers.toNat ∧ security.maxRecordBytes.toNat ≤ security.cached.maxCacheBytes.toNat

lemma validated_of_validate {config : HowyConfig} (h : config.validate = .ok ()) : Validated config.security := by
  simp only [HowyConfig.validate, SecurityConfig.validateLimits, then_eq_ok, require_eq_ok, UInt32.le_iff_toNat_le,
    UInt64.le_iff_toNat_le] at h
  obtain ⟨-, -, -, -, -, -, -, hepoch, ⟨hentries, hrecord, hplaintext⟩, hmode, -⟩ := h
  refine ⟨hentries, hrecord, hplaintext, fun hc => ?_⟩
  rw [SecurityConfig.validateMode, hc] at hmode
  simp only [then_eq_ok, require_eq_ok, UInt32.le_iff_toNat_le] at hmode
  exact ⟨fun h0 => hepoch ⟨.inl hc, h0⟩, hmode.1.1, hmode.2.1.1⟩

inductive Prepared : EmbeddingSecurityMode → StartupKeyContext → Prop
  | mode0 : Prepared .plaintext .mode0
  | mode1 (key : Aes256Key) (backendIdentity : FixedArray UInt8 32) : Prepared .aeadCached
      (.mode1 key backendIdentity)

def Usable (externals : Externals) (config : HowyConfig) (digest : ModelDigest) (keyContext : StartupKeyContext) :
    Prop :=
  ∃ backend initial, initializeStorageBackend externals config (some digest) keyContext = .ok (backend, initial) ∧
    ∀ record bytes, backend.Appends record bytes → ∀ budget cache json, Idle initial.limit budget cache →
      ∃ model, AuthModel.fromRecord record = .ok model ∧
        backend.authenticate budget cache record.username ⟨some (recordNode productionOwner bytes),
          json⟩ = .ok model

def operationBytes (maxEntries maxRecordBytes : ℕ) : ℕ :=
  8320 * mostEntries maxEntries maxRecordBytes 8 +
    4 * (maxRecordBytes - 8 - 2076 * mostEntries maxEntries maxRecordBytes 8) + 32

/-- There is room for the fullest record that the limits admit; in Mode 0 a header and a name take at least 63
bytes. -/
def Roomy (security : SecurityConfig) : Prop :=
  if security.embeddingMode = .plaintext then
    security.cached.maxCachedUsers ≠ 0 ∧
      operationBytes security.maxEmbeddingsPerUser.toNat security.maxRecordBytes.toNat ≤
        security.maxPlaintextBytes.toNat ∧
      flatBytes (mostEntries security.maxEmbeddingsPerUser.toNat security.maxRecordBytes.toNat 63)
        (mostLabels security.maxEmbeddingsPerUser.toNat security.maxRecordBytes.toNat 63) ≤
        security.cached.maxCacheBytes.toNat
  else
    coldBytes (mostEntries security.maxEmbeddingsPerUser.toNat security.maxRecordBytes.toNat 8)
        (mostLabels security.maxEmbeddingsPerUser.toNat security.maxRecordBytes.toNat 8) ≤
      security.maxPlaintextBytes.toNat ∧
    flatBytes (mostEntries security.maxEmbeddingsPerUser.toNat security.maxRecordBytes.toNat 8)
        (mostLabels security.maxEmbeddingsPerUser.toNat security.maxRecordBytes.toNat 8) ≤
      security.cached.maxCacheBytes.toNat

instance (security : SecurityConfig) : Decidable (Roomy security) := by
  unfold Roomy
  infer_instance

section

variable {externals : Externals} {config : HowyConfig} {digest : ModelDigest} {initial : PlaintextBudget}
  {maxEntries : ℕ}

lemma checkLimits_eq_ok {L : Type} {maxBytes : ℕ} {result : L}
    {limits : 0 < maxEntries → maxEntries ≤ Storage.maxEntries → 0 < maxBytes →
      maxBytes ≤ maxPlaintextBytes → L} :
    checkLimits maxEntries maxBytes limits = .ok result ↔ ∃ h₁ h₂ h₃ h₄, limits h₁ h₂ h₃ h₄ = result := by
  rw [checkLimits]
  constructor
  · intro h
    split at h
    · cases h
    · split at h
      · cases h
      · exact ⟨_, _, _, _, Except.ok.inj h⟩
  · rintro ⟨h₁, h₂, h₃, h₄, rfl⟩
    rw [dif_neg (by omega), dif_neg (by omega)]

lemma modelCacheLimits_eq_ok {maxUsers : UInt32} {maxBytes : UInt64} {limits : ModelCacheLimits} :
    ModelCacheLimits.new maxUsers maxBytes = .ok limits ↔
      maxUsers.toNat ≠ 0 ∧ maxBytes.toNat ≠ 0 ∧ limits.maxUsers = maxUsers.toNat ∧
      limits.maxBytes = maxBytes.toNat := by
  obtain ⟨users, bytes, h₁, h₂, h₃, h₄⟩ := limits
  rw [ModelCacheLimits.new]
  constructor
  · intro h
    split at h
    · cases h
    split at h
    · cases h
    next hu hb =>
      cases h
      exact ⟨hu, hb, rfl, rfl⟩
  · rintro ⟨hu, hb, rfl, rfl⟩
    rw [dif_neg hu, dif_neg hb]

lemma plaintextBudget_eq_ok {n : ℕ} : PlaintextBudget.new n = .ok initial ↔ n ≠ 0 ∧ initial = opened n := by
  rw [PlaintextBudget.new, ite_error_eq_ok, Except.ok.injEq, eq_comm (a := initial)]

@[simp] lemma withContext_eq_ok {α : Type} {x : BackendResult α} {context : String} {a : α} :
    withContext x context = .ok a ↔ x = .ok a := mapError_eq_ok

lemma required_some (context : String) : required (some digest) context = .ok digest := rfl

structure BuiltPlaintext (security : SecurityConfig) (backend : PlaintextStorageBackend)
    (initial : PlaintextBudget) : Prop where
  owner : backend.expectedOwner = productionOwner
  maxEntries : backend.limits.maxEntries = security.maxEmbeddingsPerUser.toNat
  maxRecordBytes : backend.limits.maxRecordBytes = security.maxRecordBytes.toNat
  operation : backend.operationReservationBytes =
    operationBytes security.maxEmbeddingsPerUser.toNat security.maxRecordBytes.toNat
  maxBytes : backend.cacheLimits.maxBytes = security.cached.maxCacheBytes.toNat
  budget : initial = opened security.maxPlaintextBytes.toNat

structure BuiltMode1 (security : SecurityConfig) (backend : Mode1StorageBackend) (initial : PlaintextBudget) :
    Prop where
  owner : backend.expectedOwner = productionOwner
  maxEntries : backend.limits.maxEntries = security.maxEmbeddingsPerUser.toNat
  maxPlaintextBytes : backend.limits.maxPlaintextBytes = security.maxRecordBytes.toNat
  maxBytes : backend.cacheLimits.maxBytes = security.cached.maxCacheBytes.toNat
  budget : initial = opened security.maxPlaintextBytes.toNat

lemma exists_forPlaintextLimits {maxRecordBytes : ℕ} (he : maxEntries ≤ 1000) (hr : 4096 ≤ maxRecordBytes)
    (hr' : maxRecordBytes ≤ 2621440) :
    ∃ estimate, PlaintextAllocationEstimate.forPlaintextLimits maxRecordBytes maxEntries = .ok estimate ∧
      estimate.peakBytes = operationBytes maxEntries maxRecordBytes :=
  ⟨_, forPlaintextLimits_eq he (by omega) hr', rfl⟩

section

variable (hv : Validated config.security) (hmode : config.security.embeddingMode = .plaintext)

include hv hmode

lemma initialize_plaintext
    {backend : StorageBackend} :
    initializeStorageBackend externals config (some digest) .mode0 = .ok (backend, initial) →
      config.security.cached.maxCachedUsers.toNat ≠ 0 ∧
        ∃ built, backend = .plaintext built ∧ BuiltPlaintext config.security built initial := by
  intro h
  simp only [initializeStorageBackend, hmode, required_some, ok_bind, bind_eq_ok, withContext_eq_ok, pure_eq_ok,
    PlaintextStorageLimits.new, checkLimits_eq_ok, modelCacheLimits_eq_ok, plaintextBudget_eq_ok,
    Prod.mk.injEq] at h
  obtain ⟨limits, ⟨_, _, _, _, rfl⟩, budget, ⟨-, rfl⟩, cacheLimits, ⟨hu, -, -, hbytes⟩, built, hbuilt, rfl, rfl⟩ :=
    h
  obtain ⟨estimate, hestimate, hpeak⟩ := exists_forPlaintextLimits hv.entries.2 hv.record.1 hv.record.2
  rw [PlaintextStorageBackend.production, hestimate, ok_bind, pure_eq_ok] at hbuilt
  subst hbuilt
  exact ⟨hu, _, rfl, rfl, rfl, rfl, hpeak, hbytes, rfl⟩

lemma exists_initialize_plaintext (hu : config.security.cached.maxCachedUsers.toNat ≠ 0)
    (hb : config.security.cached.maxCacheBytes.toNat ≠ 0) :
    ∃ result, initializeStorageBackend externals config (some digest) .mode0 = .ok result := by
  obtain ⟨estimate, hestimate, -⟩ := exists_forPlaintextLimits hv.entries.2 hv.record.1 hv.record.2
  obtain ⟨⟨he, he'⟩, ⟨hr, hr'⟩, ⟨hp, -⟩, -⟩ := hv
  simp only [initializeStorageBackend, hmode, required_some, ok_bind, bind_eq_ok, withContext_eq_ok, pure_eq_ok,
    PlaintextStorageLimits.new, checkLimits_eq_ok, modelCacheLimits_eq_ok, plaintextBudget_eq_ok]
  exact ⟨_, _, ⟨by omega, he', by omega, hr', rfl⟩, _, ⟨by omega, rfl⟩,
    ⟨_, _, by omega, by omega, UInt32.toNat_lt _,
    UInt64.toNat_lt _⟩, ⟨hu, hb, rfl, rfl⟩, _, bind_eq_ok.mpr ⟨estimate, hestimate, rfl⟩, rfl⟩

end

lemma exists_initialize_mode1 {key : Aes256Key} {backendIdentity : FixedArray UInt8 32}
    (hv : Validated config.security) (hmode : config.security.embeddingMode = .aeadCached) :
    ∃ built, initializeStorageBackend externals config (some digest) (.mode1 key backendIdentity) =
        .ok (.mode1 built, opened config.security.maxPlaintextBytes.toNat) ∧
      BuiltMode1 config.security built (opened config.security.maxPlaintextBytes.toNat) ∧
      built.gcm = externals.gcm ∧ built.key = key ∧ built.keyEpoch = config.security.keyEpoch ∧
      built.recognizerModel = digest := by
  obtain ⟨hepoch, hu, hb⟩ := hv.cached hmode
  obtain ⟨⟨he, he'⟩, ⟨hr, hr'⟩, ⟨hp, -⟩, -⟩ := hv
  simp only [initializeStorageBackend, hmode, required_some, ok_bind, bind_eq_ok, withContext_eq_ok, pure_eq_ok,
    Mode1StorageLimits.new, checkLimits_eq_ok, modelCacheLimits_eq_ok, plaintextBudget_eq_ok]
  exact ⟨_, ⟨_, ⟨by omega, he', by omega, hr', rfl⟩, _, ⟨by omega, rfl⟩,
    ⟨_, _, by omega, by omega, UInt32.toNat_lt _,
    UInt64.toNat_lt _⟩, ⟨by omega, by omega, rfl, rfl⟩, _, dif_neg hepoch, rfl⟩, ⟨rfl, rfl, rfl, rfl, rfl⟩,
    rfl, rfl, rfl, rfl⟩

end

lemma within_eq_ok {α : Type} {requested available : ℕ} {x : BackendResult α} {a : α} :
    within requested available x = .ok a ↔ requested ≤ available ∧ x = .ok a := by
  rw [within, ite_error_eq_ok, Nat.not_lt]

lemma mostEntries_pos {maxEntries maxBytes : ℕ} (overhead : ℕ) (he : 1 ≤ maxEntries)
    (hb : overhead + 2076 ≤ maxBytes) : mostEntries maxEntries maxBytes overhead ≠ 0 := by
  have h : 1 ≤ mostEntries maxEntries maxBytes overhead :=
    @le_mostEntries maxEntries maxBytes overhead 1 0 he (by omega)
  omega

lemma idle_opened (limit : ℕ) : Idle limit (opened limit) .empty := ⟨rfl, rfl, rfl, rfl, rfl⟩

def shortName : CanonicalUsername := ⟨"a", by decide⟩

variable {externals : Externals} {config : HowyConfig} {digest : ModelDigest}

lemma flatBytes_le_operation {initial : PlaintextBudget} {built : PlaintextStorageBackend}
    {record : EnrollmentRecord} {bytes : Bytes} (hb : BuiltPlaintext config.security built initial)
    (h : Encodes built record bytes) :
    flatBytes record.entries.length (labelBytes record.entries) ≤ built.operationReservationBytes := by
  have hlength := hb.maxRecordBytes ▸ h.length_le
  rw [length_encodeHowypln1 h.encoded] at hlength
  rw [hb.operation, operationBytes, flatBytes]
  omega

lemma plaintext_usable_iff (hv : Validated config.security) (hmode : config.security.embeddingMode = .plaintext) :
    Usable externals config digest .mode0 ↔ Roomy config.security := by
  obtain ⟨⟨he, -⟩, ⟨hr, -⟩, -, -⟩ := id hv
  have hlimit : config.security.maxPlaintextBytes.toNat < 2 ^ 64 := UInt64.toNat_lt _
  rw [Roomy, if_pos hmode]
  constructor
  · rintro ⟨backend, initial, hinit, huse⟩
    obtain ⟨hu, built, rfl, hb⟩ := initialize_plaintext hv hmode hinit
    -- the fullest record of the shortest name is accepted, so it must authenticate
    have hcount := mostEntries_pos 63 he (by omega : 63 + 2076 ≤ config.security.maxRecordBytes.toNat)
    have hname : shortName.bytes.length = 1 := by decide
    obtain ⟨record, bytes, happends, hlength, hlabels⟩ := exists_plaintext_appends built shortName hcount
      (by rw [hb.maxEntries]; exact Nat.min_le_left _ _) (mostLabels_le _ _ 63)
      (by rw [hb.maxRecordBytes]; exact most_fits (by omega))
    obtain ⟨model, hmodel, hauth⟩ := huse record bytes happends
      (opened config.security.maxPlaintextBytes.toNat) .empty none
      (by rw [hb.budget]; exact idle_opened _)
    have hroom := flatBytes_le_operation hb (encodes_of_appends happends)
    rw [← hb.owner, plaintext_authenticate (idle_opened _) hlimit (encodes_of_appends happends) hmodel hroom,
      within_eq_ok, within_eq_ok, hlength, hlabels, hb.maxBytes, hb.operation] at hauth
    exact ⟨fun h0 => hu (by rw [h0]; rfl), hauth.1, hauth.2.1⟩
  · rintro ⟨hu, hoperation, hflat⟩
    have hu' : config.security.cached.maxCachedUsers.toNat ≠ 0 := fun h0 => hu (UInt32.toNat_inj.mp h0)
    have hcount := mostEntries_pos 63 he (by omega : 63 + 2076 ≤ config.security.maxRecordBytes.toNat)
    have hb' : config.security.cached.maxCacheBytes.toNat ≠ 0 := by
      rw [flatBytes] at hflat
      omega
    obtain ⟨⟨backend, initial⟩, hinit⟩ : ∃ result, initializeStorageBackend externals config (some digest) .mode0 =
        .ok result := exists_initialize_plaintext hv hmode hu' hb'
    obtain ⟨-, built, rfl, hb⟩ := initialize_plaintext hv hmode hinit
    refine ⟨_, _, hinit, fun record bytes happends budget cache json hidle => ?_⟩
    have hencodes := encodes_of_appends happends
    obtain ⟨model, hmodel, -⟩ := exists_fromRecord record
    have hentries := hb.maxEntries ▸ hencodes.entries_le
    have hlength := hb.maxRecordBytes ▸ hencodes.length_le
    have hname := record.username.length_bytes.1
    rw [length_encodeHowypln1 hencodes.encoded] at hlength
    have hlabels := labelBytes_le record.entries
    have hroom := flatBytes_le_operation hb hencodes
    rw [hb.budget] at hidle
    refine ⟨model, hmodel, ?_⟩
    rw [← hb.owner, plaintext_authenticate hidle hlimit hencodes hmodel hroom, within_eq_ok,
      within_eq_ok, hb.maxBytes, hb.operation]
    exact ⟨hoperation, (flatBytes_le_most hentries hlabels (by omega)).trans hflat, rfl⟩

lemma mode1_usable_iff (hv : Validated config.security) (hmode : config.security.embeddingMode = .aeadCached)
    (key : Aes256Key) (backendIdentity : FixedArray UInt8 32) :
    Usable externals config digest (.mode1 key backendIdentity) ↔ Roomy config.security := by
  obtain ⟨⟨he, -⟩, ⟨hr, -⟩, ⟨-, hp'⟩, -⟩ := id hv
  have hne : config.security.embeddingMode ≠ .plaintext := by
    rw [hmode]
    decide
  have hlimit : config.security.maxPlaintextBytes.toNat < 2 ^ 64 := UInt64.toNat_lt _
  rw [Roomy, if_neg hne]
  constructor
  · rintro ⟨backend, initial, hinit, huse⟩
    obtain ⟨built, hbuilt, hb, -⟩ := @exists_initialize_mode1 externals config digest key backendIdentity hv hmode
    obtain ⟨rfl, rfl⟩ := Prod.mk.inj (Except.ok.inj (hinit.symm.trans hbuilt))
    -- the fullest record is accepted, so it must authenticate
    have hcount := mostEntries_pos 8 he (by omega : 8 + 2076 ≤ config.security.maxRecordBytes.toNat)
    obtain ⟨record, bytes, happends, hlength, hlabels⟩ := exists_mode1_appends built shortName hcount
      (by rw [hb.maxEntries]; exact Nat.min_le_left _ _) (mostLabels_le _ _ 8)
      (by rw [hb.maxPlaintextBytes]; exact most_fits (by omega))
    obtain ⟨model, hmodel, hauth⟩ := huse record bytes happends
      (opened config.security.maxPlaintextBytes.toNat) .empty none
      (by rw [hb.budget]; exact idle_opened _)
    rw [← hb.owner, mode1_authenticate (idle_opened _) hlimit happends hmodel, within_eq_ok, within_eq_ok, hlength,
      hlabels, hb.maxBytes] at hauth
    exact ⟨hauth.1, hauth.2.1⟩
  · rintro ⟨hcold, hflat⟩
    obtain ⟨built, hinit, hb, -⟩ := exists_initialize_mode1 hv hmode
    refine ⟨_, _, hinit, fun record bytes happends budget cache json hidle => ?_⟩
    obtain ⟨hfits, -, -⟩ := fits_of_appends happends
    obtain ⟨model, hmodel, -⟩ := exists_fromRecord record
    have hentries := hb.maxEntries ▸ hfits.entries_le
    have hpayload := hb.maxPlaintextBytes ▸ hfits.payload_le
    rw [length_payloadBytes_eq] at hpayload
    have hlabels := labelBytes_le record.entries
    refine ⟨model, hmodel, ?_⟩
    rw [← hb.owner, mode1_authenticate hidle hlimit happends hmodel, within_eq_ok, within_eq_ok, hb.maxBytes]
    exact ⟨(coldBytes_le_most hentries hlabels hpayload).trans hcold,
      (flatBytes_le_most hentries hlabels hpayload).trans hflat, rfl⟩

/-- A validated configuration is usable exactly when the fullest record it admits has room in the budget and the
cache. -/
theorem validated_usable_iff_roomy (externals : Externals) (config : HowyConfig) (digest : ModelDigest)
    (keyContext : StartupKeyContext) (hvalid : config.validate = .ok ())
    (hkey : Prepared config.security.embeddingMode keyContext) :
    Usable externals config digest keyContext ↔ Roomy config.security := by
  have hv := validated_of_validate hvalid
  generalize hmode : config.security.embeddingMode = mode at hkey
  cases hkey with
  | mode0 => exact plaintext_usable_iff hv hmode
  | mode1 key backendIdentity => exact mode1_usable_iff hv hmode key backendIdentity

def configWith (mode : EmbeddingSecurityMode) (maxEmbeddingsPerUser : UInt32)
    (maxRecordBytes maxPlaintextBytes : UInt64)
    (maxCachedUsers : UInt32) (maxCacheBytes : UInt64) : HowyConfig where
  ml := ⟨0x3f000000, 0x3f000000, 640, 640⟩
  enableCache := false
  cacheTtlSecs := 300
  videoTimeout := 4
  security := ⟨mode, 1, maxEmbeddingsPerUser, maxRecordBytes, maxPlaintextBytes,
    ⟨"howy.key", maxCachedUsers, maxCacheBytes⟩, ⟨"/var/lib/howy/key", "howy", "0x81000001"⟩⟩
  presence := ⟨.off, ["sudo"], 30000, 2000, 5000, 2, 16⟩
  logLevel := "info"

def sampleExternals : Externals := ⟨copyCipher, fun _ _ _ _ _ => .error .invalidLegacyRecord⟩

theorem validated_usable_iff_roomy_hundred_entries :
    (configWith .aeadCached 100 2621440 67108864 32 33554432).validate = .ok () ∧
      Usable sampleExternals (configWith .aeadCached 100 2621440 67108864 32 33554432) (.filled 32 7)
        (.mode1 (.filled 32 5) (.filled 32 1)) :=
  ⟨by decide +kernel, (validated_usable_iff_roomy _ _ _ _ (by decide +kernel) (.mode1 _ _)).mpr
    (by decide +kernel)⟩

/-- Three unlabelled entries fill the record limit exactly, and their model is four bytes too large for the
cache. -/
theorem tight_cache_refuses_enrolled_record :
    (configWith .aeadCached 3 6236 1073741824 1 6236).validate = .ok () ∧
    (∃ backend initial record bytes,
      initializeStorageBackend sampleExternals (configWith .aeadCached 3 6236 1073741824 1 6236)
        (some (.filled 32 7)) (.mode1 (.filled 32 5) (.filled 32 1)) =
          .ok (backend, initial) ∧
      backend.Appends record bytes ∧
      backend.authenticate initial .empty record.username ⟨some (recordNode productionOwner bytes), none⟩ =
        .error (.memoryBudgetExceeded 6240 6236)) ∧
    (configWith .plaintext 3 6236 1073741824 0 6236).validate = .ok () ∧
    initializeStorageBackend sampleExternals (configWith .plaintext 3 6236 1073741824 0 6236)
      (some (.filled 32 7)) .mode0 =
        .error ⟨"invalid shared storage cache limits", some (.invalidInput "cache user limit")⟩ := by
  have hvalid : (configWith .aeadCached 3 6236 1073741824 1 6236).validate = .ok () := by decide +kernel
  have hv := validated_of_validate hvalid
  obtain ⟨built, hinit, hb, -⟩ := exists_initialize_mode1 hv rfl
  refine ⟨hvalid, ?_, by decide +kernel, rfl⟩
  obtain ⟨record, bytes, happends, hlength, hlabels⟩ := @exists_mode1_appends built shortName 3 0 (by decide)
    (hb.maxEntries ▸ (by decide)) (by decide) (hb.maxPlaintextBytes ▸ (by decide))
  obtain ⟨model, hmodel, -⟩ := exists_fromRecord record
  refine ⟨_, _, record, bytes, hinit, happends, ?_⟩
  have hauth := mode1_authenticate (idle_opened 1073741824) (by decide) happends hmodel none
  rw [hlength, hlabels, hb.maxBytes, hb.owner] at hauth
  exact hauth

end Howy.Daemon.Usability
