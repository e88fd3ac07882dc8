import Howy.Bridge.Controls
import Howy.Bridge.Sightings

namespace Howy.Bridge

open Library Storage

variable {α β : Type} {B : ConfigBridge} {P : World → Prop} {Q : α → World → Prop} {X : Path → Prop}
  {s s' s₀ : World} {p : Path} {node : Node} {k : α → Op β} {expected old : FileRecord} {out : Bytes}

abbrev Ends (P : World → Prop) (x : Op α) (Q : α → World → Prop) : Prop :=
  Triple (fun _ => True) (fun _ _ => True) P x Q

variable {x : Op α} {handle : Handle} {R : World → α → Prop}

lemma Ends.start (h : Ends (Agree X s₀) x Q) : Ends (· = s₀) x Q := by
  apply h.pre
  rintro s - rfl
  exact Agree.refl X s

lemma ends_removeExact {Q : World → Prop} (h : ∀ s, P s → Q (drop s p)) :
    Ends P (removeExact B p expected) fun _ => Q :=
  triple_removeExact fun s _ _ hs _ => ⟨trivial, trivial, h s hs⟩

variable {bytes : Bytes} {uid gid mode : ℕ} {metadata : Option FileMetadata}
  {transactionId label : String} {q : Path}

/-- A publication leaves alone every path apart from its own: the private file it used is gone again. -/
lemma agree_publishes (hp : ¬ X p) :
    Publishes B (fun _ => True) (fun _ _ => True) (Agree X s₀) (Agree X s₀) p bytes := by
  refine publishes (N := fun q s => ∃ s₁, Agree X s₀ s₁ ∧ look s₁ q = none ∧ Agree (· ≠ q) s₁ s)
    fun transactionId label => ?_
  refine ⟨fun s node _ hs hnone _ => ⟨trivial, trivial, s, hs, hnone, agree_put⟩, fun s node _ hs _ => ?_,
    fun _ _ => ⟨trivial, trivial⟩, fun s node _ hs _ _ _ => ⟨trivial, trivial, hs.put hp⟩,
    fun s node _ hs _ _ _ _ => ?_⟩
  · obtain ⟨s₁, hs₁, hnone, hs⟩ := hs
    exact ⟨trivial, trivial, s₁, hs₁, hnone, hs.put fun h => h rfl⟩
  obtain ⟨s₁, hs₁, hnone, hs⟩ := hs
  refine ⟨trivial, trivial, Agree.put ⟨hs.1.trans hs₁.1, fun r hr => ?_⟩ hp⟩
  by_cases hrq : r = privateFile p.directory transactionId label
  · rw [← hs₁.2 r hr, hrq, look_drop_self, hnone]
  · rw [look_drop_of_ne hrq, hs.2 r hrq, hs₁.2 r hr]

section

variable {generation : Option ℕ} {state : ConfigState} {marker : BootstrapMarker}

abbrev MarkerIs (B : ConfigBridge) (s : World) (marker : BootstrapMarker) : Prop :=
  Parses B.platform.markerFromSlice markerFile s marker

structure Marked (B : ConfigBridge) (s : World) (marker : BootstrapMarker) : Prop where
  is : MarkerIs B s marker
  found : ∃ snapshot, Finds (readMarkerSnapshot B) s (some snapshot) ∧
    B.platform.markerFromSlice snapshot.bytes = some marker
  valid : validateMarker marker = .ok ()

lemma record_linkCount {P : Platform} {r : FileRecord} (h : record P node = .ok r) : r.metadata.linkCount = 1 := by
  simp only [record, then_eq_ok, require_eq_ok, pure_eq_ok] at h
  obtain ⟨⟨-, hlink⟩, -, rfl⟩ := h
  exact hlink

lemma Placed.finds_marker (h : Placed B markerFile bytes B.expectedUid B.expectedGid 0o600 s)
    (ho : Opens B s .varLib) (hlength : bytes.length ≤ maxControlBytes) :
    ∃ snapshot, Finds (readMarkerSnapshot B) s (some snapshot) ∧ snapshot.bytes = bytes := by
  obtain ⟨node, r, hnode, rfl, hr, huid, hgid, hmode⟩ := h.file
  refine ⟨⟨node.bytes, r⟩, (finds_readPath ho hnode hlength hr).bind ?_, rfl⟩
  exact (sure_fromExcept (require_eq_ok.mpr ⟨huid, hgid, hmode, record_linkCount hr⟩)).bind sure_pure

lemma ends_publishMarker :
    Ends (Agree (· ≠ markerFile) s₀) (publishMarker B transactionId bytes) fun _ s => Agree (· ≠ markerFile) s₀ s ∧
      Opens B s .varLib ∧ Placed B markerFile bytes B.expectedUid B.expectedGid 0o600 s := by
  apply Triple.look reads_opens
  intro _
  apply triple_intro
  rintro s₁ - ⟨hs₁, ho⟩
  apply Ends.start
  apply (agree_publishes (X := (· ≠ markerFile)) fun h => h rfl).bind triple_throw
  intro snapshot
  apply (Reads.keeps looks_syncDirectory).post
  rintro _ s - ⟨hs, -, hplaced⟩
  exact ⟨hs₁.trans hs, ho.agree hs, hplaced⟩

lemma serializeControl_length (h : serializeControl bytes label = .ok out) : out.length ≤ maxControlBytes := by
  rw [serializeControl, then_eq_ok, require_eq_ok, pure_eq_ok] at h
  exact h.2 ▸ h.1

structure MarkerEnsured (B : ConfigBridge) (transactionId : String) (generation : Option ℕ) (state : ConfigState)
    (s₀ s : World) : Prop where
  others : Agree (· ≠ markerFile) s₀ s
  marker : ∃ marker, Marked B s marker ∧ marker.generation = generation ∧
    configStatesExactMatch marker.config state = true ∧
    (marker.transactionId = transactionId ∨ MarkerIs B s₀ marker)
  kept : ∀ marker, MarkerIs B s₀ marker → marker.generation = generation →
    configStatesExactMatch marker.config state = true → MarkerIs B s marker

@[simp] lemma logicallyMatches_refl (r : FileRecord) : logicallyMatches r r := by simp [logicallyMatches]

@[simp] lemma configStatesExactMatch_refl : configStatesExactMatch state state := by
  cases state <;> simp [configStatesExactMatch, sameObject]

section

variable (hlaw : ∀ marker, B.platform.markerFromSlice (B.platform.markerToVec marker ++ [10]) = some marker)

include hlaw

lemma ends_setMarker
    (hstate : validateConfigState state = .ok ()) (htransaction : validateTransactionId transactionId = .ok ())
    (hgeneration : generation ≠ some 0)
    (hout : serializeControl (B.platform.markerToVec ⟨markerSchemaVersion, releaseId, transactionId,
      generation, state⟩) "bootstrap marker" = .ok out)
    (hstale : ∀ marker, MarkerIs B s₀ marker →
      ¬ (marker.generation = generation ∧ configStatesExactMatch marker.config state = true)) :
    Ends (Agree (· ≠ markerFile) s₀) (publishMarker B transactionId out)
      fun _ => MarkerEnsured B transactionId generation state s₀ := by
  apply ends_publishMarker.post
  rintro _ s - ⟨hs, ho, hplaced⟩
  have hparse := hlaw ⟨markerSchemaVersion, releaseId, transactionId, generation, state⟩
  rw [← serializeControl_eq_ok hout] at hparse
  obtain ⟨snapshot, hfinds, hbytes⟩ := Placed.finds_marker hplaced ho (serializeControl_length hout)
  obtain ⟨node, -, hnode, hcontents, -⟩ := hplaced.file
  refine ⟨hs, ⟨_, ⟨⟨node, hnode, hcontents ▸ hparse⟩, ⟨snapshot, hfinds, hbytes ▸ hparse⟩, ?_⟩, rfl,
    configStatesExactMatch_refl, .inl rfl⟩, fun marker his hsome hexact => absurd ⟨hsome, hexact⟩
    (hstale marker his)⟩
  simp only [validateMarker, then_eq_ok, require_eq_ok]
  exact ⟨⟨trivial, trivial⟩, htransaction, hgeneration, hstate⟩

lemma ends_ensureMarker
    (htransaction : validateTransactionId transactionId = .ok ()) (hgeneration : generation ≠ some 0) :
    Ends (· = s₀) (ensureMarker B transactionId generation state)
      fun _ => MarkerEnsured B transactionId generation state s₀ := by
  apply Triple.check
  intro _ hstate
  apply Triple.check
  intro out hout
  have hset (hstale : ∀ marker, MarkerIs B s₀ marker →
      ¬ (marker.generation = generation ∧ configStatesExactMatch marker.config state = true)) :=
    ends_setMarker hlaw hstate htransaction hgeneration hout hstale
  apply Triple.at ((sees_readMarkerSnapshot (X := fun _ => True) trivial).and reads_markerShown)
  rintro existing ⟨hfinds, hshows, -⟩
  cases existing with
  | none =>
    refine (hset ?_).start
    rintro marker ⟨node, hnode, -⟩
    cases hnode.symm.trans hshows
  | some existing =>
    dsimp only
    split
    · exact triple_throw
    rename_i parsed hparsed
    apply Triple.check
    intro _ hvalid
    obtain ⟨node, hnode, hbytes, -⟩ := hshows
    have his : MarkerIs B s₀ parsed := ⟨node, hnode, hbytes ▸ hparsed⟩
    split
    next hkept =>
      apply triple_pure
      rintro s - rfl
      exact ⟨Agree.refl _ s, ⟨parsed, ⟨his, ⟨existing, hfinds s (Agree.refl _ s), hparsed⟩, hvalid⟩,
        hkept.1, hkept.2, .inr his⟩, fun _ hold _ _ => hold⟩
    next hreplaced =>
      apply Triple.skip looks_openDirectory
      intro _
      refine .bind (ends_removeExact (Q := Agree (· ≠ markerFile) s₀) ?_) fun _ => ?_
      · rintro s rfl
        exact agree_drop
      · apply Triple.skip looks_syncDirectory
        intro _
        exact hset fun marker hold => his.unique hold ▸ hreplaced

end

def MarkerBy (B : ConfigBridge) (transactionId : String) (s : World) : Prop :=
  ∀ marker, MarkerIs B s marker → marker.generation ≠ none → marker.transactionId = transactionId

lemma MarkerEnsured.by_of_none (h : MarkerEnsured B transactionId none state s₀ s) (other : String) :
    MarkerBy B other s := by
  obtain ⟨marker, hmarked, hnone, -⟩ := h.marker
  intro marker' his hgeneration
  rw [← hmarked.is.unique his] at hgeneration
  exact absurd hnone hgeneration

lemma markerBy_of_none (h : look s markerFile = none) : MarkerBy B transactionId s := by
  rintro marker ⟨node, hnode, -⟩
  cases h.symm.trans hnode

lemma MarkerBy.agree (h : MarkerBy B transactionId s) (hs : Agree X s s') (hX : X markerFile) :
    MarkerBy B transactionId s' := fun marker hmarker => h marker (hmarker.agree hs.symm hX)

lemma ends_removeStashedMarker {expected : Option FileRecord} (hX : ¬ X markerFile) :
    Ends (Agree X s₀) (removeStashedMarker B expected) fun _ s => Agree X s₀ s ∧ look s markerFile = none := by
  apply Triple.look reads_markerShown
  intro current
  split
  · apply Triple.check
    intro _ _
    apply Triple.skip looks_openDirectory
    intro _
    refine .bind (ends_removeExact (Q := fun s => Agree X s₀ s ∧ look s markerFile = none) ?_) fun _ => ?_
    · rintro s ⟨hs, -⟩
      exact ⟨hs.drop hX, look_drop_self s markerFile⟩
    · exact Reads.keeps looks_syncDirectory
  · exact triple_pure fun s _ hs => ⟨hs.1, hs.2.1⟩
  · exact triple_throw

end

variable {journal : BridgeJournal}

lemma ends_writeJournal (hX : ¬ X journalFile) :
    Ends (Agree X s₀) (writeJournal B journal) fun _ s => Agree X s₀ s ∧
      ∃ node, look s journalFile = some node ∧ node.bytes = B.platform.journalToVec journal ++ [10] :=
  triple_writeJournal (agree_publishes hX)

lemma ends_removeJournal (hX : ¬ X journalFile) :
    Ends (Agree X s₀) (removeJournal B expected) fun _ s => Agree X s₀ s ∧ look s journalFile = none := by
  apply Triple.skip looks_openDirectory
  intro _
  refine .bind (ends_removeExact fun s hs => ?_) fun _ => Reads.keeps looks_syncDirectory
  exact ⟨hs.drop hX, look_drop_self s journalFile⟩

lemma ends_replaceManifest {stageName : String} {old : Option FileRecord} (hp : isStageName (utf8Bytes stageName))
    (hX : ∀ q, X q → q.directory ≠ .state) :
    Ends (Agree X s₀) (replaceManifest B old bytes stageName transactionId) fun _ =>
    ManifestHas (Agree X s₀) bytes := by
  have hstage : ¬ X ⟨.state, utf8Bytes stageName⟩ := fun h => hX _ h rfl
  have hmanifest : ¬ X manifestFile := fun h => hX _ h rfl
  apply triple_replaceManifest hp _ (agree_publishes hstage) _ (agree_publishes hmanifest) fun _ hs => hs
  · exact fun s _ _ hs _ => ⟨trivial, trivial, hs.drop hstage⟩
  · exact fun _ s a b _ hs _ _ _ => ⟨trivial, trivial, (hs.put hstage).put hmanifest⟩

end Howy.Bridge
