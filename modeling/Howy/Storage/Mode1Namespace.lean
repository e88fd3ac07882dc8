import Howy.Storage.Mode1NameShapes

namespace Howy.Storage.Mode1Namespace

open Library Mode1

variable {u v : CanonicalUsername} {suffix suffix' : Bytes} {m m' : Marker}

lemma classify_filename : classifyMode1NamespaceEntry (filename u) .regular 1 = .authoritative u := by
  rw [classifyEntry_of_ascii (ascii_filename u), classifyName_eq_authoritative.mpr rfl]

lemma classify_artifactName (hs : IsSuffix32 suffix) :
    classifyMode1NamespaceEntry (artifactName m.bytes u suffix) .regular 1 = m.classification := by
  rw [classifyEntry_of_ascii (ascii_artifactName m u hs), classifyName_artifactName m u hs]

lemma classified_username_artifactName (hs : IsSuffix32 suffix) :
    classifiedMode1TransactionUsername (artifactName m.bytes u suffix) m.classification = some u := by
  cases m with
  | tmp => exact parse_artifactName hs
  | staged => exact parse_artifactName hs
  | clear => exact parse_artifactName hs
  | rollback => exact parse_artifactName hs

lemma artifactName_eq_iff (hs : IsSuffix32 suffix) (hs' : IsSuffix32 suffix') :
    artifactName m.bytes u suffix = artifactName m'.bytes v suffix' ↔ m = m' ∧ u = v ∧ suffix = suffix' := by
  constructor
  · intro h
    have hm := (endsIn_artifactName m u hs).unique (h ▸ endsIn_artifactName m' v hs')
    subst hm
    exact ⟨rfl, artifactName_injective (hs.1.trans hs'.1.symm) h⟩
  · rintro ⟨rfl, rfl, rfl⟩
    rfl

lemma not_across : ∀ j < m.bytes.length, m.bytes[j]? = some 101 →
    m.bytes[j + 1]? ≠ some 46 ∧ j + 1 < m.bytes.length := by
  cases m <;> decide

lemma replace_artifactName_iff (hs : IsSuffix32 suffix) :
    replaceArtifactMarker (artifactName m.bytes u suffix) m.bytes m'.bytes =
      some (artifactName m'.bytes u suffix) ↔ m = m' ∨ ¬ m.bytes <:+: dot :: filename u := by
  have hdot : m.bytes[0]? = some 46 := by cases m <;> decide
  have hne : m.bytes ≠ [] := by cases m <;> decide
  obtain ⟨name, hname⟩ := replaceFirst_isSome hne m'.bytes (dot :: filename u) suffix
  have hname : replaceArtifactMarker (artifactName m.bytes u suffix) m.bytes m'.bytes = some name := hname
  rw [hname, Option.some.injEq]
  constructor
  · rintro rfl
    rcases replace_own_or_inside not_across hdot hname with ⟨hfree, -⟩ | ⟨-, front, c, hinside⟩
    · exact .inr hfree
    · have hown := endsIn_artifactName m' u hs
      exact .inl (EndsIn.unique ⟨_, suffix, hs, hinside⟩ hown)
  · rintro (rfl | hfree)
    · obtain ⟨front, back, hsplit, rfl, -⟩ := replaceFirst_eq_some hname
      exact hsplit.symm
    · rcases replace_own_or_inside not_across hdot hname with ⟨-, hown⟩ | ⟨hinside, -⟩
      · exact hown
      · exact absurd hinside hfree

/-- Names are told apart and attributed as they were built; a marker is replaced as intended unless the dotted
record name contains it too. -/
theorem namespace_names_round_trip (u : CanonicalUsername) (random : FixedArray UInt8 16) :
    classifyMode1NamespaceEntry (filename u) .regular 1 = .authoritative u ∧
    ∀ m : Marker,
      classifyMode1NamespaceEntry (artifactName m.bytes u (hexLower random.val)) .regular 1 = m.classification ∧
      classifiedMode1TransactionUsername (artifactName m.bytes u (hexLower random.val))
        (classifyMode1NamespaceEntry (artifactName m.bytes u (hexLower random.val)) .regular 1) = some u ∧
      (∀ m' : Marker,
        replaceArtifactMarker (artifactName m.bytes u (hexLower random.val)) m.bytes m'.bytes =
          some (artifactName m'.bytes u (hexLower random.val)) ↔ m = m' ∨ ¬ m.bytes <:+: dot :: filename u) ∧
      (∀ v : CanonicalUsername, artifactName m.bytes u (hexLower random.val) ≠ filename v) ∧
      ∀ (m' : Marker) (v : CanonicalUsername) (random' : FixedArray UInt8 16),
        artifactName m.bytes u (hexLower random.val) = artifactName m'.bytes v (hexLower random'.val) ↔
          m = m' ∧ u = v ∧ hexLower random.val = hexLower random'.val := by
  have hs := hexLower_isSuffix32 random
  refine ⟨classify_filename, fun m => ⟨classify_artifactName hs, ?_, fun m' => replace_artifactName_iff hs,
    (endsIn_artifactName m u hs).ne_filename, fun m' v random' => ?_⟩⟩
  · rw [classify_artifactName hs]
    exact classified_username_artifactName hs
  · exact artifactName_eq_iff hs (hexLower_isSuffix32 random')

def markedUser : CanonicalUsername := ⟨"a.tmp.b", by decide⟩

/-- The staged name that such a user's write gets is the temporary name of another user. -/
theorem staged_name_of_marked_user :
    replaceArtifactMarker (temporaryName markedUser (.filled 16 0)) tmpMarker stagedMarker =
      some (utf8Bytes ".a.staged.b.hye.tmp.00000000000000000000000000000000") ∧
    artifactName stagedMarker markedUser (hexLower (FixedArray.filled 16 0).val) ≠
      utf8Bytes ".a.staged.b.hye.tmp.00000000000000000000000000000000" ∧
    classifyMode1NamespaceEntry (utf8Bytes ".a.staged.b.hye.tmp.00000000000000000000000000000000") .regular
    1 = .temporary ∧
    (classifiedMode1TransactionUsername (utf8Bytes ".a.staged.b.hye.tmp.00000000000000000000000000000000")
      .temporary).map CanonicalUsername.name = some "a.staged.b" := by
  refine ⟨by decide +kernel, by decide, ?_, by decide +kernel⟩
  have hname : utf8Bytes ".a.staged.b.hye.tmp.00000000000000000000000000000000" =
      artifactName Marker.tmp.bytes ⟨"a.staged.b", by decide⟩ (hexLower (FixedArray.filled 16 0).val) := by
    decide
  rw [hname]
  exact classify_artifactName (hexLower_isSuffix32 _)

end Howy.Storage.Mode1Namespace
