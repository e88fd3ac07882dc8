import Howy.Provisioning.Journal

/-! When the strings of accepted paths are the only spellings of the objects they name. -/

namespace Howy.Provisioning.PathSpelling

open Library Storage

def securityAbsolutePathIsValid (value : String) (maximum : ℕ) : Bool :=
  utf8Bytes value ≠ [] ∧ (utf8Bytes value).length ≤ maximum ∧ (utf8Bytes value).head? = some 47 ∧
    (utf8Bytes value).getLast? ≠ some 47 ∧ ¬ [47, 47] <:+: utf8Bytes value ∧
    (components (utf8Bytes value)).all fun
      | .rootDir | .normal _ => true
      | _ => false

def text : Component → Bytes
  | .rootDir => []
  | .curDir => [46]
  | .parentDir => [46, 46]
  | .normal name => name

def slashJoined : List Component → Bytes
  | [.rootDir] => [47]
  | components => List.intercalate [47] (components.map text)

lemma segments_cons (b : UInt8) (p : Bytes) :
    segments (b :: p) = if b = 47 then [] :: segments p else (segments p).modifyHead (b :: ·) := by
  simp [segments, List.splitOn_cons_eq_if_modifyHead]

lemma slash_notMem_segments {p segment : Bytes} (h : segment ∈ segments p) : 47 ∉ segment := by
  induction p generalizing segment with
  | nil =>
    cases List.mem_singleton.mp h
    exact List.not_mem_nil
  | cons b p ih =>
    rw [segments_cons] at h
    split at h
    · rcases List.mem_cons.mp h with rfl | h
      · exact List.not_mem_nil
      · exact ih h
    next hb =>
      obtain ⟨first, rest, hs⟩ := List.exists_cons_of_ne_nil (segments_ne_nil p)
      rw [hs] at h ih
      rcases List.mem_cons.mp h with rfl | h
      · exact List.not_mem_cons_of_ne_of_not_mem (Ne.symm hb) (ih List.mem_cons_self)
      · exact ih (List.mem_cons_of_mem _ h)

lemma nil_mem_tail_segments {p : Bytes} (h : [] ∈ (segments p).tail) :
    p.getLast? = some 47 ∨ [47, 47] <:+: p := by
  induction p with
  | nil => cases h
  | cons b p ih =>
    have hcons (h : p.getLast? = some 47 ∨ [47, 47] <:+: p) :
        (b :: p).getLast? = some 47 ∨ [47, 47] <:+: b :: p := by
      refine h.imp (fun h => ?_) List.infix_cons
      rw [List.getLast?_cons, h]
      rfl
    rw [segments_cons] at h
    split at h
    · subst b
      rcases p with _ | ⟨c, p⟩
      · exact .inl rfl
      · by_cases hc : c = 47
        · exact .inr ⟨[], p, by rw [hc]; rfl⟩
        · refine hcons (ih ?_)
          obtain ⟨first, rest, hs⟩ := List.exists_cons_of_ne_nil (segments_ne_nil p)
          rw [segments_cons, if_neg hc, hs] at h ⊢
          simpa using h
    · rw [List.tail_modifyHead] at h
      exact hcons (ih h)

structure Spelled (p : Bytes) : Prop where
  dotless : [46] ∉ segments p
  closed : p = [47] ∨ p.getLast? ≠ some 47

section

variable {q : Bytes}

lemma segments_slash : segments (47 :: q) = [] :: segments q := by rw [segments_cons, if_pos rfl]

lemma map_text_components :
    (components (47 :: q)).map text = [] :: (segments q).filter fun segment => !vanishes segment := by
  have hcomponents : components (47 :: q) = .rootDir :: (segments q).filterMap segmentComponent := by
    rw [components, segments_slash]
    rfl
  rw [hcomponents, List.map_cons, List.map_filterMap, ← List.filterMap_eq_filter]
  refine congrArg (text .rootDir :: ·) (List.filterMap_congr fun segment _ => ?_)
  by_cases hempty : segment = [] ∨ segment = [46]
  · rw [segmentComponent, if_pos hempty]
    rcases hempty with rfl | rfl <;> rfl
  · have hshown : vanishes segment = false := by simpa [vanishes] using hempty
    rw [segmentComponent, if_neg hempty]
    split_ifs with hdots
    · rw [hdots]
      rfl
    · simp [text, Option.guard, hshown]

lemma slashJoined_eq_intercalate (h : components (47 :: q) ≠ [.rootDir]) :
    slashJoined (components (47 :: q)) = List.intercalate [47] ((components (47 :: q)).map text) := by
  rw [slashJoined]
  exact h

/-- A path is the join of its components exactly when none of its segments is left out. -/
lemma slashJoined_eq_iff :
    slashJoined (components (47 :: q)) = 47 :: q ↔
      q = [] ∨ ∀ segment ∈ segments q, vanishes segment = false := by
  have hshown : ((segments q).filter fun segment => !vanishes segment) = segments q ↔
      ∀ segment ∈ segments q, vanishes segment = false := by
    simp [List.filter_eq_self]
  constructor
  · intro h
    by_cases hroot : components (47 :: q) = [.rootDir]
    · rw [hroot] at h
      exact .inl (List.cons.inj h).2.symm
    right
    rw [slashJoined_eq_intercalate hroot, map_text_components] at h
    have hslash : ∀ segment ∈ [] :: (segments q).filter (fun segment => !vanishes segment), 47 ∉ segment := by
      rintro segment (_ | ⟨_, hsegment⟩)
      · exact List.not_mem_nil
      · exact slash_notMem_segments (List.mem_of_mem_filter hsegment)
    have hsplit := List.splitOn_intercalate 47 hslash (List.cons_ne_nil _ _)
    rw [h] at hsplit
    exact hshown.mp (List.cons.inj (hsplit.symm.trans segments_slash)).2
  · rintro (rfl | h)
    · rfl
    have htexts : (components (47 :: q)).map text = segments (47 :: q) := by
      rw [map_text_components, hshown.mpr h, segments_slash]
    rw [slashJoined_eq_intercalate, htexts]
    · exact List.intercalate_splitOn 47
    · intro hroot
      rw [hroot, segments_slash] at htexts
      exact segments_ne_nil q (List.cons.inj htexts).2.symm

lemma nil_mem_segments (hq : q ≠ []) (h : (47 :: q).getLast? = some 47) : [] ∈ segments q := by
  obtain ⟨front, hfront⟩ := List.getLast?_eq_some_iff.mp h
  cases front with
  | nil => exact absurd (List.cons.inj hfront).2 hq
  | cons b front =>
    have hq : q = front ++ [47] := (List.cons.inj hfront).2
    rw [hq, segments_append front List.not_mem_nil]
    exact List.mem_append_right _ (List.mem_singleton_self _)

lemma slashJoined_iff_spelled {p : Bytes} (habsolute : p.head? = some 47) (hdouble : ¬ [47, 47] <:+: p) :
    slashJoined (components p) = p ↔ Spelled p := by
  obtain ⟨q, rfl⟩ := List.head?_eq_some_iff.mp habsolute
  rw [slashJoined_eq_iff]
  constructor
  · rintro (rfl | h)
    · exact ⟨by decide, .inl rfl⟩
    refine ⟨fun hdot => ?_, or_iff_not_imp_left.mpr fun hroot hlast => ?_⟩
    · rw [segments_slash] at hdot
      cases h _ ((List.mem_cons.mp hdot).resolve_left (by decide))
    · cases h _ (nil_mem_segments (fun hq => hroot (by rw [hq])) hlast)
  · rintro ⟨hdot, hclosed⟩
    refine hclosed.imp (fun hroot => (List.cons.inj hroot).2) fun hlast segment hsegment => ?_
    have hempty : segment ≠ [] := by
      rintro rfl
      exact (nil_mem_tail_segments (by rwa [segments_slash])).elim hlast hdouble
    have hdot : segment ≠ [46] := by
      rintro rfl
      exact hdot (by rw [segments_slash]; exact List.mem_cons_of_mem _ hsegment)
    simp [vanishes, hempty, hdot]

end

lemma validatePathOrder_eq_ok {previous : Option String} {paths : List String}
    (h : validatePathOrder previous paths = .ok ()) :
    (∀ p ∈ paths, validateAbsolutePath p "transaction-owned path" = .ok ()) ∧
      ((previous.toList ++ paths).map utf8Bytes).IsChain (· < ·) := by
  induction paths generalizing previous with
  | nil => cases previous <;> simp
  | cons path paths ih =>
    simp only [validatePathOrder, then_eq_ok, require_eq_ok] at h
    obtain ⟨hpath, hprevious, h⟩ := h
    obtain ⟨hvalid, hchain⟩ := ih h
    refine ⟨List.forall_mem_cons.mpr ⟨hpath, hvalid⟩, ?_⟩
    cases previous with
    | none => exact hchain
    | some value => exact List.isChain_cons_cons.mpr ⟨of_decide_eq_true hprevious, hchain⟩

lemma nodup_components {paths : List String} (h : (paths.map utf8Bytes).Nodup)
    (hjoined : ∀ p ∈ paths, slashJoined (components (utf8Bytes p)) = utf8Bytes p) :
    (paths.map fun p => components (utf8Bytes p)).Nodup := by
  refine List.Nodup.of_map slashJoined ?_
  rw [List.map_map]
  exact (List.map_congr_left hjoined).symm ▸ h

/-- The components of the positions differ, and every string is the join of its components. -/
def SpelledOnce (paths : List String) : Prop :=
  (paths.map fun p => components (utf8Bytes p)).Nodup ∧
    ∀ p ∈ paths, slashJoined (components (utf8Bytes p)) = utf8Bytes p

lemma spelledOnce_iff {paths : List String} (h : (paths.map utf8Bytes).Nodup)
    (habsolute : ∀ p ∈ paths, (utf8Bytes p).head? = some 47)
    (hdouble : ∀ p ∈ paths, ¬ [47, 47] <:+: utf8Bytes p) :
    SpelledOnce paths ↔ ∀ p ∈ paths, Spelled (utf8Bytes p) := by
  have hspelled : (∀ p ∈ paths, slashJoined (components (utf8Bytes p)) = utf8Bytes p) ↔
      ∀ p ∈ paths, Spelled (utf8Bytes p) :=
    forall₂_congr fun p hp => slashJoined_iff_spelled (habsolute p hp) (hdouble p hp)
  rw [← hspelled]
  exact ⟨fun hs => hs.2, fun hjoined => ⟨nodup_components h hjoined, hjoined⟩⟩

theorem owned_paths_spelled_once (paths : List String) (maximum : ℕ) :
    (validatePaths paths = .ok () → (SpelledOnce paths ↔ ∀ p ∈ paths, Spelled (utf8Bytes p))) ∧
    (paths.Nodup → (∀ p ∈ paths, securityAbsolutePathIsValid p maximum = true) →
      (SpelledOnce paths ↔ ∀ p ∈ paths, [46] ∉ segments (utf8Bytes p))) := by
  constructor
  · intro h
    simp only [validatePaths, then_eq_ok] at h
    obtain ⟨hvalid, hchain⟩ := validatePathOrder_eq_ok h.2
    simp only [validateAbsolutePath, then_eq_ok, require_eq_ok] at hvalid
    refine spelledOnce_iff ?_ (fun p hp => beq_iff_eq.mp (hvalid p hp).2.1.1) fun p hp => (hvalid p hp).2.2
    refine List.Pairwise.imp ?_ (List.isChain_iff_pairwise.mp hchain)
    rintro p _ hlt rfl
    exact List.lt_irrefl p hlt
  · intro hnodup hvalid
    simp only [securityAbsolutePathIsValid, decide_eq_true_eq] at hvalid
    rw [spelledOnce_iff (hnodup.map utf8Bytes_injective) (fun p hp => (hvalid p hp).2.2.1)
      fun p hp => (hvalid p hp).2.2.2.2.1]
    exact forall₂_congr fun p hp => ⟨fun hs => hs.dotless, fun hdot => ⟨hdot, .inr (hvalid p hp).2.2.2.1⟩⟩

theorem owned_paths_spelled_once_sample :
    SpelledOnce ["/", "/a", "/a/b"] ∧ ¬ SpelledOnce ["/a/./b", "/a/b"] ∧ SpelledOnce ["/a/b", "/a"] := by
  have hspelled : ∀ p ∈ ["/", "/a", "/a/b"], Spelled (utf8Bytes p) := by
    rw [List.forall_mem_cons, List.forall_mem_cons, List.forall_mem_singleton]
    exact ⟨⟨by decide, .inl rfl⟩, ⟨by decide, .inr (by decide)⟩, by decide, .inr (by decide)⟩
  refine ⟨((owned_paths_spelled_once _ 4096).1 (by decide +kernel)).mpr hspelled, fun h => ?_, ?_⟩
  · have hdot := ((owned_paths_spelled_once ["/a/./b", "/a/b"] 4096).1 (by decide +kernel)).mp h
    exact (hdot _ List.mem_cons_self).dotless (by decide +kernel)
  · exact ((owned_paths_spelled_once _ 4096).2 (by decide +kernel) (by decide +kernel)).mpr (by decide +kernel)

theorem owned_paths_two_spellings :
    validatePaths ["/a/./b", "/a/b", "/a/b/"] = .ok () ∧
      (["/a/./b", "/a/b", "/a/b/"].map fun p => components (utf8Bytes p)) =
        List.replicate 3 (components (utf8Bytes "/a/b")) ∧
      securityAbsolutePathIsValid "/a/./b" 4096 = true ∧
      slashJoined (components (utf8Bytes "/a/./b")) ≠ utf8Bytes "/a/./b" := by
  decide +kernel

end Howy.Provisioning.PathSpelling
