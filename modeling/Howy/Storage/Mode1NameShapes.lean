import Howy.Storage.Mode1Names

namespace Howy.Storage.Mode1

open Library

def IsSuffix32 (suffix : Bytes) : Prop := suffix.length = 32 ∧ suffix.all isHexDigit = true

lemma isHexDigit_hexDigit {n : UInt8} (h : n.toNat < 16) : isHexDigit (hexDigit n) := by
  have hall : ∀ k : Fin 16, isHexDigit (hexDigit (UInt8.ofNat k)) := by decide
  have hn := hall ⟨n.toNat, h⟩
  rwa [UInt8.ofNat_toNat] at hn

lemma hexLower_isSuffix32 (random : FixedArray UInt8 16) : IsSuffix32 (hexLower random.val) := by
  obtain ⟨bytes, hb⟩ := random
  have hhigh (b : UInt8) : (b >>> 4).toNat < 16 := by
    have := b.toNat_lt
    rw [UInt8.toNat_shiftRight, Nat.shiftRight_eq_div_pow]
    change b.toNat / 16 < 16
    omega
  have hlow (b : UInt8) : (b &&& 15).toNat < 16 := by
    exact Nat.and_lt_two_pow (n := 4) _ (by decide)
  constructor
  · have hlen : (hexLower bytes).length = 2 * bytes.length := by
      clear hb
      induction bytes with
      | nil => rfl
      | cons b bytes ih =>
        rw [hexLower, List.flatMap_cons, List.length_append, List.length_cons, ← hexLower]
        simp only [List.length_cons, List.length_nil]
        omega
    rw [hlen, hb]
  · simp [hexLower, isHexDigit_hexDigit (hhigh _), isHexDigit_hexDigit (hlow _)]

variable {u : CanonicalUsername} {marker suffix name tail old s : Bytes} {name : Name} {m : Marker}
  {random : FixedArray UInt8 16}

lemma toOption_new {username : Bytes} :
    ((fromUtf8 username).bind fun text => (CanonicalUsername.new text).toOption) = some u ↔
    username = u.bytes := by
  simp only [Option.bind_eq_some_iff, fromUtf8_eq_some]
  constructor
  · rintro ⟨text, rfl, h⟩
    cases hn : CanonicalUsername.new text with
    | error e =>
      rw [hn] at h
      cases h
    | ok v =>
      rw [hn] at h
      cases h
      rw [CanonicalUsername.bytes, CanonicalUsername.new_eq_ok.mp hn]
  · rintro rfl
    exact ⟨u.name, rfl, by rw [CanonicalUsername.new_eq_ok.mpr rfl]; rfl⟩

lemma dropSuffix_eq_some {l r : Bytes} : l.dropSuffix? s = some r ↔ l = r ++ s := by
  rw [List.dropSuffix?_eq_some_iff]
  constructor
  · rintro ⟨s', rfl, h⟩
    rw [beq_iff_eq.mp h]
  · rintro rfl
    exact ⟨s, rfl, beq_self_eq_true s⟩

lemma artifactName_injective {v : CanonicalUsername} {t : Bytes} (hs : s.length = t.length)
    (h : artifactName marker u s = artifactName marker v t) : u = v ∧ s = t := by
  rw [artifactName, artifactName, List.cons.injEq, ← List.append_assoc, ← List.append_assoc] at h
  obtain ⟨hfront, hst⟩ := List.append_inj' h.2 hs
  have hname := List.append_cancel_right (List.append_cancel_right hfront)
  exact ⟨CanonicalUsername.bytes_injective hname, hst⟩

lemma artifactName_of_parse (h : parseTransactionArtifact name marker = some u) :
    ∃ suffix, IsSuffix32 suffix ∧ name = artifactName marker u suffix := by
  rw [parseTransactionArtifact] at h
  split at h
  · cases h
  rename_i hdot
  rw [not_not] at hdot
  obtain ⟨_, offset, _, -, h, -⟩ := List.findSome?_eq_some_iff.mp h
  split at h
  next hw =>
    split at h
    · cases h
    rename_i hu
    dsimp only at h
    split at h
    next hs =>
      refine ⟨_, hs, ?_⟩
      rw [toOption_new] at h
      rw [dropSuffix_eq_some, h] at hu
      -- the dot, the username with its extension, the marker and the digits make up the whole name
      have hfront : name.take offset = dot :: filename u := by
        cases name with
        | nil => cases hdot
        | cons b name =>
          rw [List.head?_cons, Option.some.injEq] at hdot
          obtain ⟨k, rfl⟩ := Nat.exists_eq_add_of_le' hw.2
          rw [List.take_succ_cons, List.drop_succ_cons, List.drop_zero] at hu
          rw [List.take_succ_cons, hdot, hu]
          rfl
      have hback : name.drop offset = marker ++ name.drop (offset + marker.length) := by
        conv_lhs => rw [← List.take_append_drop marker.length (name.drop offset), hw.1, List.drop_drop]
      rw [artifactName, ← hback, ← List.cons_append, ← hfront, List.take_append_drop]
    · cases h
  · cases h

lemma parse_artifactName (hs : IsSuffix32 suffix) :
    parseTransactionArtifact (artifactName marker u suffix) marker = some u := by
  have hsome : (parseTransactionArtifact (artifactName marker u suffix) marker).isSome := by
    rw [parseTransactionArtifact, if_neg (by simp [artifactName]), List.findSome?_isSome_iff]
    have hlen : (artifactName marker u suffix).length = 1 + (filename u).length + marker.length + 32 := by
      simp only [artifactName, List.length_cons, List.length_append, hs.1]
      omega
    refine ⟨1 + (filename u).length, List.mem_range.mpr (by omega), ?_⟩
    have hdrop : (artifactName marker u suffix).drop (1 + (filename u).length) = marker ++ suffix := by
      rw [artifactName, Nat.add_comm, List.drop_succ_cons, List.drop_left]
    have htake : ((artifactName marker u suffix).take (1 + (filename u).length)).drop 1 = u.bytes ++
        hyeExtension := by
      rw [artifactName, Nat.add_comm, List.take_succ_cons, List.drop_succ_cons, List.take_left]
      rfl
    rw [if_pos ⟨by rw [hdrop, List.take_left], by omega⟩, htake, dropSuffix_eq_some.mpr rfl]
    dsimp only
    rw [← List.drop_drop, hdrop, List.drop_left, if_pos (And.intro hs.1 hs.2), toOption_new.mpr rfl]
    rfl
  obtain ⟨v, hv⟩ := Option.isSome_iff_exists.mp hsome
  obtain ⟨suffix', hs', he⟩ := artifactName_of_parse hv
  rw [hv, (artifactName_injective (hs.1.trans hs'.1.symm) he).1]

lemma parse_isSome : (parseTransactionArtifact name marker).isSome ↔
      ∃ u suffix, IsSuffix32 suffix ∧ name = artifactName marker u suffix := by
  rw [Option.isSome_iff_exists]
  constructor
  · rintro ⟨u, hu⟩
    exact ⟨u, artifactName_of_parse hu⟩
  · rintro ⟨u, suffix, hs, rfl⟩
    exact ⟨u, parse_artifactName hs⟩

inductive Marker where
  | tmp
  | staged
  | clear
  | rollback
deriving DecidableEq

def Marker.bytes : Marker → Bytes
  | tmp => tmpMarker
  | staged => stagedMarker
  | clear => clearMarker
  | rollback => rollbackMarker

def Marker.classification : Marker → NamespaceEntryClassification
  | tmp => .temporary
  | staged => .staged
  | clear => .clear
  | rollback => .rollback

def EndsIn (m : Marker) (name : Name) : Prop :=
  ∃ front suffix, IsSuffix32 suffix ∧ name = front ++ (m.bytes ++ suffix)

lemma endsIn_artifactName (m : Marker) (u : CanonicalUsername) (hs : IsSuffix32 suffix) :
    EndsIn m (artifactName m.bytes u suffix) := ⟨dot :: filename u, suffix, hs, rfl⟩

lemma EndsIn.unique {m' : Marker} (h : EndsIn m name) (h' : EndsIn m' name) : m = m' := by
  obtain ⟨front, suffix, hs, rfl⟩ := h
  obtain ⟨front', suffix', hs', he⟩ := h'
  rw [← List.append_assoc, ← List.append_assoc] at he
  have hm := congrArg (fun l => l.reverse.take 3) (List.append_inj' he (hs.1.trans hs'.1.symm)).1
  simp only [List.reverse_append] at hm
  have h3 (m : Marker) : 3 ≤ m.bytes.reverse.length := by cases m <;> decide
  rw [List.take_append_of_le_length (h3 m), List.take_append_of_le_length (h3 m')] at hm
  revert hm
  cases m <;> cases m' <;> decide

lemma EndsIn.not_suffix {extension : Bytes} (h : EndsIn m name) {b : UInt8} (hb : b ∈ extension)
    (hlen : extension.length ≤ 32) (hx : isHexDigit b = false) : ¬ extension <:+ name := by
  obtain ⟨front, suffix, hs, rfl⟩ := h
  intro he
  rw [← List.append_assoc] at he
  have hsub := List.suffix_of_suffix_length_le he (List.suffix_append _ _) (hs.1 ▸ hlen)
  have hall := List.all_eq_true.mp hs.2 b (hsub.mem hb)
  rw [hx] at hall
  cases hall

lemma classifyName_of_endsIn (h : EndsIn m name) :
    classifyName name = if (parseTransactionArtifact name m.bytes).isSome then m.classification else .unknown := by
  have hhye : name.dropSuffix? hyeExtension = none := by
    rw [Option.eq_none_iff_forall_ne_some]
    intro r hr
    rw [dropSuffix_eq_some] at hr
    exact h.not_suffix (b := 121) (by decide) (by decide) (by decide) ⟨r, hr.symm⟩
  have hbin : (utf8Bytes ".bin").isSuffixOf name = false := by
    rw [Bool.eq_false_iff, ne_eq, List.isSuffixOf_iff_suffix]
    exact h.not_suffix (b := 110) (by decide) (by decide) (by decide)
  have hjson : (utf8Bytes ".json").isSuffixOf name = false := by
    rw [Bool.eq_false_iff, ne_eq, List.isSuffixOf_iff_suffix]
    exact h.not_suffix (b := 110) (by decide) (by decide) (by decide)
  obtain ⟨parsed, hp⟩ : ∃ b, (parseTransactionArtifact name m.bytes).isSome = b := ⟨_, rfl⟩
  have hall (m' : Marker) : (parseTransactionArtifact name m'.bytes).isSome = (decide (m = m') && parsed) := by
    by_cases hm : m = m'
    · rw [← hm, hp, decide_eq_true rfl, Bool.true_and]
    · rw [decide_eq_false hm, Bool.false_and, Bool.eq_false_iff, ne_eq, parse_isSome]
      rintro ⟨u, suffix, hs, rfl⟩
      exact hm (h.unique (endsIn_artifactName m' u hs))
  rw [hp, classifyName, hhye, hbin, hjson]
  have htmp : (parseTransactionArtifact name tmpMarker).isSome = _ := hall .tmp
  have hstaged : (parseTransactionArtifact name stagedMarker).isSome = _ := hall .staged
  have hclear : (parseTransactionArtifact name clearMarker).isSome = _ := hall .clear
  have hrollback : (parseTransactionArtifact name rollbackMarker).isSome = _ := hall .rollback
  rw [htmp, hstaged, hclear, hrollback]
  cases m <;> cases parsed <;> rfl

lemma classifyName_artifactName (m : Marker) (u : CanonicalUsername) (hs : IsSuffix32 suffix) :
    classifyName (artifactName m.bytes u suffix) = m.classification := by
  rw [classifyName_of_endsIn (endsIn_artifactName m u hs), parse_artifactName hs]
  rfl

lemma classifyName_eq_authoritative : classifyName name = .authoritative u ↔ name = filename u := by
  have hiff : ((name.dropSuffix? hyeExtension).bind fun username =>
      (fromUtf8 username).bind fun text => (CanonicalUsername.new text).toOption) = some u ↔
        name = filename u := by
    simp only [Option.bind_eq_some_iff (x := name.dropSuffix? hyeExtension), dropSuffix_eq_some, toOption_new]
    constructor
    · rintro ⟨username, rfl, rfl⟩
      rfl
    · rintro rfl
      exact ⟨u.bytes, rfl, rfl⟩
  rw [← hiff, classifyName]
  split
  next hv =>
    rw [hv, Option.some.injEq, NamespaceEntryClassification.authoritative.injEq]
  rename_i hv
  rw [hv]
  constructor
  · intro h
    split at h
    · cases h
    split at h
    · cases h
    · split at h
      · cases h
      · split at h <;> cases h
  · intro h
    cases h

lemma EndsIn.ne_filename (h : EndsIn m name) (u : CanonicalUsername) : name ≠ filename u := by
  rintro rfl
  exact h.not_suffix (b := 121) (by decide) (by decide) (by decide) (List.suffix_append u.bytes hyeExtension)

lemma filename_injective : Function.Injective filename := fun _ _ h =>
  CanonicalUsername.bytes_injective (List.append_cancel_right h)

def Ascii (name : Name) : Prop := ∀ b ∈ name, b < 128

instance (name : Name) : Decidable (Ascii name) := inferInstanceAs (Decidable (∀ b ∈ name, b < 128))

lemma Ascii.append {a b : Name} (ha : Ascii a) (hb : Ascii b) : Ascii (a ++ b) := by
  intro x hx
  rcases List.mem_append.mp hx with h | h
  · exact ha x h
  · exact hb x h

lemma ascii_bytes : Ascii u.bytes := by
  have hc := u.canonical
  rw [isCanonicalUsername, Bool.and_eq_true, List.all_eq_true] at hc
  intro b hb
  have h := hc.2 b hb
  simp only [isAsciiAlphanumeric, Bool.or_eq_true, Bool.and_eq_true, decide_eq_true_eq, beq_iff_eq,
    UInt8.le_iff_toNat_le, ← UInt8.toNat_inj, UInt8.reduceToNat] at h
  change b.toNat < 128
  omega

lemma ascii_filename (u : CanonicalUsername) : Ascii (filename u) := by
  have hextension : Ascii hyeExtension := by decide +kernel
  exact ascii_bytes.append hextension

lemma IsSuffix32.ascii (hs : IsSuffix32 suffix) : Ascii suffix := by
  intro b hb
  have h := List.all_eq_true.mp hs.2 b hb
  simp only [isHexDigit, Bool.or_eq_true, Bool.and_eq_true, decide_eq_true_eq, UInt8.le_iff_toNat_le,
    UInt8.reduceToNat] at h
  change b.toNat < 128
  omega

lemma ascii_marker : Ascii m.bytes := by
  cases m <;> decide +kernel

lemma ascii_artifactName (m : Marker) (u : CanonicalUsername) (hs : IsSuffix32 suffix) :
    Ascii (artifactName m.bytes u suffix) := by
  have hd : Ascii [dot] := by decide +kernel
  exact hd.append ((ascii_filename u).append (ascii_marker.append hs.ascii))

lemma classifyEntry_of_ascii (h : Ascii name) :
    classifyMode1NamespaceEntry name .regular 1 = classifyName name := by
  obtain ⟨s, hs⟩ := fromUtf8_ascii h
  simp [classifyMode1NamespaceEntry, hs]

def MarkerFree (u : CanonicalUsername) : Prop := ¬ tmpMarker <:+: dot :: filename u

instance (u : CanonicalUsername) : Decidable (MarkerFree u) := inferInstanceAs (Decidable (¬ _))

lemma getLast_dotted (u : CanonicalUsername) :
    (dot :: filename u)[(dot :: filename u).length - 1]? = some 101 := by
  have hh : hyeExtension = [46, 104, 121, 101] := by decide
  rw [filename, hh, ← List.cons_append]
  simp

/-- An occurrence of a marker in an artifact name is the name's own, or lies inside the dotted record name:
it cannot lie across the `e` that ends it. -/
lemma marker_occurrence {front back : Bytes}
    (hacross : ∀ j < old.length, old[j]? = some 101 → old[j + 1]? ≠ some 46 ∧ j + 1 < old.length)
    (hm : marker[0]? = some 46) (h : dot :: filename u ++ (marker ++ tail) = front ++ (old ++ back))
    (hle : front.length ≤ (dot :: filename u).length) :
    front = dot :: filename u ∨ ∃ c, dot :: filename u = front ++ (old ++ c) ∧ back = c ++ (marker ++ tail) := by
  have hlast := getLast_dotted u
  have hpos : 0 < (dot :: filename u).length := Nat.succ_pos _
  generalize dot :: filename u = name at h hle hlast hpos
  rcases Nat.eq_or_lt_of_le hle with heq | hlt
  · exact .inl (List.append_inj h heq.symm).1.symm
  by_cases hfit : front.length + old.length ≤ name.length
  · right
    have h' : name ++ (marker ++ tail) = (front ++ old) ++ back := by rw [h, List.append_assoc]
    rcases List.append_eq_append_iff.mp h' with ⟨c, hc, hb⟩ | ⟨c, hc, hb⟩
    · have hc0 : c = [] := by
        have := congrArg List.length hc
        simp only [List.length_append] at this
        exact List.length_eq_zero_iff.mp (by omega)
      rw [hc0, List.append_nil] at hc
      rw [hc0, List.nil_append] at hb
      exact ⟨[], by rw [List.append_nil, hc], by rw [List.nil_append, hb]⟩
    · exact ⟨c, by rw [hc, List.append_assoc], hb⟩
  · -- the letter before the marker and the dot that starts it would be neighbours in `old`
    exfalso
    have hj : name.length - 1 - front.length < old.length := by omega
    have hfirst : old[name.length - 1 - front.length]? = some 101 := by
      have hl : (name ++ (marker ++ tail))[name.length - 1]? = some 101 := by
        rw [List.getElem?_append_left (by omega), hlast]
      rwa [h, List.getElem?_append_right (by omega), List.getElem?_append_left hj] at hl
    obtain ⟨hne, hj'⟩ := hacross _ hj hfirst
    apply hne
    have hdot : (name ++ (marker ++ tail))[name.length]? = some 46 := by
      rw [List.getElem?_append_right le_rfl, Nat.sub_self]
      rw [List.getElem?_eq_some_iff] at hm
      obtain ⟨hlen, hget⟩ := hm
      rw [List.getElem?_append_left hlen, List.getElem?_eq_getElem hlen, hget]
    rw [h, List.getElem?_append_right (by omega), List.getElem?_append_left (by omega)] at hdot
    rwa [show name.length - 1 - front.length + 1 = name.length - front.length by omega]

lemma replace_own_or_inside {new : Bytes}
    (hacross : ∀ j < old.length, old[j]? = some 101 → old[j + 1]? ≠ some 46 ∧ j + 1 < old.length)
    (hold : old[0]? = some 46) (h : replaceArtifactMarker (artifactName old u tail) old new = some name) :
    (¬ old <:+: dot :: filename u ∧ name = artifactName new u tail) ∨
      (old <:+: dot :: filename u ∧ ∃ front c, name = front ++ (new ++ c) ++ (old ++ tail)) := by
  obtain ⟨front, back, hname, rfl, hfirst⟩ := replaceFirst_eq_some h
  change dot :: filename u ++ (old ++ tail) = _ at hname
  have hpos : 0 < old.length := List.length_pos_of_ne_nil (by rintro rfl; cases hold)
  rcases marker_occurrence hacross hold hname (hfirst (dot :: filename u) tail rfl) with rfl | ⟨c, hc, rfl⟩
  · have hback := List.append_cancel_left (List.append_cancel_left hname)
    refine .inl ⟨?_, by rw [← hback]; rfl⟩
    rintro ⟨a, c, hac⟩
    have hle := hfirst a (c ++ (old ++ tail)) (by
      change dot :: filename u ++ (old ++ tail) = _
      rw [← hac]
      simp)
    have := congrArg List.length hac
    simp only [List.length_append] at this
    omega
  · exact .inr ⟨⟨front, c, by rw [hc, List.append_assoc]⟩, front, c, by simp only [List.append_assoc]⟩

lemma tmp_not_across : ∀ j < tmpMarker.length, tmpMarker[j]? = some 101 →
    tmpMarker[j + 1]? ≠ some 46 ∧ j + 1 < tmpMarker.length := by decide

lemma Ascii.of_append {a b : Name} (h : Ascii (a ++ b)) : Ascii a ∧ Ascii b :=
  ⟨fun x hx => h x (List.mem_append_left b hx), fun x hx => h x (List.mem_append_right a hx)⟩

lemma replaceArtifactMarker_spec (m m' : Marker) {r : Name}
    (h : replaceArtifactMarker name m.bytes m'.bytes = some r) :
    r.length + m.bytes.length = name.length + m'.bytes.length ∧ (Ascii name → Ascii r) := by
  obtain ⟨front, back, rfl, rfl, -⟩ := replaceFirst_eq_some h
  constructor
  · simp only [List.length_append]
    omega
  · intro ha
    exact ha.of_append.1.append (ascii_marker.append ha.of_append.2.of_append.2)

structure WriteNames (u : CanonicalUsername) (temporary staged rollback : Name) : Prop where
  endsIn_temporary : EndsIn .tmp temporary
  classify_temporary : classifyName temporary = .temporary
  ascii_temporary : Ascii temporary
  replace_staged : replaceArtifactMarker temporary tmpMarker stagedMarker = some staged
  replace_rollback : replaceArtifactMarker staged stagedMarker rollbackMarker = some rollback
  length_staged : staged.length = temporary.length + 3
  length_rollback : rollback.length = staged.length + 2
  ascii_staged : Ascii staged
  ascii_rollback : Ascii rollback
  staged_cases : (MarkerFree u ∧ ∃ suffix, IsSuffix32 suffix ∧ staged = artifactName stagedMarker u suffix) ∨
    (¬ MarkerFree u ∧ EndsIn .tmp staged)
  rollback_cases : EndsIn .rollback rollback ∨
    (EndsIn .staged rollback ∧ parseTransactionArtifact rollback stagedMarker ≠ some u) ∨
    (¬ MarkerFree u ∧ EndsIn .tmp rollback)

lemma rollback_shape {staged rollback : Bytes} (hs : IsSuffix32 suffix)
    (hstaged : staged = artifactName stagedMarker u suffix)
    (h : replaceArtifactMarker staged stagedMarker rollbackMarker = some rollback)
    (hlen : rollback.length = staged.length + 2) : EndsIn .rollback rollback ∨
      (EndsIn .staged rollback ∧ parseTransactionArtifact rollback stagedMarker ≠ some u) := by
  subst hstaged
  rcases replace_own_or_inside (by decide) (by decide) h with ⟨-, rfl⟩ | ⟨-, front, c, rfl⟩
  · exact .inl (endsIn_artifactName .rollback u hs)
  refine .inr ⟨⟨_, suffix, hs, rfl⟩, fun hp => ?_⟩
  obtain ⟨suffix', hs', he⟩ := artifactName_of_parse hp
  have hl := congrArg List.length he
  rw [hlen] at hl
  simp only [artifactName, List.length_cons, List.length_append, hs.1, hs'.1] at hl
  omega

lemma exists_writeNames : ∃ staged rollback, WriteNames u (temporaryName u random) staged rollback := by
  have hs := hexLower_isSuffix32 random
  have hascii := ascii_artifactName .tmp u hs
  obtain ⟨staged, hstaged⟩ := replaceFirst_isSome (by decide : tmpMarker ≠ []) stagedMarker (dot :: filename u)
    (hexLower random.val)
  obtain ⟨hlen, hasciiS⟩ := replaceArtifactMarker_spec .tmp .staged hstaged
  obtain ⟨front, back, -, hfront, -⟩ := replaceFirst_eq_some hstaged
  obtain ⟨rollback, hrollback⟩ := replaceFirst_isSome (by decide : stagedMarker ≠ []) rollbackMarker front back
  rw [← hfront] at hrollback
  obtain ⟨hlen', hasciiR⟩ := replaceArtifactMarker_spec .staged .rollback hrollback
  have htmp : Marker.tmp.bytes.length = 5 := by decide
  have hst : Marker.staged.bytes.length = 8 := by decide
  have hrb : Marker.rollback.bytes.length = 10 := by decide
  have hlength : staged.length = (temporaryName u random).length + 3 := by
    change staged.length + Marker.tmp.bytes.length = (temporaryName u random).length +
      Marker.staged.bytes.length at hlen
    omega
  have hlength' : rollback.length = staged.length + 2 := by omega
  have hbase := endsIn_artifactName .tmp u hs
  have hclass := classifyName_artifactName .tmp u hs
  rcases replace_own_or_inside tmp_not_across (by decide) hstaged with ⟨hfree, hown⟩ | ⟨hinside, a, c, hac⟩
  · have hr := rollback_shape hs hown hrollback hlength'
    exact ⟨staged, rollback, ⟨hbase, hclass, hascii, hstaged, hrollback, hlength, hlength', hasciiS hascii,
      hasciiR (hasciiS hascii), .inl ⟨hfree, _, hs, hown⟩, hr.imp_right .inl⟩⟩
  have hnot := not_not.mpr hinside
  have htail := hrollback
  rw [hac] at htail
  obtain ⟨front', hfront'⟩ := replaceFirst_append htail
  exact ⟨staged, rollback, ⟨hbase, hclass, hascii, hstaged, hrollback, hlength, hlength', hasciiS hascii,
    hasciiR (hasciiS hascii), .inr ⟨hnot, _, _, hs, hac⟩, .inr (.inr ⟨hnot, front', _, hs, hfront'⟩)⟩⟩

structure CreateNames (u : CanonicalUsername) (temporary rollback : Name) : Prop where
  endsIn_temporary : EndsIn .tmp temporary
  classify_temporary : classifyName temporary = .temporary
  ascii_temporary : Ascii temporary
  replace_rollback : replaceArtifactMarker temporary tmpMarker rollbackMarker = some rollback
  length_rollback : rollback.length = temporary.length + 5
  ascii_rollback : Ascii rollback
  rollback_cases : EndsIn .rollback rollback ∨ (¬ MarkerFree u ∧ EndsIn .tmp rollback)

lemma exists_createNames : ∃ rollback, CreateNames u (temporaryName u random) rollback := by
  have hs := hexLower_isSuffix32 random
  have hascii := ascii_artifactName .tmp u hs
  obtain ⟨rollback, hrollback⟩ :=
    replaceFirst_isSome (by decide : tmpMarker ≠ []) rollbackMarker (dot :: filename u)
    (hexLower random.val)
  obtain ⟨hlen, hasciiR⟩ := replaceArtifactMarker_spec .tmp .rollback hrollback
  have htmp : Marker.tmp.bytes.length = 5 := by decide
  have hrb : Marker.rollback.bytes.length = 10 := by decide
  have hlength : rollback.length = (temporaryName u random).length + 5 := by
    change rollback.length + Marker.tmp.bytes.length = (temporaryName u random).length +
      Marker.rollback.bytes.length at hlen
    omega
  refine ⟨rollback, endsIn_artifactName .tmp u hs, classifyName_artifactName .tmp u hs, hascii, hrollback, hlength,
    hasciiR hascii, ?_⟩
  rcases replace_own_or_inside tmp_not_across (by decide) hrollback with ⟨-, rfl⟩ | ⟨hinside, front, c, rfl⟩
  · exact .inl (endsIn_artifactName .rollback u hs)
  · exact .inr ⟨not_not.mpr hinside, _, _, hs, rfl⟩

variable {u v : CanonicalUsername} {temporary staged rollback : Name}

lemma WriteNames.staged_ne_filename (h : WriteNames u temporary staged rollback) : staged ≠ filename v := by
  rcases h.staged_cases with ⟨-, suffix, hs, rfl⟩ | ⟨-, he⟩
  · exact (endsIn_artifactName .staged u hs).ne_filename v
  · exact he.ne_filename v

lemma WriteNames.rollback_ne_filename (h : WriteNames u temporary staged rollback) : rollback ≠ filename v := by
  rcases h.rollback_cases with he | ⟨he, -⟩ | ⟨-, he⟩ <;> exact he.ne_filename v

lemma CreateNames.rollback_ne_filename (h : CreateNames u temporary rollback) : rollback ≠ filename v := by
  rcases h.rollback_cases with he | ⟨-, he⟩ <;> exact he.ne_filename v

lemma temporaryName_ne_filename : temporaryName u random ≠ filename v :=
  (endsIn_artifactName .tmp u (hexLower_isSuffix32 random)).ne_filename v

lemma tombstoneName_ne_filename : tombstoneName u random ≠ filename v :=
  (endsIn_artifactName .clear u (hexLower_isSuffix32 random)).ne_filename v

end Howy.Storage.Mode1
