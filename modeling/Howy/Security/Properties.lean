import Howy.Security.FileSystem
import Mathlib.Data.Finmap

/-! Lines of keys and values, as systemd prints them, parsed strictly. -/

namespace Howy.Security.Properties

open Library Storage

abbrev Text := List Char

def encoded (text : Text) : Bytes := utf8Bytes (String.ofList text)

abbrev Property := Σ _ : Text, Text

abbrev Values := Finmap fun _ : Text => Text

def isAsciiControl (b : UInt8) : Bool := decide (b < 32) || b == 127

def splitTerminator (text : Text) : List Text :=
  if (text.splitOn '\n').getLast? = some [] then (text.splitOn '\n').dropLast else text.splitOn '\n'

def splitOnce : Text → Option Property
  | [] => none
  | c :: rest => if c = '=' then some ⟨[], rest⟩ else (splitOnce rest).map fun ⟨key, value⟩ => ⟨c :: key, value⟩

def collect (expected : Finset Text) (valueMaximum : ℕ) (context : String) :
    List Text → Values → Except SecurityError Values
  | [], values => .ok values
  | line :: lines, values => do
    -- No line is as long as the value at which the source's addition saturates.
    failIf (line = [] ∨ valueMaximum + 64 < (encoded line).length)
      (SecurityError.operation (context ++ " property framing is malformed"))
    match splitOnce line with
    | none => .error (.operation ("malformed " ++ context ++ " property"))
    | some ⟨key, value⟩ => do
      failIf (key ∉ expected ∨ valueMaximum < (encoded value).length ∨ key ∈ values)
        (SecurityError.operation ("unknown, duplicate, or oversized " ++ context ++ " property"))
      collect expected valueMaximum context lines (values.insert key value)

def parseExactProperties (output : Bytes) (expected : List String) (outputMaximum valueMaximum : ℕ)
    (context : String) : Except SecurityError Values := do
  failIf (output = [] ∨ outputMaximum < output.length)
    (SecurityError.operation (context ++ " output length is invalid"))
  match fromUtf8 output with
  | none => .error (.operation (context ++ " output is not UTF-8"))
  | some text => do
    failIf (text.toList.getLast? ≠ some '\n' ∨ ∃ b ∈ output, b ≠ 10 ∧ isAsciiControl b)
      (SecurityError.operation (context ++ " output framing is malformed"))
    let expected := (expected.map String.toList).toFinset
    let values ← collect expected valueMaximum context (splitTerminator text.toList) ∅
    failIf (values.keys.card ≠ expected.card) (SecurityError.operation (context ++ " property is missing"))
    pure values

def propertyLine (property : Property) : Text := property.1 ++ '=' :: property.2

def terminated (lines : List Text) : Text := lines.flatMap (· ++ ['\n'])

/-- `output` is the UTF-8 text of one line for each expected key. -/
structure Listing (expected : List String) (valueMaximum : ℕ) (output : Bytes)
    (properties : List Property) : Prop where
  text : output = encoded (terminated (properties.map propertyLine))
  keys : (properties.map Sigma.fst).Perm (expected.map String.toList)
  printable : ∀ b ∈ output, b ≠ 10 → isAsciiControl b = false
  lines : ∀ p ∈ properties, '\n' ∉ propertyLine p
  values : ∀ p ∈ properties, (encoded p.2).length ≤ valueMaximum
  lengths : ∀ p ∈ properties, (encoded (propertyLine p)).length ≤ valueMaximum + 64

variable {lines lines' : List Text} {valueMaximum : ℕ} {context : String} {values values' : Values}
  {properties : List Property} {p : Property} {line : Text}

lemma encoded_terminated_perm (h : lines.Perm lines') :
    (encoded (terminated lines)).Perm (encoded (terminated lines')) := by
  have hencoded (text : Text) : encoded text = text.flatMap String.utf8EncodeChar := by
    rw [encoded, utf8Bytes, String.toByteArray_ofList, List.utf8Encode, List.data_toByteArray]
  rw [hencoded, hencoded]
  exact (h.flatMap_right _).flatMap_right _

lemma splitOnce_eq_some : splitOnce line = some p ↔ line = propertyLine p ∧ '=' ∉ p.1 := by
  obtain ⟨key, value⟩ := p
  rw [propertyLine]
  induction line generalizing key with
  | nil => simp [splitOnce]
  | cons c rest ih =>
    rw [splitOnce]
    by_cases hc : c = '='
    · cases key <;> simp [hc]
      grind
    · cases key with
      | nil => simp [hc]
      | cons d key =>
        rw [if_neg hc, Option.map_eq_some_iff]
        constructor
        · rintro ⟨⟨k, v⟩, hrest, he⟩
          cases he
          obtain ⟨rfl, hkey⟩ := (ih _).mp hrest
          exact ⟨rfl, List.not_mem_cons_of_ne_of_not_mem (Ne.symm hc) hkey⟩
        · rintro ⟨he, hkey⟩
          cases he
          exact ⟨⟨key, value⟩, (ih _).mpr ⟨rfl, fun h => hkey (List.mem_cons_of_mem _ h)⟩, rfl⟩

lemma splitTerminator_terminated (h : ∀ line ∈ lines, '\n' ∉ line) :
    splitTerminator (terminated lines) = lines := by
  have hsplit : (terminated lines).splitOn '\n' = lines ++ [[]] := by
    induction lines with
    | nil => rfl
    | cons line lines ih =>
      obtain ⟨hline, hlines⟩ := List.forall_mem_cons.mp h
      rw [terminated, List.flatMap_cons, List.append_assoc, List.singleton_append,
        List.splitOn_append_cons_self_of_not_mem hline, ← terminated, ih hlines, List.cons_append]
  rw [splitTerminator, hsplit, List.getLast?_concat, if_pos rfl, List.dropLast_concat]

lemma exists_terminated {text : Text} (h : text.getLast? = some '\n') :
    ∃ lines, text = terminated lines ∧ ∀ line ∈ lines, '\n' ∉ line := by
  obtain ⟨start, rfl⟩ := List.getLast?_eq_some_iff.mp h
  clear h
  induction start with
  | nil => exact ⟨[[]], rfl, by simp⟩
  | cons c start ih =>
    obtain ⟨lines, hlines, hfree⟩ := ih
    rw [List.cons_append, hlines]
    by_cases hc : c = '\n'
    · exact ⟨[] :: lines, by rw [hc]; rfl, List.forall_mem_cons.mpr ⟨List.not_mem_nil, hfree⟩⟩
    · cases lines with
      | nil => cases (List.append_ne_nil_of_right_ne_nil start (List.cons_ne_nil '\n' [])) hlines
      | cons line lines =>
        obtain ⟨hline, hfree⟩ := List.forall_mem_cons.mp hfree
        exact ⟨(c :: line) :: lines, rfl,
          List.forall_mem_cons.mpr ⟨List.not_mem_cons_of_ne_of_not_mem (Ne.symm hc) hline, hfree⟩⟩

structure Admitted (expected : Finset Text) (valueMaximum : ℕ) (property : Property) : Prop where
  key : property.1 ∈ expected
  free : '=' ∉ property.1
  value : (encoded property.2).length ≤ valueMaximum
  line : (encoded (propertyLine property)).length ≤ valueMaximum + 64

section

variable {expected : Finset Text}

lemma collect_cons : collect expected valueMaximum context (line :: lines) values = .ok values' ↔
    ∃ p, line = propertyLine p ∧ Admitted expected valueMaximum p ∧ p.1 ∉ values ∧
      collect expected valueMaximum context lines (values.insert p.1 p.2) = .ok values' := by
  rw [collect, then_eq_ok, failIf_eq_ok, not_or, not_lt]
  constructor
  · rintro ⟨⟨-, hline⟩, h⟩
    split at h
    · cases h
    next key value hsplit =>
      simp only [then_eq_ok, failIf_eq_ok, not_or, not_not, not_lt] at h
      obtain ⟨⟨hkey, hvalue, hnew⟩, h⟩ := h
      obtain ⟨rfl, hfree⟩ := splitOnce_eq_some.mp hsplit
      exact ⟨⟨key, value⟩, rfl, ⟨hkey, hfree, hvalue, hline⟩, hnew, h⟩
  · rintro ⟨⟨key, value⟩, rfl, ⟨hkey, hfree, hvalue, hline⟩, hnew, h⟩
    rw [splitOnce_eq_some.mpr ⟨rfl, hfree⟩]
    simp only [then_eq_ok, failIf_eq_ok, not_or, not_not, not_lt]
    exact ⟨⟨List.append_ne_nil_of_right_ne_nil key (List.cons_ne_nil '=' value), hline⟩, ⟨hkey, hvalue, hnew⟩, h⟩

lemma notMem_of_entries (h : values'.entries = p ::ₘ (properties + values.entries)) : p.1 ∉ values := by
  intro hmem
  have hnodup := Multiset.nodup_keys.mpr values'.nodupKeys
  rw [h, Multiset.keys_cons, Multiset.nodup_cons, Multiset.keys, Multiset.map_add] at hnodup
  exact hnodup.1 (Multiset.mem_add.mpr (.inr hmem))

lemma collect_eq_ok : collect expected valueMaximum context lines values = .ok values' ↔
    ∃ properties : List Property, lines = properties.map propertyLine ∧
      (∀ p ∈ properties, Admitted expected valueMaximum p) ∧
      values'.entries = (properties : Multiset Property) + values.entries := by
  induction lines generalizing values with
  | nil =>
    constructor
    · intro h
      cases h
      exact ⟨[], rfl, List.forall_mem_nil _, (zero_add _).symm⟩
    · rintro ⟨properties, hlines, -, hentries⟩
      cases List.map_eq_nil_iff.mp hlines.symm
      exact congrArg _ (Finmap.ext (hentries.trans (zero_add _)).symm)
  | cons line lines ih =>
    rw [collect_cons]
    constructor
    · rintro ⟨p, rfl, hadmitted, hnew, h⟩
      obtain ⟨properties, rfl, hall, hentries⟩ := ih.mp h
      refine ⟨p :: properties, rfl, List.forall_mem_cons.mpr ⟨hadmitted, hall⟩, ?_⟩
      rw [hentries, Finmap.entries_insert_of_notMem hnew, Multiset.add_cons, ← Multiset.cons_coe,
        Multiset.cons_add]
    · rintro ⟨_ | ⟨p, properties⟩, hlines, hall, hentries⟩
      · cases hlines
      obtain ⟨rfl, rfl⟩ := List.cons.inj hlines
      obtain ⟨hadmitted, hall⟩ := List.forall_mem_cons.mp hall
      rw [← Multiset.cons_coe, Multiset.cons_add] at hentries
      have hnew := notMem_of_entries hentries
      refine ⟨p, rfl, hadmitted, hnew, ih.mpr ⟨properties, rfl, hall, ?_⟩⟩
      rw [hentries, Finmap.entries_insert_of_notMem hnew, Multiset.add_cons]

end

variable {output : Bytes} {expected : List String} {outputMaximum : ℕ}

lemma parseExactProperties_eq_ok (hnodup : expected.Nodup) (hkeys : ∀ key ∈ expected, '=' ∉ key.toList) :
    parseExactProperties output expected outputMaximum valueMaximum context = .ok values ↔
      output ≠ [] ∧ output.length ≤ outputMaximum ∧
      ∃ properties, Listing expected valueMaximum output properties ∧ values.entries = properties := by
  have hexpected := hnodup.map (fun _ _ => String.toList_inj.mp)
  rw [parseExactProperties, then_eq_ok, failIf_eq_ok, not_or, not_lt]
  have hcount {properties : List Property} (h : values.entries = properties) :
      values.keys.card = (properties.map Sigma.fst).length := by
    rw [Finmap.keys]
    simp [h, Multiset.keys]
  constructor
  · rintro ⟨⟨hne, hlength⟩, h⟩
    split at h
    · cases h
    rename_i hutf8
    obtain rfl := fromUtf8_eq_some.mp hutf8
    simp only [bind_eq_ok, failIf_eq_ok, pure_eq_ok, exists_const, not_or, not_not,
      List.toFinset_card_of_nodup hexpected] at h
    obtain ⟨⟨hlast, hcontrol⟩, parsed, h, hcard, rfl⟩ := h
    obtain ⟨lines, htext, hfree⟩ := exists_terminated hlast
    rw [htext, splitTerminator_terminated hfree] at h
    obtain ⟨properties, rfl, hall, hentries⟩ := collect_eq_ok.mp h
    replace hentries := hentries.trans (add_zero _)
    have hdistinct := Multiset.nodup_keys.mpr parsed.nodupKeys
    rw [hentries] at hdistinct
    refine ⟨hne, hlength, properties, ⟨?_, ?_, ?_, fun _ hp => hfree _ (List.mem_map_of_mem hp),
      fun p hp => (hall p hp).value, fun p hp => (hall p hp).line⟩, hentries⟩
    · rw [encoded, ← htext, String.ofList_toList]
    · refine (List.subperm_of_subset hdistinct fun key hkey => ?_).perm_of_length_le
        (hcard.symm.trans (hcount hentries)).le
      obtain ⟨p, hp, rfl⟩ := List.mem_map.mp hkey
      exact List.mem_toFinset.mp (hall p hp).key
    · exact fun b hb hne => Bool.not_eq_true _ ▸ fun h => hcontrol ⟨b, hb, hne, h⟩
  · rintro ⟨hne, hlength, properties, hlisting, hentries⟩
    rw [fromUtf8_eq_some.mpr hlisting.text.symm]
    simp only [bind_eq_ok, failIf_eq_ok, pure_eq_ok, exists_const, not_or, not_not,
      List.toFinset_card_of_nodup hexpected]
    refine ⟨⟨hne, hlength⟩, ⟨?_, ?_⟩, values, ?_, (hcount hentries).trans hlisting.keys.length_eq, rfl⟩
    · rcases List.eq_nil_or_concat properties with rfl | ⟨init, p, rfl⟩
      · cases hne hlisting.text
      · simp [terminated]
    · rintro ⟨b, hb, hb10, hcontrol⟩
      cases (hlisting.printable b hb hb10).symm.trans hcontrol
    · rw [String.toList_ofList, splitTerminator_terminated (List.forall_mem_map.mpr hlisting.lines)]
      refine collect_eq_ok.mpr ⟨properties, rfl, fun p hp => ?_, hentries.trans (add_zero _).symm⟩
      obtain ⟨key, hkey, he⟩ := List.mem_map.mp (hlisting.keys.mem_iff.mp (List.mem_map_of_mem hp))
      exact ⟨List.mem_toFinset.mpr (he ▸ List.mem_map_of_mem hkey), he ▸ hkeys key hkey, hlisting.values p hp,
        hlisting.lengths p hp⟩

theorem strict_property_parsing (expected : List String) (outputMaximum valueMaximum : ℕ) (context : String)
    (values : Values) (hnodup : expected.Nodup) (hkeys : ∀ key ∈ expected, '=' ∉ key.toList ∧ '\n' ∉ key.toList) :
    (∀ output, parseExactProperties output expected outputMaximum valueMaximum context = .ok values ↔
      output ≠ [] ∧ output.length ≤ outputMaximum ∧
      ∃ properties, Listing expected valueMaximum output properties ∧ values.entries = properties) ∧
    ∀ lines lines', (∀ line ∈ lines, '\n' ∉ line) → lines.Perm lines' →
      parseExactProperties (encoded (terminated lines)) expected outputMaximum valueMaximum context = .ok values →
      parseExactProperties (encoded (terminated lines')) expected outputMaximum valueMaximum context =
      .ok values := by
  have hfree key (hkey : key ∈ expected) := (hkeys key hkey).1
  refine ⟨fun output => parseExactProperties_eq_ok hnodup hfree, fun lines lines' hlines hperm h => ?_⟩
  rw [parseExactProperties_eq_ok hnodup hfree] at h ⊢
  obtain ⟨hne, hlength, properties, hlisting, hentries⟩ := h
  have htext := String.ofList_inj.mp (utf8Bytes_injective hlisting.text)
  obtain rfl : lines = properties.map propertyLine := by
    rw [← splitTerminator_terminated hlines, htext, splitTerminator_terminated
      (List.forall_mem_map.mpr hlisting.lines)]
  obtain ⟨properties', rfl, hproperties⟩ :=
    (congrFun₂ (List.eq_map_comp_perm propertyLine) lines' properties).mpr hperm.symm
  have houtput := encoded_terminated_perm hperm
  refine ⟨fun h => hne (List.perm_nil.mp (h ▸ houtput)), houtput.length_eq ▸ hlength, properties',
    ⟨rfl, (hproperties.map _).trans hlisting.keys,
      fun b hb => hlisting.printable b (houtput.mem_iff.mpr hb), ?_, ?_, ?_⟩,
    hentries.trans (Multiset.coe_eq_coe.mpr hproperties.symm)⟩
  · exact fun p hp => hlisting.lines p (hproperties.mem_iff.mp hp)
  · exact fun p hp => hlisting.values p (hproperties.mem_iff.mp hp)
  · exact fun p hp => hlisting.lengths p (hproperties.mem_iff.mp hp)

theorem strict_property_parsing_sample :
    parseExactProperties (utf8Bytes "Id=a\nType=\n") ["Type", "Id"] 64 8 "unit" =
      .ok ((Finmap.singleton ['I', 'd'] ['a']).insert "Type".toList []) :=
  ((strict_property_parsing ["Type", "Id"] 64 8 "unit" _ (by decide) (by decide)).1 _).mpr
    ⟨by decide, by decide, [⟨['I', 'd'], ['a']⟩, ⟨"Type".toList, []⟩],
      ⟨by decide, by decide, by decide +kernel, by decide, by decide, by decide⟩, by decide⟩

end Howy.Security.Properties
