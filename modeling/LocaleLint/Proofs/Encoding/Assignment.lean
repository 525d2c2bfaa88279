import LocaleLint.Encoding.Assignment
import LocaleLint.Proofs.Text.Scan

namespace LocaleLint

namespace Encoding

/-- The standard labels with a colon. All end in the year of a standard. -/
def datedLabels : List String := [
  "iso_8859-1:1987", "iso_8859-2:1987", "iso_8859-3:1988", "iso_8859-4:1988", "iso_8859-5:1988",
  "iso_8859-6:1987", "iso_8859-7:1987", "iso_8859-8:1988", "iso_8859-9:1989"]

def dashed (label : Text) : Text := label.map fun c => if c = '_' then '-' else c

/-- A character that every reading of a label keeps as it is. -/
structure IsKept (c : Char) : Prop where
  noLetter : c.isAlpha = false
  noBlank : Text.isBlank c = false
  noLabelBlank : isLabelBlank c = false
  noHyphen : c ≠ '-'
  noUnderscore : c ≠ '_'

theorem isKept_comma : IsKept ',' := ⟨by decide, by decide, by decide, by decide, by decide⟩

theorem isKept_colon : IsKept ':' := ⟨by decide, by decide, by decide, by decide, by decide⟩

variable {label : Text} {e : Encoding} {c : Char}

theorem mem_normalLabel_iff (letter : c.isAlpha = false) (blank : isLabelBlank c = false) :
    c ∈ normalLabel label ↔ c ∈ label := by
  rw [normalLabel, Text.mem_toLower_iff letter, List.mem_reverse, Text.mem_dropWhile_iff blank,
    List.mem_reverse, Text.mem_dropWhile_iff blank]

theorem mem_dashed_iff (kept : IsKept c) : c ∈ dashed label ↔ c ∈ label := by
  rw [dashed, List.mem_map]
  constructor
  · rintro ⟨d, member, same⟩
    split at same
    · exact absurd same.symm kept.noHyphen
    · rwa [← same]
  · intro member
    exact ⟨c, member, if_neg kept.noUnderscore⟩

theorem mem_compact_iff (kept : IsKept c) : c ∈ compact label ↔ c ∈ label := by
  simp [compact, kept.noHyphen, kept.noUnderscore]

theorem underscore_not_mem_dashed : '_' ∉ dashed label := by
  intro member
  obtain ⟨d, -, same⟩ := List.mem_map.mp member
  split at same
  · cases same
  · next other => exact other same

theorem underscore_not_mem_compact : '_' ∉ compact label := by
  simp [compact]

/-! ### Labels that are accepted -/

theorem exists_of_ofStandardLabel? (h : ofStandardLabel? label = some e) :
    ∃ x ∈ labels, ∃ l ∈ x.2, l.toList = normalLabel label := by
  obtain ⟨x, found, -⟩ := Option.map_eq_some_iff.mp h
  have listed := List.find?_some found
  obtain ⟨l, member, same⟩ := List.any_eq_true.mp listed
  exact ⟨x, List.mem_of_find?_eq_some found, l, member, beq_iff_eq.mp same⟩

/-- Of the standard labels only those with a year have a colon, and none has a comma. -/
theorem separators_of_mem_labels : ∀ x ∈ labels, ∀ l ∈ x.2,
    ',' ∉ l.toList ∧ (':' ∈ l.toList → l ∈ datedLabels ∧ '_' ∈ l.toList) := by
  decide +kernel

theorem comma_not_mem_standard (h : ofStandardLabel? label = some e) : ',' ∉ label := by
  obtain ⟨x, entry, l, member, same⟩ := exists_of_ofStandardLabel? h
  intro comma
  apply (separators_of_mem_labels x entry l member).1
  rw [same]
  exact (mem_normalLabel_iff (by decide) (by decide)).mpr comma

theorem standard_with_colon (h : ofStandardLabel? label = some e) (colon : ':' ∈ label) :
    normalLabel label ∈ datedLabels.map String.toList ∧ '_' ∈ label := by
  obtain ⟨x, entry, l, member, same⟩ := exists_of_ofStandardLabel? h
  have inside : ':' ∈ l.toList := by
    rw [same]
    exact (mem_normalLabel_iff (by decide) (by decide)).mpr colon
  obtain ⟨year, underscore⟩ := (separators_of_mem_labels x entry l member).2 inside
  rw [same] at underscore
  exact ⟨same ▸ List.mem_map_of_mem year,
    (mem_normalLabel_iff (by decide) (by decide)).mp underscore⟩

theorem not_mem_of_ofCompactName? (letter : c.isAlpha = false) (outside : c ∉ "utf16lebe".toList)
    (h : ofCompactName? label = some e) : c ∉ label := by
  have names : Text.toLower label = "utf16le".toList ∨ Text.toLower label = "utf16be".toList := by
    unfold ofCompactName? at h
    split at h
    · next le => exact Or.inl le
    · split at h
      · next be => exact Or.inr be
      · cases h
  have small : "utf16le".toList ⊆ "utf16lebe".toList ∧ "utf16be".toList ⊆ "utf16lebe".toList := by
    decide
  intro member
  rw [← Text.mem_toLower_iff letter] at member
  rcases names with le | be
  · exact outside (small.1 (le ▸ member))
  · exact outside (small.2 (be ▸ member))

theorem ofLabel?_cases (h : ofLabel? label = some e) :
    ofStandardLabel? (Text.trim label) = some e ∨
      ofStandardLabel? (dashed (Text.trim label)) = some e ∨
      ofStandardLabel? (compact (Text.trim label)) = some e ∨
      ofCompactName? (compact (Text.trim label)) = some e := by
  change (((ofStandardLabel? (Text.trim label)).or (ofStandardLabel? (dashed (Text.trim label)))).or
    (ofStandardLabel? (compact (Text.trim label)))).or
    (ofCompactName? (compact (Text.trim label))) = some e at h
  simp only [Option.or_eq_some_iff] at h
  tauto

theorem comma_not_mem (h : ofLabel? label = some e) : ',' ∉ label := by
  have blank : Text.isBlank ',' = false := by decide
  rw [← Text.mem_trim_iff blank]
  rcases ofLabel?_cases h with plain | hyphens | joined | name
  · exact comma_not_mem_standard plain
  · rw [← mem_dashed_iff isKept_comma]
    exact comma_not_mem_standard hyphens
  · rw [← mem_compact_iff isKept_comma]
    exact comma_not_mem_standard joined
  · rw [← mem_compact_iff isKept_comma]
    exact not_mem_of_ofCompactName? (by decide) (by decide) name

theorem colon_mem_iff (h : ofLabel? label = some e) :
    ':' ∈ label ↔ normalLabel (Text.trim label) ∈ datedLabels.map String.toList := by
  rw [← Text.mem_trim_iff (c := ':') (by decide)]
  constructor
  · intro colon
    rcases ofLabel?_cases h with plain | hyphens | joined | name
    · exact (standard_with_colon plain colon).1
    · -- The labels with a year have an underscore, so neither of the other spellings is one.
      have inside := (standard_with_colon hyphens ((mem_dashed_iff isKept_colon).mpr colon)).2
      exact absurd inside underscore_not_mem_dashed
    · have inside := (standard_with_colon joined ((mem_compact_iff isKept_colon).mpr colon)).2
      exact absurd inside underscore_not_mem_compact
    · have outside := not_mem_of_ofCompactName? (c := ':') (by decide) (by decide) name
      exact absurd ((mem_compact_iff isKept_colon).mpr colon) outside
  · intro dated
    have all : ∀ l ∈ datedLabels.map String.toList, ':' ∈ l := by decide +kernel
    exact (mem_normalLabel_iff (by decide) (by decide)).mp (all _ dated)

end Encoding

namespace Assignment

variable {locale label : Text} {e : Encoding}

/-! ### One entry -/

theorem ofLabels_single (known : Encoding.ofLabel? label = some e) (locale : Text) :
    ofLabels [(locale, label)] = .ok ⟨[(locale, e)]⟩ := by
  simp [ofLabels, unknownLabel?, known]

theorem encodingOf_single (locale other : Text) (e : Encoding) :
    encodingOf ⟨[(locale, e)]⟩ other = if other = locale then e else encodingOf {} other := by
  unfold encodingOf TextMap.get?
  rw [lookup_cons_eq_ite]
  split <;> rfl

theorem parts_single (commaless : ',' ∉ locale ∧ ',' ∉ label) (noColon : ':' ∉ locale) :
    parts (locale ++ ':' :: label) =
      if ':' ∈ label then [] else [(Text.trim locale, Text.trim label)] := by
  have noComma : ',' ∉ locale ++ ':' :: label := by simp [commaless]
  have pieces : (locale ++ ':' :: label).splitOn ':' = locale :: label.splitOn ':' := by
    rw [List.splitOn_append_cons_self, List.splitOn_eq_singleton noColon, List.singleton_append]
  unfold parts
  rw [List.splitOn_eq_singleton noComma, List.filterMap_cons, pieces]
  by_cases colon : ':' ∈ label
  · obtain ⟨front, back, whole, free⟩ := List.eq_append_cons_of_mem colon
    obtain ⟨piece, more, shape⟩ := List.exists_cons_of_ne_nil (List.splitOn_ne_nil ':' back)
    rw [if_pos colon, whole, List.splitOn_append_cons_self, List.splitOn_eq_singleton free, shape]
    rfl
  · rw [if_neg colon, List.splitOn_eq_singleton colon]
    rfl

/-- A label that is accepted gives a locale its encoding in the same way from a list as from a map
with one entry, unless it has a colon. The labels with a colon are the standard labels with a year,
in any case and between blanks; in a list the entry of such a label is skipped, so that the locale
has the encoding it would have without one. -/
theorem listed_eq_mapped (trimmed : Text.trim locale = locale) (noComma : ',' ∉ locale)
    (noColon : ':' ∉ locale) (known : Encoding.ofLabel? label = some e) :
    let listed := ofLabels (labelsOfList (locale ++ ':' :: label))
    let mapped := ofLabels [(locale, label)]
    (∃ a, mapped = .ok a ∧ a.encodingOf locale = e ∧
        ∀ other ≠ locale, a.encodingOf other = encodingOf {} other) ∧
      (':' ∉ label → listed = mapped) ∧
      (':' ∈ label → listed = .ok {}) ∧
      (':' ∈ label ↔
        Encoding.normalLabel (Text.trim label) ∈ Encoding.datedLabels.map String.toList) := by
  intro listed mapped
  have entries := parts_single ⟨noComma, Encoding.comma_not_mem known⟩ noColon
  have single : mapped = .ok ⟨[(locale, e)]⟩ := ofLabels_single known locale
  refine ⟨⟨_, single, ?_, fun other different => ?_⟩, fun plain => ?_, fun colon => ?_,
    Encoding.colon_mem_iff known⟩
  · rw [encodingOf_single, if_pos rfl]
  · rw [encodingOf_single, if_neg different]
  · have known' : Encoding.ofLabel? (Text.trim label) = some e := by
      rw [← known, Encoding.ofLabel?, Encoding.ofLabel?, Text.trim_trim]
    change ofLabels (.ofList (parts _)) = _
    rw [entries, if_neg plain, trimmed, single]
    exact ofLabels_single known' locale
  · change ofLabels (.ofList (parts _)) = _
    rw [entries, if_pos colon]
    rfl

theorem listed_eq_mapped_french :
    let label := " ISO_8859-2\t".toList
    Text.trim "FR".toList = "FR".toList ∧ ',' ∉ "FR".toList ∧ ':' ∉ "FR".toList ∧
      Encoding.ofLabel? label = some (.page .iso8859x2) ∧
      ofLabels (labelsOfList ("FR".toList ++ ':' :: label)) =
        .ok ⟨[("FR".toList, .page .iso8859x2)]⟩ := by
  intro label
  have trimmed : Text.trim "FR".toList = "FR".toList := by decide +kernel
  have noComma : ',' ∉ "FR".toList := by decide
  have noColon : ':' ∉ "FR".toList := by decide
  have known : Encoding.ofLabel? label = some (.page .iso8859x2) := by decide +kernel
  refine ⟨trimmed, noComma, noColon, known, ?_⟩
  rw [(listed_eq_mapped trimmed noComma noColon known).2.1 (by decide +kernel)]
  exact ofLabels_single known _

/-- A label with a year is lost in a list. -/
theorem dated_label_skipped :
    let locale := "FR".toList
    let label := "iso_8859-2:1987".toList
    Text.trim locale = locale ∧ ',' ∉ locale ∧ ':' ∉ locale ∧
      Encoding.ofLabel? label = some (.page .iso8859x2) ∧
      (ofLabels (labelsOfList (locale ++ ':' :: label))).map (·.encodingOf locale) =
        .ok (.page .windows1252) ∧
      (ofLabels [(locale, label)]).map (·.encodingOf locale) = .ok (.page .iso8859x2) := by
  decide +kernel

end Assignment
end LocaleLint
