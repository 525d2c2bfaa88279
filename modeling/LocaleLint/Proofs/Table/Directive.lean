import LocaleLint.Proofs.Table.Written

namespace LocaleLint.Table

def directive (codes : List Text) : Text := " ---@ignore ".toList ++ Text.join [','] codes

@[mk_iff]
structure IsCode (c : Text) : Prop where
  named : c ≠ []
  trimmed : Text.trim c = c
  line : Text.IsLine c
  noComma : ',' ∉ c
  noQuote : '"' ∉ c
  noEquals : '=' ∉ c
  noJoin : ¬ "..".toList <:+: c

instance (c : Text) : Decidable (IsCode c) := decidable_of_iff' _ (isCode_iff c)

variable {codes : List Text} {e : Entry} {tail : Text}

/-! ### The text of a directive -/

/-- The last code stands behind a comma, or behind what precedes the list. -/
theorem join_ends (named : codes ≠ []) (d : Char) : ∃ front sep, ∃ t ∈ codes,
    (sep = d ∨ sep = ',') ∧ d :: Text.join [','] codes = front ++ sep :: t := by
  induction codes generalizing d with
  | nil => exact absurd rfl named
  | cons t ts ih =>
    cases ts with
    | nil => exact ⟨[], d, t, by simp, Or.inl rfl, by rw [Text.join_singleton]; rfl⟩
    | cons u ts =>
      obtain ⟨front, sep, v, member, which, same⟩ := ih (by simp) ','
      refine ⟨d :: t ++ front, sep, v, List.mem_cons_of_mem _ member, Or.inr (or_self_iff.mp which), ?_⟩
      rw [Text.join_cons_cons, same]
      simp

theorem isTail_directive (named : codes ≠ []) (ok : ∀ c ∈ codes, IsCode c) :
    IsTail (directive codes) := by
  have free : ∀ {c : Char}, c ∉ " ---@ignore ".toList → c ≠ ',' → (∀ t ∈ codes, c ∉ t) →
      c ∉ directive codes := by
    intro c outside comma inside member
    rcases List.mem_append.mp member with front | back
    · exact outside front
    · rcases Text.mem_join back with same | ⟨t, code, here⟩
      · exact comma same
      · exact inside t code here
  obtain ⟨front, sep, last, member, which, shape⟩ := join_ends named ' '
  have whole : directive codes = (" ---@ignore".toList ++ front) ++ sep :: last :=
    calc directive codes
      _ = " ---@ignore".toList ++ ' ' :: Text.join [','] codes := rfl
      _ = " ---@ignore".toList ++ (front ++ sep :: last) := congrArg _ shape
      _ = _ := (List.append_assoc _ _ _).symm
  have noSep : sep ∉ "..".toList := by rcases which with rfl | rfl <;> decide
  constructor
  · exact ⟨free (by decide) (by decide) fun t code => (ok t code).line.1,
      free (by decide) (by decide) fun t code => (ok t code).line.2⟩
  · exact free (by decide) (by decide) fun t code => (ok t code).noQuote
  · exact free (by decide) (by decide) fun t code => (ok t code).noEquals
  · intro isOpen
    rw [whole] at isOpen
    exact (ok last member).noJoin (Text.suffix_across noSep isOpen).isInfix
  · intro c atEnd
    have shape : ',' :: directive codes = (',' :: (" ---@ignore".toList ++ front) ++ [sep]) ++ last := by
      rw [whole]
      simp
    rw [shape, List.getLast?_append, Option.or_of_isSome (by simpa using (ok last member).named)] at atEnd
    exact (Text.trim_eq_self_iff.mp (ok last member).trimmed).2 c atEnd

theorem hasComment_directive (codes : List Text) : HasComment (directive codes) :=
  ⟨" ".toList, "-@ignore ".toList ++ Text.join [','] codes, rfl⟩

theorem ofLine_directive (named : codes ≠ []) (ok : ∀ c ∈ codes, IsCode c) :
    Suppression.ofLine (',' :: directive codes) = .ofCodes codes := by
  have noComma : ∀ c ∈ codes, ',' ∉ c := fun c member => (ok c member).noComma
  have noQuote : '"' ∉ Text.join [','] codes := fun quote =>
    (isTail_directive named ok).noQuote (List.mem_append_right _ quote)
  have absent : ¬ Suppression.marker <:+: Text.afterLast '"' ", ".toList := by decide
  have shape : ',' :: directive codes =
      ", ".toList ++ (Suppression.marker ++ Text.join [','] codes) := rfl
  rw [shape, Suppression.ofLine_marked absent noQuote, Text.join,
    List.splitOn_intercalate _ noComma named]

theorem mem_ofCodes (ok : ∀ c ∈ codes, IsCode c) {c : Text} :
    c ∈ (Suppression.ofCodes codes).codes ↔ c ∈ codes := by
  rw [Suppression.mem_ofCodes_iff]
  constructor
  · rintro ⟨-, t, member, rfl⟩
    rw [(ok t member).trimmed]
    exact member
  · intro member
    exact ⟨(ok c member).named, c, member, (ok c member).trimmed⟩

/-! ### The table with a directive -/

/-- The text of a table: a heading and entries, with `tail` behind the entry between `before` and
`after`. -/
def written (heading : Text) (before : List Entry) (e : Entry) (after : List Entry) (tail : Text) :
    Text :=
  Text.ofLines
    (heading :: (before.flatMap (·.lines []) ++ (e.lines tail ++ after.flatMap (·.lines []))))

theorem isPlain_written {before after : List Entry} (before_ok : ∀ x ∈ before, x.Ok) (ok : e.Ok)
    (after_ok : ∀ x ∈ after, x.Ok) (h : IsTail tail) :
    ∀ l ∈ before.flatMap (·.lines []) ++ (e.lines tail ++ after.flatMap (·.lines [])), IsPlain l := by
  simp only [List.mem_append]
  rintro l (early | here | late)
  · exact isPlain_entries (fun x here => (before_ok x here).shaped) l early
  · exact isPlain_lines ok.shaped h l here
  · exact isPlain_entries (fun x here => (after_ok x here).shaped) l late

theorem records_written {heading : Text} (heading_ok : Text.IsLine heading)
    {before after : List Entry} (before_ok : ∀ x ∈ before, x.Ok) (ok : e.Ok)
    (after_ok : ∀ x ∈ after, x.Ok) (h : IsTail tail) :
    (ofText (written heading before e after tail)).records =
      entryRecords 2 before ++ e.record tail (2 + (before.flatMap (·.lines [])).length) ::
        entryRecords (2 + (before.flatMap (·.lines [])).length + e.more.length + 1) after := by
  have rest := recordsFrom_entries after_ok
    (2 + (before.flatMap (·.lines [])).length + e.more.length + 1) []
  rw [List.append_nil, recordsFrom, List.append_nil] at rest
  rw [records_ofText, written, body_ofHeading heading_ok (isPlain_written before_ok ok after_ok h),
    recordsFrom_entries before_ok, recordsFrom_lines ok h, rest]

theorem lineCount_written {heading : Text} (heading_ok : Text.IsLine heading)
    {before after : List Entry} (before_ok : ∀ x ∈ before, x.Ok) (ok : e.Ok)
    (after_ok : ∀ x ∈ after, x.Ok) (h : IsTail tail) :
    (ofText (written heading before e after tail)).lineCount =
      (before.flatMap (·.lines [])).length + (e.more.length + 1) +
        (after.flatMap (·.lines [])).length + 1 := by
  have count : (e.lines tail).length = e.more.length + 1 := length_linesFrom _ _ _
  rw [lineCount_ofText, written, lines_ofHeading heading_ok (isPlain_written before_ok ok after_ok h),
    List.length_cons, List.length_append, List.length_append, count]
  omega

/-- A directive behind the last line of an entry sets what its record suppresses to exactly its
codes, and leaves alone the other records, the keys, the lines and the number of lines. The value
stays too when the entry has one part. The last line of a longer entry becomes a comment, which
ends the record without the part on it. -/
theorem directive_changes_suppression {heading : Text} (heading_ok : Text.IsLine heading)
    {before after : List Entry} (before_ok : ∀ x ∈ before, x.Ok) (ok : e.Ok)
    (after_ok : ∀ x ∈ after, x.Ok) (named : codes ≠ []) (codes_ok : ∀ c ∈ codes, IsCode c) :
    let plain := ofText (written heading before e after [])
    let noted := ofText (written heading before e after (directive codes))
    noted.lineCount = plain.lineCount ∧
      ∃ rs r rs', rs.length = before.length ∧ rs'.length = after.length ∧
        r.key = e.key ∧ r.value = e.first ++ e.more.flatten ∧
        plain.records = rs ++ r :: rs' ∧
        noted.records = rs ++ { r with
          value := e.first ++ e.more.dropLast.flatten
          suppressed := .ofCodes codes } :: rs' ∧
        ∀ c, c ∈ (Suppression.ofCodes codes).codes ↔ c ∈ codes := by
  have tail_ok := isTail_directive named codes_ok
  have bare : ¬ HasComment [] := by decide
  have commented := hasComment_directive codes
  refine ⟨?_, entryRecords 2 before, e.record [] (2 + (before.flatMap (·.lines [])).length),
    entryRecords (2 + (before.flatMap (·.lines [])).length + e.more.length + 1) after,
    length_entryRecords _ _, length_entryRecords _ _, rfl, ?_, ?_, ?_, fun c => mem_ofCodes codes_ok⟩
  · rw [lineCount_written heading_ok before_ok ok after_ok tail_ok,
      lineCount_written heading_ok before_ok ok after_ok isTail_nil]
  · simp [Entry.record, bare]
  · exact records_written heading_ok before_ok ok after_ok isTail_nil
  · rw [records_written heading_ok before_ok ok after_ok tail_ok]
    simp [Entry.record, commented, ofLine_directive named codes_ok]

theorem directive_changes_suppression_between :
    let long : Entry := ⟨"Tip".toList, "one %1 ".toList, ["two ".toList, "three".toList]⟩
    let short : Entry := ⟨"ItemName_Axe".toList, "Axe = --\"axe\"".toList, []⟩
    let codes := ["identical".toList, "no such code".toList]
    let plain := ofText (written "T = \x7b".toList [short] long [short] [])
    let noted := ofText (written "T = \x7b".toList [short] long [short] (directive codes))
    Text.IsLine "T = \x7b".toList ∧ (∀ x ∈ [short], x.Ok) ∧ long.Ok ∧ codes ≠ [] ∧
      (∀ c ∈ codes, IsCode c) ∧ noted.lineCount = plain.lineCount ∧
      ∃ rs r rs', rs.length = 1 ∧ rs'.length = 1 ∧
        r.key = "Tip".toList ∧ r.value = "one %1 two three".toList ∧
        plain.records = rs ++ r :: rs' ∧
        noted.records = rs ++ { r with
          value := "one %1 two ".toList
          suppressed := .ofCodes codes } :: rs' ∧
        ∀ c, c ∈ (Suppression.ofCodes codes).codes ↔ c ∈ codes := by
  have heading_ok : Text.IsLine "T = \x7b".toList := by decide +kernel
  have short_ok : ∀ x ∈ [(⟨"ItemName_Axe".toList, "Axe = --\"axe\"".toList, []⟩ : Entry)], x.Ok := by
    decide +kernel
  have long_ok : (⟨"Tip".toList, "one %1 ".toList, ["two ".toList, "three".toList]⟩ : Entry).Ok := by
    decide +kernel
  have named : ["identical".toList, "no such code".toList] ≠ [] := by decide +kernel
  have codes_ok : ∀ c ∈ ["identical".toList, "no such code".toList], IsCode c := by decide +kernel
  exact ⟨heading_ok, short_ok, long_ok, named, codes_ok,
    directive_changes_suppression heading_ok short_ok long_ok short_ok named codes_ok⟩

/-- In general a directive does change values: the last part of a continued one is lost. -/
theorem directive_drops_last_part :
    let e : Entry := ⟨"K".toList, "a".toList, ["b".toList]⟩
    let codes := ["extra".toList]
    e.Ok ∧ codes ≠ [] ∧ (∀ c ∈ codes, IsCode c) ∧
      (ofText (written "T = \x7b".toList [] e [] [])).records.map (·.value) = ["ab".toList] ∧
      (ofText (written "T = \x7b".toList [] e [] (directive codes))).records.map (·.value) =
        ["a".toList] := by
  decide +kernel

end LocaleLint.Table
