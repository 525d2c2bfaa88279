import LocaleLint.Proofs.Table.Written

/-!
# Writing and reading back

Tables whose later parts may hold anything. Such a table reads back as it was written if no later
part holds an equals sign or a comment mark, and only then: an entry with such a part gives no
record on its last line, or one whose value is too short.
-/

namespace LocaleLint.Table

variable {n : Nat} {t : Text} {later : List Text} {r : Record}

/-! ### Blocks of lines -/

theorem recordOf_eq_some (h : recordOf n t later = some r) :
    IsStart t ∧ ((r.line = n ∧ r.value = valueOf t) ∨
      closing (keyOf t) (valueOf t) (n + 1) later = some r) := by
  unfold recordOf at h
  split at h
  · cases h
  · next started =>
    have start : IsStart t := Decidable.not_not.mp fun other => started (Or.inl other)
    split at h
    · cases h
      exact ⟨start, Or.inl ⟨rfl, rfl⟩⟩
    · exact ⟨start, Or.inr h⟩

theorem exists_later_shut (shut : ∃ l ∈ t :: later, ¬ IsOpen l) (isOpen : IsOpen t) :
    ∃ l ∈ later, ¬ IsOpen l := by
  obtain ⟨l, member, closed⟩ := shut
  rcases List.mem_cons.mp member with rfl | inside
  · exact absurd isOpen closed
  · exact ⟨l, inside, closed⟩

theorem closing_append (shut : ∃ l ∈ later, ¬ IsOpen l) (key value : Text) (n : Nat)
    (rest : List Text) : closing key value n (later ++ rest) = closing key value n later := by
  obtain ⟨l, member, closed⟩ := shut
  exact closing_append_of_shut (fun more => closed (extends?_iff.mp (more l member)).2) _ _ _ _

theorem recordOf_append (shut : ∃ l ∈ t :: later, ¬ IsOpen l) (n : Nat) (rest : List Text) :
    recordOf n t (later ++ rest) = recordOf n t later := by
  unfold recordOf
  by_cases isOpen : IsOpen t
  · rw [closing_append (exists_later_shut shut isOpen)]
  · simp only [if_pos (Or.inl isOpen)]

def IsShut (ls : List Text) : Prop := ∀ l ∈ ls.getLast?, ¬ IsOpen l

theorem IsShut.append {a b : List Text} (first : IsShut a) (second : IsShut b) :
    IsShut (a ++ b) := by
  intro l last
  rw [List.getLast?_append] at last
  cases found : b.getLast? with
  | none =>
    rw [found, Option.none_or] at last
    exact first l last
  | some k =>
    rw [found, Option.some_or] at last
    exact second l (found.trans last)

theorem IsShut.exists (shut : IsShut (t :: later)) : ∃ l ∈ t :: later, ¬ IsOpen l := by
  have last := List.getLast?_eq_some_getLast (List.cons_ne_nil t later)
  exact ⟨_, List.getLast_mem _, shut _ last⟩

theorem IsShut.tail (shut : IsShut (t :: later)) : IsShut later := by
  intro l last
  cases later with
  | nil => cases last
  | cons u us => exact shut l ((List.getLast?_cons_cons).trans last)

/-- What stands behind lines that are shut does not change their records. -/
theorem recordsFrom_append {ls : List Text} (shut : IsShut ls) (n : Nat) (rest : List Text) :
    recordsFrom n (ls ++ rest) = recordsFrom n ls ++ recordsFrom (n + ls.length) rest := by
  induction ls generalizing n with
  | nil => rfl
  | cons t later ih =>
    rw [List.cons_append, recordsFrom, recordOf_append shut.exists, ih shut.tail, recordsFrom,
      List.append_assoc, List.length_cons, Nat.add_assoc, Nat.add_comm 1]

/-- Of lines between others, the records on their line numbers are their own. -/
theorem mem_recordsFrom_middle {before ls after : List Text} (before_shut : IsShut before)
    (shut : IsShut ls) (h : r ∈ recordsFrom n (before ++ (ls ++ after)))
    (first : n + before.length ≤ r.line) (last : r.line < n + before.length + ls.length) :
    r ∈ recordsFrom (n + before.length) ls := by
  rw [recordsFrom_append before_shut, recordsFrom_append shut] at h
  rcases List.mem_append.mp h with early | inside
  · have place := (recordsFrom_place early).2.2
    omega
  · rcases List.mem_append.mp inside with here | late
    · exact here
    · have place := (recordsFrom_place late).2.1
      omega

/-! ### Parts that cannot be read -/

/-- Whether a later part is read as it was written. -/
def Legible (part : Text) : Prop := '=' ∉ part ∧ ¬ HasComment part

instance (part : Text) : Decidable (Legible part) := inferInstanceAs (Decidable (_ ∧ _))

theorem ok_of_shaped {e : Entry} (shaped : e.Shaped) (legible : ∀ p ∈ e.more, Legible p) : e.Ok where
  named := shaped.named
  trimmed := shaped.trimmed
  keyEquals := shaped.keyEquals
  keyLine := shaped.keyLine
  firstLine := shaped.firstLine
  moreLine := shaped.moreLine
  moreEquals part member := (legible part member).1
  moreComment part member := (legible part member).2
  reserved := shaped.reserved

theorem length_quotedSpan_le (b : Text) {after : Text} (back : '"' ∉ after) :
    (quotedSpan (b ++ '"' :: after)).length ≤ b.length := by
  by_cases quote : '"' ∈ b
  · obtain ⟨front, inner, rfl, free⟩ := List.eq_append_cons_of_mem quote
    have span : quotedSpan (front ++ (quoted inner ++ after)) = inner :=
      quotedSpan_quoted inner free back
    have shape : front ++ '"' :: inner ++ '"' :: after = front ++ (quoted inner ++ after) := by
      simp [quoted]
    rw [shape, span, List.length_append, List.length_cons]
    omega
  · rw [quotedSpan, Text.afterFirst?_append after quote]
    simp [Text.beforeLast?_of_not_mem back]

/-- A part with an equals sign starts a record, whose value lacks at least the sign. -/
theorem length_valueOf_part {part after : Text} (equals : '=' ∈ part) (back : '"' ∉ after) :
    (valueOf (quoted part ++ after)).length < part.length := by
  obtain ⟨key, value, rfl, free⟩ := List.eq_append_cons_of_mem equals
  have shape : quoted (key ++ '=' :: value) ++ after =
      ('"' :: key) ++ '=' :: (value ++ '"' :: after) := by simp [quoted]
  have short := length_quotedSpan_le value back
  rw [valueOf, shape, Text.dropWhile_ne_append _ (by simpa using free), List.tail_cons,
    List.length_append, List.length_cons]
  omega

theorem isStart_part_iff {part after : Text} (back : '=' ∉ after) :
    IsStart (quoted part ++ after) ↔ '=' ∈ part := by
  simp [IsStart, quoted, back]

theorem length_pos_of_comment {part : Text} (comment : HasComment part) : 0 < part.length := by
  have long := comment.length_le
  have two : "--".toList.length = 2 := by decide
  omega

/-- What the line of a later part does to an open value. -/
theorem closing_part {part after : Text} (noQuote : '"' ∉ after) (noEquals : '=' ∉ after)
    (bare : ¬ HasComment after) (key value : Text) (n : Nat) (later : List Text) :
    closing key value n ((quoted part ++ after) :: later) =
      if '=' ∈ part then none
      else if HasComment part then some ⟨key, value, n, .ofLine (quoted part ++ after)⟩
      else if IsOpen (quoted part ++ after) then closing key (value ++ part) (n + 1) later
      else some ⟨key, value ++ part, n, .ofLine (quoted part ++ after)⟩ := by
  have span : quotedSpan ([] ++ (quoted part ++ after)) = part :=
    quotedSpan_quoted part List.not_mem_nil noQuote
  rw [List.nil_append] at span
  rw [closing_cons, span]
  by_cases equals : '=' ∈ part
  · rw [if_pos ((isStart_part_iff noEquals).mpr equals), if_pos equals]
  · have start : ¬ IsStart (quoted part ++ after) := fun start =>
      equals ((isStart_part_iff noEquals).mp start)
    rw [if_neg start, if_neg equals]
    by_cases comment : HasComment part
    · have inside : part <:+: quoted part ++ after := ⟨['"'], '"' :: after, by simp [quoted]⟩
      have ends : IsTerminator (quoted part ++ after) := ⟨start, Or.inr (comment.trans inside)⟩
      rw [if_pos ends, if_pos comment]
    · have goesOn : ¬ IsTerminator (quoted part ++ after) := fun ends =>
        bare ((isTerminator_part start comment).mp ends)
      rw [if_neg goesOn, if_neg comment]

/-- An open value that is closed on the last line is whole if all parts are legible, and too short
otherwise. -/
theorem closing_linesFrom_cases (parts : List Text) (part key value : Text) (n : Nat)
    (h : closing key value n (Entry.linesFrom [] (quoted part) parts) = some r)
    (last : r.line = n + parts.length) :
    (∀ p ∈ part :: parts, Legible p) ∧
        r.value.length = value.length + (part :: parts).flatten.length ∨
      r.value.length < value.length + (part :: parts).flatten.length := by
  induction parts generalizing part value n with
  | nil =>
    rw [Entry.linesFrom, closing_part (by decide) (by decide) (by decide),
      if_neg (not_isOpen_ended _ isTail_nil)] at h
    split at h
    · cases h
    · next noEquals =>
      split at h
      · next comment =>
        cases h
        exact Or.inr (by simpa using length_pos_of_comment comment)
      · next noComment =>
        cases h
        exact Or.inl ⟨by simpa using ⟨noEquals, noComment⟩, by simp⟩
  | cons p ps ih =>
    rw [List.length_cons] at last
    rw [Entry.linesFrom, closing_part (by decide) (by decide) (by decide),
      if_pos (isOpen_joined _)] at h
    split at h
    · cases h
    · next noEquals =>
      split at h
      · cases h
        dsimp only at last
        omega
      · next noComment =>
        have whole : (value ++ part).length + (p :: ps).flatten.length =
            value.length + (part :: p :: ps).flatten.length := by
          simp [Nat.add_assoc]
        have rest := ih p (value ++ part) (n + 1) h (by omega)
        rw [whole] at rest
        rcases rest with ⟨legible, same⟩ | short
        · refine Or.inl ⟨?_, same⟩
          intro q member
          rcases List.mem_cons.mp member with rfl | later
          · exact ⟨noEquals, noComment⟩
          · exact legible q later
        · exact Or.inr short

theorem length_value_parts (parts : List Text) (part : Text) (n : Nat)
    (h : r ∈ recordsFrom n (Entry.linesFrom [] (quoted part) parts))
    (last : r.line = n + parts.length) : r.value.length < (part :: parts).flatten.length := by
  induction parts generalizing part n with
  | nil =>
    rw [Entry.linesFrom, recordsFrom, recordsFrom, List.append_nil, Option.mem_toList] at h
    obtain ⟨start, ⟨-, value⟩ | closed⟩ := recordOf_eq_some h
    · have equals : '=' ∈ part := (isStart_part_iff (by decide)).mp start
      have short : (valueOf (quoted part ++ [','])).length < part.length :=
        length_valueOf_part equals (by decide)
      rw [value]
      simpa using short
    · cases closed
  | cons p ps ih =>
    rw [List.length_cons] at last
    rw [Entry.linesFrom, recordsFrom] at h
    rcases List.mem_append.mp h with here | after
    · obtain ⟨start, ⟨line, -⟩ | closed⟩ := recordOf_eq_some (Option.mem_toList.mp here)
      · omega
      · have equals : '=' ∈ part := (isStart_part_iff (by decide)).mp start
        have short : (valueOf (quoted part ++ "..".toList)).length < part.length :=
          length_valueOf_part equals (by decide)
        have rest := closing_linesFrom_cases ps p _ _ (n + 1) closed (by omega)
        have bound := rest.elim (fun whole => whole.2.le) Nat.le_of_lt
        rw [List.flatten_cons, List.length_append]
        omega
    · have rest := ih p (n + 1) after (by omega)
      rw [List.flatten_cons, List.length_append]
      omega

/-- A record on the last line of an entry with an illegible part is too short. -/
theorem length_value_misread {e : Entry} (shaped : e.Shaped) (misread : ∃ p ∈ e.more, ¬ Legible p)
    (h : r ∈ recordsFrom n (e.lines [])) (last : r.line = n + e.more.length) :
    r.value.length < (e.first ++ e.more.flatten).length := by
  obtain ⟨bad, member, illegible⟩ := misread
  rw [Entry.lines] at h
  rw [List.length_append]
  cases shape : e.more with
  | nil =>
    rw [shape] at member
    cases member
  | cons part parts =>
    rw [shape] at h last member
    rw [List.length_cons] at last
    rw [Entry.linesFrom, recordsFrom] at h
    rcases List.mem_append.mp h with here | after
    · obtain ⟨-, ⟨line, -⟩ | closed⟩ := recordOf_eq_some (Option.mem_toList.mp here)
      · omega
      · rw [valueOf_head shaped (by decide)] at closed
        rcases closing_linesFrom_cases parts part _ _ (n + 1) closed (by omega) with whole | short
        · exact absurd (whole.1 bad member) illegible
        · exact short
    · have short := length_value_parts parts part (n + 1) after (by omega)
      omega

/-! ### Whole tables -/

/-- The records that entries ask for, one for each, the first entry beginning on line `n`. -/
def wholeRecords (n : Nat) : List Entry → List Record
  | [] => []
  | e :: es =>
    ⟨e.key, e.first ++ e.more.flatten, n + e.more.length, {}⟩ ::
      wholeRecords (n + e.more.length + 1) es

theorem entryRecords_eq (n : Nat) (es : List Entry) : entryRecords n es = wholeRecords n es := by
  induction es generalizing n with
  | nil => rfl
  | cons e es ih =>
    have bare : ¬ HasComment [] := by decide
    have unmarked : Suppression.ofLine [','] = {} := rfl
    rw [entryRecords, wholeRecords, ih, Entry.record, if_neg bare, unmarked]

theorem length_lines (e : Entry) : (e.lines []).length = e.more.length + 1 :=
  length_linesFrom _ _ _

theorem mem_wholeRecords (n : Nat) (before after : List Entry) (e : Entry) :
    (⟨e.key, e.first ++ e.more.flatten,
        n + (before.flatMap (·.lines [])).length + e.more.length, {}⟩ : Record) ∈
      wholeRecords n (before ++ e :: after) := by
  induction before generalizing n with
  | nil => exact List.mem_cons_self
  | cons x before ih =>
    have count : n + ((x :: before).flatMap (·.lines [])).length =
        n + x.more.length + 1 + (before.flatMap (·.lines [])).length := by
      rw [List.flatMap_cons, List.length_append, length_lines]
      omega
    rw [count]
    exact List.mem_cons_of_mem _ (ih _)

theorem isShut_linesFrom (line : Text) (parts : List Text) :
    IsShut (Entry.linesFrom [] line parts) := by
  induction parts generalizing line with
  | nil =>
    rintro l ⟨⟩
    exact not_isOpen_ended line isTail_nil
  | cons part parts ih =>
    intro l last
    have more : Entry.linesFrom [] (quoted part) parts ≠ [] := by
      rw [← List.length_pos_iff, length_linesFrom]
      omega
    rw [Entry.linesFrom, List.getLast?_cons_of_ne_nil more] at last
    exact ih _ l last

theorem isShut_entries (es : List Entry) : IsShut (es.flatMap (·.lines [])) := by
  induction es with
  | nil => rintro l ⟨⟩
  | cons e es ih => exact (isShut_linesFrom _ e.more).append ih

theorem recordsFrom_whole {es : List Entry} (shaped : ∀ e ∈ es, e.Shaped)
    (legible : ∀ e ∈ es, ∀ p ∈ e.more, Legible p) (n : Nat) :
    recordsFrom n (es.flatMap (·.lines [])) = wholeRecords n es := by
  have ok : ∀ e ∈ es, e.Ok := fun e member => ok_of_shaped (shaped e member) (legible e member)
  have found := recordsFrom_entries ok n []
  rw [List.append_nil, recordsFrom, List.append_nil] at found
  rw [found, entryRecords_eq]

theorem legible_of_recordsFrom {es : List Entry} (shaped : ∀ e ∈ es, e.Shaped)
    (same : recordsFrom n (es.flatMap (·.lines [])) = wholeRecords n es) :
    ∀ e ∈ es, ∀ p ∈ e.more, Legible p := by
  intro e member p part
  refine Decidable.byContradiction fun illegible => ?_
  obtain ⟨before, after, rfl⟩ := List.append_of_mem member
  -- The record that the entry asks for would have to come from the lines of the entry.
  have asked := mem_wholeRecords n before after e
  rw [← same, List.flatMap_append, List.flatMap_cons] at asked
  have shut : IsShut (e.lines []) := isShut_linesFrom _ e.more
  have inside : n + (before.flatMap (·.lines [])).length + e.more.length <
      n + (before.flatMap (·.lines [])).length + (e.lines []).length := by
    rw [length_lines]
    omega
  have here := mem_recordsFrom_middle (isShut_entries before) shut asked
    (Nat.le_add_right _ _) inside
  have short := length_value_misread (shaped e member) ⟨p, part, illegible⟩ here rfl
  exact absurd short (Nat.lt_irrefl _)

/-! ### Indented tables -/

def IsIndent (b : Text) : Prop := ∀ c ∈ b, c = ' ' ∨ c = '\t'

def indent (pad : Nat → Text) (ls : List Text) : List Text := ls.mapIdx fun i l => pad i ++ l

theorem isBlank_of_indent {b : Text} (h : IsIndent b) : ∀ c ∈ b, Text.isBlank c = true := by
  intro c member
  rcases h c member with rfl | rfl <;> decide

theorem isLine_of_indent {b : Text} (h : IsIndent b) : Text.IsLine b := by
  constructor <;> intro member <;> rcases h _ member with same | same <;> exact absurd same (by decide)

theorem lines_indented {heading : Text} (heading_ok : Text.IsLine heading) {pad : Nat → Text}
    (pad_ok : ∀ i, IsIndent (pad i)) {ls : List Text} (plain : ∀ l ∈ ls, IsPlain l) :
    Text.lines (Text.ofLines (heading :: indent pad ls)) = heading :: indent pad ls := by
  apply Text.lines_ofLines
  intro l member
  rcases List.mem_cons.mp member with rfl | later
  · exact heading_ok
  · obtain ⟨i, bound, rfl⟩ := List.mem_mapIdx.mp later
    exact Text.isLine_append.mpr ⟨isLine_of_indent (pad_ok i), (plain _ (List.getElem_mem _)).1⟩

theorem map_trim_indent {pad : Nat → Text} (pad_ok : ∀ i, IsIndent (pad i)) {ls : List Text}
    (plain : ∀ l ∈ ls, IsPlain l) : (indent pad ls).map Text.trim = ls := by
  refine List.ext_getElem (by simp [indent]) fun i bound bound' => ?_
  have trimmed : Text.trim ls[i] = ls[i] := (plain _ (List.getElem_mem _)).2
  have dropped := Text.trim_blank_append ls[i] (isBlank_of_indent (pad_ok i))
  simpa [indent, trimmed] using dropped

/-- The table of a heading and indented entries has a line for each line written. It has exactly
the records that the entries ask for, each with its key, all parts of its value, its last line and
nothing suppressed, if and only if every later part is legible. -/
theorem records_indented_iff {heading : Text} (heading_ok : Text.IsLine heading)
    {pad : Nat → Text} (pad_ok : ∀ i, IsIndent (pad i)) {es : List Entry}
    (shaped : ∀ e ∈ es, e.Shaped) :
    let ls := es.flatMap (·.lines [])
    let t := ofText (Text.ofLines (heading :: indent pad ls))
    t.lineCount = ls.length + 1 ∧
      (t.records = wholeRecords 2 es ↔ ∀ e ∈ es, ∀ p ∈ e.more, Legible p) := by
  intro ls t
  have plain : ∀ l ∈ ls, IsPlain l := isPlain_entries shaped
  have split := lines_indented heading_ok pad_ok plain
  have records : t.records = recordsFrom 2 ls := by
    rw [records_ofText, body, split, List.tail_cons, map_trim_indent pad_ok plain]
  refine ⟨?_, ?_⟩
  · rw [lineCount_ofText, split]
    simp [indent]
  · rw [records]
    exact ⟨legible_of_recordsFrom shaped, fun legible => recordsFrom_whole shaped legible 2⟩

theorem records_indented_iff_both_ways :
    let pad : Nat → Text := fun i => if i % 2 = 0 then "    ".toList else " \t".toList
    let head : Entry := ⟨"ItemName_\"Axe\"".toList, "Axe = -- \"axe\" ..".toList, []⟩
    let good : Entry := ⟨"Tip".toList, "one ---@ignore extra".toList, ["\"two\"".toList, "..".toList]⟩
    let bad : Entry := ⟨"Tip".toList, "one".toList, ["a = \"b".toList, "two".toList]⟩
    let heading := "T = \x7b".toList
    Text.IsLine heading ∧ (∀ i, IsIndent (pad i)) ∧ (∀ e ∈ [head, good, head], e.Shaped) ∧
      (∀ e ∈ [head, bad], e.Shaped) ∧
      (ofText (Text.ofLines
        (heading :: indent pad ([head, good, head].flatMap (·.lines []))))).records =
        [⟨head.key, head.first, 2, {}⟩, ⟨good.key, "one ---@ignore extra\"two\"..".toList, 5, {}⟩,
          ⟨head.key, head.first, 6, {}⟩] ∧
      (ofText (Text.ofLines
        (heading :: indent pad ([head, bad].flatMap (·.lines []))))).records ≠
        wholeRecords 2 [head, bad] := by
  intro pad head good bad heading
  have heading_ok : Text.IsLine heading := by decide +kernel
  have pad_ok : ∀ i, IsIndent (pad i) := by
    intro i
    dsimp only [pad]
    split <;> simp [IsIndent]
  have good_ok : ∀ e ∈ [head, good, head], e.Shaped := by decide +kernel
  have bad_ok : ∀ e ∈ [head, bad], e.Shaped := by decide +kernel
  have legible : ∀ e ∈ [head, good, head], ∀ p ∈ e.more, Legible p := by decide +kernel
  have illegible : ¬ ∀ e ∈ [head, bad], ∀ p ∈ e.more, Legible p := by decide +kernel
  refine ⟨heading_ok, pad_ok, good_ok, bad_ok, ?_, ?_⟩
  · rw [(records_indented_iff heading_ok pad_ok good_ok).2.mpr legible]
    decide +kernel
  · exact fun same => illegible ((records_indented_iff heading_ok pad_ok bad_ok).2.mp same)

end LocaleLint.Table
