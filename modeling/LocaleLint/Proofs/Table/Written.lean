import LocaleLint.Proofs.Suppression
import LocaleLint.Proofs.Table.Reading

/-!
# Written tables

Entries in the form in which tables are written, and what the reader makes of each. Something may
follow the comma at the end of an entry; an inline directive is an example.
-/

namespace LocaleLint.Table

/-- What a table says for one key: a value in one or more parts, the later ones on lines of their
own. -/
structure Entry where
  key : Text
  first : Text
  more : List Text
  deriving DecidableEq

def quoted (part : Text) : Text := '"' :: part ++ ['"']

namespace Entry

/-- What the format asks of an entry. -/
@[mk_iff]
structure Ok (e : Entry) : Prop where
  named : e.key ≠ []
  trimmed : Text.trim e.key = e.key
  keyEquals : '=' ∉ e.key
  keyLine : Text.IsLine e.key
  firstLine : Text.IsLine e.first
  moreLine : ∀ part ∈ e.more, Text.IsLine part
  moreEquals : ∀ part ∈ e.more, '=' ∉ part
  moreComment : ∀ part ∈ e.more, ¬ HasComment part
  reserved : IsReserved e.key → e.more = []

instance (e : Entry) : Decidable e.Ok := decidable_of_iff' _ (ok_iff e)

/-- What the format asks of an entry whatever its later parts hold. -/
@[mk_iff]
structure Shaped (e : Entry) : Prop where
  named : e.key ≠ []
  trimmed : Text.trim e.key = e.key
  keyEquals : '=' ∉ e.key
  keyLine : Text.IsLine e.key
  firstLine : Text.IsLine e.first
  moreLine : ∀ part ∈ e.more, Text.IsLine part
  reserved : IsReserved e.key → e.more = []

instance (e : Entry) : Decidable e.Shaped := decidable_of_iff' _ (shaped_iff e)

theorem Ok.shaped {e : Entry} (ok : e.Ok) : e.Shaped :=
  ⟨ok.named, ok.trimmed, ok.keyEquals, ok.keyLine, ok.firstLine, ok.moreLine, ok.reserved⟩

/-- A line and the lines of the parts after it, joined by the operator; `tail` follows the comma
after the last one. -/
def linesFrom (tail line : Text) : List Text → List Text
  | [] => [line ++ ',' :: tail]
  | part :: parts => (line ++ "..".toList) :: linesFrom tail (quoted part) parts

def lines (e : Entry) (tail : Text) : List Text :=
  linesFrom tail (e.key ++ " = ".toList ++ quoted e.first) e.more

/-- The record of an entry whose first line has the number `n`. A comment mark in `tail` makes the
line of a later part a comment, which is no part of the value. -/
def record (e : Entry) (tail : Text) (n : Nat) : Record :=
  let parts := if HasComment tail then e.more.dropLast else e.more
  ⟨e.key, e.first ++ parts.flatten, n + e.more.length, .ofLine (',' :: tail)⟩

end Entry

/-- What may follow the comma at the end of an entry. -/
structure IsTail (tail : Text) : Prop where
  line : Text.IsLine tail
  noQuote : '"' ∉ tail
  noEquals : '=' ∉ tail
  shut : ¬ IsOpen tail
  trimmed : ∀ c ∈ (',' :: tail).getLast?, Text.isBlank c = false

theorem isTail_nil : IsTail [] where
  line := by simp [Text.IsLine]
  noQuote := by simp
  noEquals := by simp
  shut := by decide
  trimmed := by simp [Text.isBlank]

variable {e : Entry} {tail : Text}

/-! ### Single lines -/

theorem quotedSpan_quoted {before after : Text} (part : Text) (front : '"' ∉ before)
    (back : '"' ∉ after) : quotedSpan (before ++ (quoted part ++ after)) = part := by
  have shape : before ++ (quoted part ++ after) = before ++ '"' :: (part ++ '"' :: after) := by
    simp [quoted]
  rw [shape, quotedSpan, Text.afterFirst?_append _ front]
  dsimp only
  rw [Text.beforeLast?_append _ back]
  rfl

theorem ofLine_quoted (before part : Text) {after : Text} (back : '"' ∉ after) :
    Suppression.ofLine (before ++ (quoted part ++ after)) = Suppression.ofLine after := by
  have shape : before ++ (quoted part ++ after) = (before ++ '"' :: part) ++ '"' :: after := by
    simp [quoted]
  rw [shape, Suppression.ofLine_behind_quote _ back]

theorem isOpen_joined (line : Text) : IsOpen (line ++ "..".toList) := List.suffix_append _ _

theorem not_isOpen_ended (line : Text) (h : IsTail tail) : ¬ IsOpen (line ++ ',' :: tail) :=
  fun isOpen => h.shut (Text.suffix_across (by decide) isOpen)

theorem isStart_head (e : Entry) (after : Text) :
    IsStart (e.key ++ " = ".toList ++ quoted e.first ++ after) := by
  constructor <;> simp [quoted]

theorem keyOf_head (ok : e.Shaped) (after : Text) :
    keyOf (e.key ++ " = ".toList ++ quoted e.first ++ after) = e.key := by
  have blank : ∀ c ∈ " ".toList, Text.isBlank c = true := by simp [Text.isBlank]
  have free : '=' ∉ e.key ++ " ".toList := by simp [ok.keyEquals]
  have shape : e.key ++ " = ".toList ++ quoted e.first ++ after =
      (e.key ++ " ".toList) ++ '=' :: (" ".toList ++ (quoted e.first ++ after)) := by simp
  rw [keyOf, shape, Text.takeWhile_ne_append _ free, Text.trim_append_of_blank _ blank, ok.trimmed]

theorem valueOf_head (ok : e.Shaped) {after : Text} (back : '"' ∉ after) :
    valueOf (e.key ++ " = ".toList ++ quoted e.first ++ after) = e.first := by
  have free : '=' ∉ e.key ++ " ".toList := by simp [ok.keyEquals]
  have shape : e.key ++ " = ".toList ++ quoted e.first ++ after =
      (e.key ++ " ".toList) ++ '=' :: (" ".toList ++ (quoted e.first ++ after)) := by simp
  rw [valueOf, shape, Text.dropWhile_ne_append _ free, List.tail_cons,
    quotedSpan_quoted _ (by decide) back]

theorem not_isStart_part {part after : Text} (h : '=' ∉ part) (back : '=' ∉ after) :
    ¬ IsStart (quoted part ++ after) := by
  rintro ⟨-, equals⟩
  simp [quoted, h, back] at equals

theorem hasComment_across {a b : Text} {c : Char} (h : c ≠ '-') :
    HasComment (a ++ c :: b) ↔ HasComment a ∨ HasComment b :=
  Text.infix_across (by simp [h])

theorem isTerminator_part {part after : Text} (start : ¬ IsStart (quoted part ++ after))
    (h : ¬ HasComment part) : IsTerminator (quoted part ++ after) ↔ HasComment after := by
  have shape : quoted part ++ after = [] ++ '"' :: (part ++ '"' :: after) := by simp [quoted]
  have empty : ¬ HasComment [] := by decide
  rw [IsTerminator, and_iff_right start, shape, hasComment_across (by decide),
    hasComment_across (by decide)]
  simp [h, empty]

/-! ### The lines of an entry -/

theorem recordsFrom_linesFrom (h : IsTail tail) (parts : List Text) (part : Text)
    (equals : ∀ p ∈ part :: parts, '=' ∉ p) (n : Nat) (rest : List Text) :
    recordsFrom n (Entry.linesFrom tail (quoted part) parts ++ rest) =
      recordsFrom (n + parts.length + 1) rest := by
  induction parts generalizing part n with
  | nil =>
    have start : ¬ IsStart (quoted part ++ ',' :: tail) :=
      not_isStart_part (equals part (by simp)) (by simp [h.noEquals])
    simp [Entry.linesFrom, recordsFrom, recordOf_other start]
  | cons p ps ih =>
    have start : ¬ IsStart (quoted part ++ "..".toList) :=
      not_isStart_part (equals part (by simp)) (by decide)
    rw [Entry.linesFrom, List.cons_append, recordsFrom, recordOf_other start,
      ih p (fun q member => equals q (List.mem_cons_of_mem _ member))]
    simp [Nat.add_assoc, Nat.add_comm 1]

theorem closing_linesFrom (h : IsTail tail) (parts : List Text) (part : Text)
    (equals : ∀ p ∈ part :: parts, '=' ∉ p) (comment : ∀ p ∈ part :: parts, ¬ HasComment p)
    (key value : Text) (n : Nat) (rest : List Text) :
    closing key value n (Entry.linesFrom tail (quoted part) parts ++ rest) =
      some ⟨key, value ++
        (if HasComment tail then (part :: parts).dropLast else part :: parts).flatten,
        n + parts.length, .ofLine (',' :: tail)⟩ := by
  have noQuote : '"' ∉ ',' :: tail := by simp [h.noQuote]
  induction parts generalizing part value n with
  | nil =>
    have start : ¬ IsStart (quoted part ++ ',' :: tail) :=
      not_isStart_part (equals part (by simp)) (by simp [h.noEquals])
    have ends := isTerminator_part start (comment part (by simp))
    have empty : ¬ HasComment [] := by decide
    have comma : HasComment (',' :: tail) ↔ HasComment tail :=
      (hasComment_across (a := []) (by decide)).trans (or_iff_right empty)
    have text := ofLine_quoted [] part noQuote
    have span : quotedSpan ([] ++ (quoted part ++ ',' :: tail)) = part :=
      quotedSpan_quoted part (by simp) noQuote
    rw [List.nil_append] at text span
    rw [Entry.linesFrom, List.cons_append, closing_cons, if_neg start, if_neg (not_isOpen_ended _ h),
      text, span]
    by_cases noted : HasComment tail
    · rw [if_pos (ends.mpr (comma.mpr noted)), if_pos noted]
      simp
    · rw [if_neg (fun isEnd => noted (comma.mp (ends.mp isEnd))), if_neg noted]
      simp
  | cons p ps ih =>
    have start : ¬ IsStart (quoted part ++ "..".toList) :=
      not_isStart_part (equals part (by simp)) (by decide)
    have ends := isTerminator_part start (comment part (by simp))
    have goesOn : ¬ IsTerminator (quoted part ++ "..".toList) := fun isEnd =>
      absurd (ends.mp isEnd) (by decide)
    have span : quotedSpan ([] ++ (quoted part ++ "..".toList)) = part :=
      quotedSpan_quoted part (by simp) (by decide)
    rw [List.nil_append] at span
    rw [Entry.linesFrom, List.cons_append, closing_cons, if_neg start, if_neg goesOn,
      if_pos (isOpen_joined _), span, ih p (fun q member => equals q (List.mem_cons_of_mem _ member))
        (fun q member => comment q (List.mem_cons_of_mem _ member))]
    by_cases noted : HasComment tail <;> simp [noted, Nat.add_assoc, Nat.add_comm 1]

theorem recordsFrom_lines (ok : e.Ok) (h : IsTail tail) (n : Nat) (rest : List Text) :
    recordsFrom n (e.lines tail ++ rest) =
      e.record tail n :: recordsFrom (n + e.more.length + 1) rest := by
  have noQuote : '"' ∉ ',' :: tail := by simp [h.noQuote]
  cases shape : e.more with
  | nil =>
    have single : recordOf n (e.key ++ " = ".toList ++ quoted e.first ++ ',' :: tail) rest =
        some (e.record tail n) := by
      rw [recordOf, if_neg, if_pos (Or.inl (not_isOpen_ended _ h)), keyOf_head ok.shaped,
        valueOf_head ok.shaped noQuote, List.append_assoc, ofLine_quoted _ _ noQuote]
      · simp [Entry.record, shape]
      · rw [keyOf_head ok.shaped]
        exact not_or.mpr ⟨not_not_intro (isStart_head e _), ok.named⟩
    rw [Entry.lines, shape, Entry.linesFrom, List.singleton_append, recordsFrom, single]
    rfl
  | cons part parts =>
    have free : ¬ IsReserved e.key := fun reserved => by
      simpa [shape] using ok.reserved reserved
    have equals := ok.moreEquals
    have comment := ok.moreComment
    rw [shape] at equals comment
    have continued : recordOf n (e.key ++ " = ".toList ++ quoted e.first ++ "..".toList)
        (Entry.linesFrom tail (quoted part) parts ++ rest) = some (e.record tail n) := by
      rw [recordOf, if_neg, if_neg, keyOf_head ok.shaped, valueOf_head ok.shaped (by decide),
        closing_linesFrom h parts part equals comment]
      · simp [Entry.record, shape, Nat.add_assoc, Nat.add_comm 1]
      · rw [keyOf_head ok.shaped]
        rintro (shut | reserved)
        · exact shut (isOpen_joined _)
        · exact free reserved
      · rw [keyOf_head ok.shaped]
        exact not_or.mpr ⟨not_not_intro (isStart_head e _), ok.named⟩
    rw [Entry.lines, shape, Entry.linesFrom, List.cons_append, recordsFrom, continued,
      recordsFrom_linesFrom h parts part equals]
    simp [Nat.add_assoc, Nat.add_comm 1]

/-! ### The text of a table -/

def IsPlain (l : Text) : Prop := Text.IsLine l ∧ Text.trim l = l

theorem isPlain_append {line b : Text} (line_ok : Text.IsLine line) (b_ok : Text.IsLine b)
    (line_ne : line ≠ []) (b_ne : b ≠ []) (front : ∀ c ∈ line.head?, Text.isBlank c = false)
    (back : ∀ c ∈ b.getLast?, Text.isBlank c = false) : IsPlain (line ++ b) := by
  refine ⟨Text.isLine_append.mpr ⟨line_ok, b_ok⟩, Text.trim_eq_self_iff.mpr ⟨?_, ?_⟩⟩
  · rwa [List.head?_append, Option.or_of_isSome (by simpa using line_ne)]
  · rwa [List.getLast?_append, Option.or_of_isSome (by simpa using b_ne)]

theorem isPlain_linesFrom (h : IsTail tail) (parts : List Text)
    (lines : ∀ p ∈ parts, Text.IsLine p) {line : Text} (line_ok : Text.IsLine line)
    (line_ne : line ≠ []) (front : ∀ c ∈ line.head?, Text.isBlank c = false) :
    ∀ l ∈ Entry.linesFrom tail line parts, IsPlain l := by
  induction parts generalizing line with
  | nil =>
    intro l member
    obtain rfl := List.mem_singleton.mp member
    have comma : Text.IsLine (',' :: tail) :=
      ⟨by simp [h.line.1], by simp [h.line.2]⟩
    exact isPlain_append line_ok comma line_ne (by simp) front h.trimmed
  | cons part parts ih =>
    intro l member
    rcases List.mem_cons.mp member with rfl | later
    · exact isPlain_append line_ok ⟨by decide, by decide⟩ line_ne (by decide) front
        (by simp [Text.isBlank])
    · have part_ok := lines part (by simp)
      refine ih (fun p here => lines p (List.mem_cons_of_mem _ here)) ?_ (by simp [quoted]) ?_ l later
      · exact ⟨by simp [quoted, part_ok.1], by simp [quoted, part_ok.2]⟩
      · rintro c ⟨⟩
        decide

theorem isPlain_lines (ok : e.Shaped) (h : IsTail tail) : ∀ l ∈ e.lines tail, IsPlain l := by
  have key_front := (Text.trim_eq_self_iff.mp ok.trimmed).1
  have key_ok := ok.keyLine
  have first_ok := ok.firstLine
  refine isPlain_linesFrom h e.more ok.moreLine ?_ (by simp [ok.named]) ?_
  · exact ⟨by simp [quoted, key_ok.1, first_ok.1], by simp [quoted, key_ok.2, first_ok.2]⟩
  · rwa [List.append_assoc, List.head?_append, Option.or_of_isSome (by simpa using ok.named)]

theorem isPlain_entries {es : List Entry} (ok : ∀ x ∈ es, x.Shaped) :
    ∀ l ∈ es.flatMap (·.lines []), IsPlain l := by
  intro l member
  obtain ⟨x, here, inside⟩ := List.mem_flatMap.mp member
  exact isPlain_lines (ok x here) isTail_nil l inside

theorem lines_ofHeading {heading : Text} {ls : List Text} (heading_ok : Text.IsLine heading)
    (plain : ∀ l ∈ ls, IsPlain l) : Text.lines (Text.ofLines (heading :: ls)) = heading :: ls := by
  apply Text.lines_ofLines
  intro l member
  rcases List.mem_cons.mp member with rfl | later
  · exact heading_ok
  · exact (plain l later).1

theorem body_ofHeading {heading : Text} {ls : List Text} (heading_ok : Text.IsLine heading)
    (plain : ∀ l ∈ ls, IsPlain l) : body (Text.ofLines (heading :: ls)) = ls := by
  rw [body, lines_ofHeading heading_ok plain, List.tail_cons]
  exact (List.map_congr_left fun l member => (plain l member).2).trans (List.map_id _)

/-! ### The records of a table -/

/-- The records of entries one after another, the first on line `n`. -/
def entryRecords (n : Nat) : List Entry → List Record
  | [] => []
  | e :: es => e.record [] n :: entryRecords (n + e.more.length + 1) es

theorem length_entryRecords (n : Nat) (es : List Entry) : (entryRecords n es).length = es.length := by
  induction es generalizing n with
  | nil => rfl
  | cons x es ih => rw [entryRecords, List.length_cons, ih, List.length_cons]

theorem length_linesFrom (tail line : Text) (parts : List Text) :
    (Entry.linesFrom tail line parts).length = parts.length + 1 := by
  induction parts generalizing line with
  | nil => rfl
  | cons part parts ih => rw [Entry.linesFrom, List.length_cons, ih, List.length_cons]

theorem recordsFrom_entries {es : List Entry} (ok : ∀ x ∈ es, x.Ok) (n : Nat) (rest : List Text) :
    recordsFrom n (es.flatMap (·.lines []) ++ rest) =
      entryRecords n es ++ recordsFrom (n + (es.flatMap (·.lines [])).length) rest := by
  induction es generalizing n with
  | nil => rfl
  | cons x es ih =>
    have count : (x.lines []).length = x.more.length + 1 := length_linesFrom _ _ _
    rw [List.flatMap_cons, List.append_assoc, recordsFrom_lines (ok x (by simp)) isTail_nil,
      ih (fun y later => ok y (List.mem_cons_of_mem _ later)), entryRecords, List.length_append, count]
    simp [Nat.add_assoc]

end LocaleLint.Table
