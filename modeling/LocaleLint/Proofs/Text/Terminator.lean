import LocaleLint.Proofs.Text.Scan
import LocaleLint.Table.Reader

/-!
# Terminators

A text is its lines with a terminator behind each, but for a last line that may do without. It does
not matter which terminators these are: a text is read as its lines, and every text is written in
this way. Only a CR in front of an LF has to be kept apart, since the two are one terminator.
-/

namespace LocaleLint

namespace Text

inductive Terminator where
  | lf
  | crlf
  | cr
  deriving DecidableEq, Repr

def Terminator.text : Terminator → Text
  | lf => ['\n']
  | crlf => ['\r', '\n']
  | cr => ['\r']

structure EndedLine where
  line : Text
  terminator : Terminator
  deriving DecidableEq, Repr

/-- Whether what is between two lines reads as two terminators. -/
def Apart (e f : EndedLine) : Prop := ¬ (e.terminator = .cr ∧ f = ⟨[], .lf⟩)

instance (e f : EndedLine) : Decidable (Apart e f) := inferInstanceAs (Decidable (¬ _))

def written (ended : List EndedLine) (rest : Text) : Text :=
  (ended.flatMap fun e => e.line ++ e.terminator.text) ++ rest

/-- A choice of terminators for lines. The last line has none if it is `rest`, and there is no such
line if `rest` is empty. -/
structure Layout where
  ended : List EndedLine
  rest : Text
  isLine : ∀ e ∈ ended, IsLine e.line
  isLine_rest : IsLine rest
  apart : ended.IsChain Apart

namespace Layout

def text (t : Layout) : Text := written t.ended t.rest

def lines (t : Layout) : List Text :=
  t.ended.map (·.line) ++ if t.rest = [] then [] else [t.rest]

end Layout

variable {l s : Text} {ended : List EndedLine} {rest : Text}

theorem written_cons (e : EndedLine) (ended : List EndedLine) (rest : Text) :
    written (e :: ended) rest = e.line ++ (e.terminator.text ++ written ended rest) := by
  simp [written]

/-! ### One line -/

theorem lines_append {ls : List Text} (h : IsLine l) (ends : lines s = [] :: ls) :
    lines (l ++ s) = l :: ls := by
  induction l with
  | nil => exact ends
  | cons c l ih =>
    obtain ⟨lf, cr⟩ := h
    simp only [List.mem_cons, not_or] at lf cr
    rw [List.cons_append, lines_cons (Ne.symm lf.1) (Ne.symm cr.1), ih ⟨lf.2, cr.2⟩]
    rfl

theorem lines_terminator (t : Terminator) (next : t = .cr → s.head? ≠ some '\n') :
    lines (t.text ++ s) = [] :: lines s := by
  cases t with
  | lf => exact lines_lf s
  | crlf => exact lines_crlf s
  | cr => exact lines_cr (next rfl)

theorem lines_of_isLine (h : IsLine l) : lines l = if l = [] then [] else [l] := by
  induction l with
  | nil => rfl
  | cons c l ih =>
    obtain ⟨lf, cr⟩ := h
    simp only [List.mem_cons, not_or] at lf cr
    rw [lines_cons (Ne.symm lf.1) (Ne.symm cr.1), ih ⟨lf.2, cr.2⟩, if_neg (List.cons_ne_nil c l)]
    split
    · next empty =>
      rw [empty]
      rfl
    · rfl

/-! ### All lines -/

/-- Of the texts that are written line by line only those begin with LF whose first line is empty
and ended by it. -/
theorem head?_written (isLine : ∀ e ∈ ended, IsLine e.line) (isLine_rest : IsLine rest)
    (lf : (written ended rest).head? = some '\n') : ended.head? = some ⟨[], .lf⟩ := by
  cases ended with
  | nil => exact absurd (List.mem_of_head? lf) isLine_rest.1
  | cons e ended =>
    obtain ⟨line, terminator⟩ := e
    have free : '\n' ∉ line := (isLine _ List.mem_cons_self).1
    rw [written_cons] at lf
    cases line with
    | cons c line => exact absurd (Option.some.inj lf) fun same => free (by simp [same])
    | nil =>
      cases terminator with
      | lf => rfl
      | crlf => cases lf
      | cr => cases lf

theorem lines_written (isLine : ∀ e ∈ ended, IsLine e.line) (isLine_rest : IsLine rest)
    (apart : ended.IsChain Apart) :
    lines (written ended rest) =
      ended.map (·.line) ++ if rest = [] then [] else [rest] := by
  induction ended with
  | nil => exact lines_of_isLine isLine_rest
  | cons e ended ih =>
    obtain ⟨first, later⟩ := List.isChain_cons.mp apart
    have isLine' : ∀ f ∈ ended, IsLine f.line := fun f member =>
      isLine f (List.mem_cons_of_mem _ member)
    have next (cr : e.terminator = .cr) : (written ended rest).head? ≠ some '\n' := fun lf =>
      first _ (head?_written isLine' isLine_rest lf) ⟨cr, rfl⟩
    rw [written_cons, lines_append (isLine e List.mem_cons_self) (lines_terminator _ next),
      ih isLine' later]
    rfl

theorem exists_layout (s : Text) : ∃ t : Layout, t.text = s := by
  induction s with
  | nil => exact ⟨⟨[], [], by simp, by decide, .nil⟩, rfl⟩
  | cons c s ih =>
    obtain ⟨⟨ended, rest, isLine, isLine_rest, apart⟩, rfl⟩ := ih
    have empty : IsLine [] := by decide
    by_cases lf : c = '\n'
    · subst lf
      refine ⟨⟨⟨[], .lf⟩ :: ended, rest, by simpa [empty] using isLine, isLine_rest, ?_⟩, rfl⟩
      exact List.isChain_cons.mpr ⟨fun _ _ both => absurd both.1 (by decide), apart⟩
    by_cases cr : c = '\r'
    · subst cr
      by_cases next : ended.head? = some ⟨[], .lf⟩
      · -- A CR in front of an LF makes one terminator of the two.
        obtain ⟨later, rfl⟩ := List.head?_eq_some_iff.mp next
        refine ⟨⟨⟨[], .crlf⟩ :: later, rest, by simpa [empty] using isLine, isLine_rest, ?_⟩, rfl⟩
        exact List.isChain_cons.mpr
          ⟨fun _ _ both => absurd both.1 (by decide), (List.isChain_cons.mp apart).2⟩
      · refine ⟨⟨⟨[], .cr⟩ :: ended, rest, by simpa [empty] using isLine, isLine_rest, ?_⟩, rfl⟩
        exact List.isChain_cons.mpr ⟨fun f first both => next (both.2 ▸ first), apart⟩
    have longer {l : Text} (h : IsLine l) : IsLine (c :: l) := by
      simpa [IsLine, Ne.symm lf, Ne.symm cr] using h
    cases ended with
    | nil => exact ⟨⟨[], c :: rest, isLine, longer isLine_rest, .nil⟩, rfl⟩
    | cons e ended =>
      obtain ⟨first, later⟩ := List.isChain_cons.mp apart
      refine ⟨⟨⟨c :: e.line, e.terminator⟩ :: ended, rest, ?_, isLine_rest, ?_⟩, rfl⟩
      · intro f member
        rcases List.mem_cons.mp member with rfl | other
        · exact longer (isLine e List.mem_cons_self)
        · exact isLine f (List.mem_cons_of_mem _ other)
      · exact List.isChain_cons.mpr ⟨first, later⟩

theorem Layout.lines_text (t : Layout) : Text.lines t.text = t.lines :=
  lines_written t.isLine t.isLine_rest t.apart

theorem Layout.isLine_of_mem (t : Layout) : ∀ l ∈ t.lines, IsLine l := by
  intro l member
  rcases List.mem_append.mp member with ended | last
  · obtain ⟨e, inside, rfl⟩ := List.mem_map.mp ended
    exact t.isLine e inside
  · split at last
    · cases last
    · rw [List.mem_singleton.mp last]
      exact t.isLine_rest

theorem isLine_of_mem_lines (h : l ∈ lines s) : IsLine l := by
  obtain ⟨t, rfl⟩ := exists_layout s
  rw [t.lines_text] at h
  exact t.isLine_of_mem l h

end Text

namespace Table

/-- A text is read as the lines that it is written from, whatever their terminators are, and every
text is written from lines. So the table of a text depends only on its lines, and no line has a
character of a terminator. -/
theorem ofText_layout :
    (∀ t : Text.Layout, Text.lines t.text = t.lines) ∧
      (∀ t u : Text.Layout, t.lines = u.lines → ofText t.text = ofText u.text) ∧
      (∀ s : Text, ∃ t : Text.Layout, t.text = s) ∧
      ∀ s : Text, ∀ l ∈ Text.lines s, '\n' ∉ l ∧ '\r' ∉ l := by
  refine ⟨Text.Layout.lines_text, fun t u same => ?_, Text.exists_layout, fun s l member => ?_⟩
  · unfold ofText
    rw [t.lines_text, u.lines_text, same]
  · obtain ⟨t, rfl⟩ := Text.exists_layout s
    rw [t.lines_text] at member
    exact t.isLine_of_mem l member

/-- One table with two choices of terminators. -/
theorem ofText_layout_mixed :
    let t : Text.Layout := {
      ended := [⟨"UI".toList, .lf⟩, ⟨[], .crlf⟩, ⟨"A = \"a\"..".toList, .cr⟩, ⟨[], .crlf⟩]
      rest := "\"b\",".toList
      isLine := by decide
      isLine_rest := by decide
      apart := by decide }
    let u : Text.Layout := {
      ended := [⟨"UI".toList, .cr⟩, ⟨[], .cr⟩, ⟨"A = \"a\"..".toList, .lf⟩, ⟨[], .lf⟩,
        ⟨"\"b\",".toList, .cr⟩]
      rest := []
      isLine := by decide
      isLine_rest := by decide
      apart := by decide }
    t.lines = u.lines ∧ t.text = "UI\n\r\nA = \"a\"..\r\r\n\"b\",".toList ∧
      u.text = "UI\r\rA = \"a\"..\n\n\"b\",\r".toList ∧ ofText t.text = ofText u.text ∧
      ofText u.text = ⟨[⟨"A".toList, "a".toList, 4, ⟨[]⟩⟩], 5⟩ := by
  intro t u
  have same : t.lines = u.lines := by decide
  exact ⟨same, by decide, by decide, ofText_layout.2.1 t u same, by decide +kernel⟩

end Table
end LocaleLint
