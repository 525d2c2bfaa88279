import LocaleLint.Text.Basic

/-!
# Lines

A line ends with LF, CR LF or a lone CR. Text after the last terminator is a line of its own
unless it is empty.
-/

namespace LocaleLint.Text

def consLine (c : Char) : List Text → List Text
  | [] => [[c]]
  | l :: ls => (c :: l) :: ls

/-- One character read from the right: whether it is LF, and the lines from it on. A CR adds no
line of its own in front of an LF. -/
def lineStep (c : Char) (rest : Bool × List Text) : Bool × List Text :=
  if c = '\n' then (true, [] :: rest.2)
  else if c = '\r' then (false, if rest.1 then rest.2 else [] :: rest.2)
  else (false, consLine c rest.2)

/-- The lines of a text without their terminators. -/
def lines (s : Text) : List Text := (s.foldr lineStep (false, [])).2

/-- The first part of a step tells whether the text begins with LF. -/
theorem foldr_lineStep_fst (s : Text) :
    (s.foldr lineStep (false, [])).1 = (s.head? = some '\n' : Bool) := by
  cases s with
  | nil => rfl
  | cons c r => by_cases h : c = '\n' <;> by_cases h' : c = '\r' <;> simp [lineStep, h, h']

theorem lines_lf (r : Text) : lines ('\n' :: r) = [] :: lines r := by
  simp [lines, lineStep]

theorem lines_crlf (r : Text) : lines ('\r' :: '\n' :: r) = [] :: lines r := by
  simp [lines, lineStep]

theorem lines_cr {r : Text} (h : r.head? ≠ some '\n') : lines ('\r' :: r) = [] :: lines r := by
  simp [lines, lineStep, foldr_lineStep_fst, h]

theorem lines_cons {c : Char} (lf : c ≠ '\n') (cr : c ≠ '\r') (r : Text) :
    lines (c :: r) = consLine c (lines r) := by
  simp [lines, lineStep, lf, cr]

end LocaleLint.Text
