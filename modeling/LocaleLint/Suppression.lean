import LocaleLint.Problem
import LocaleLint.Text.Sorted

/-!
# Suppression

A set of problem codes that are not to be reported. Codes that name no problem are kept and never
match.
-/

namespace LocaleLint

structure Suppression where
  codes : TextSet := []
  deriving DecidableEq, Repr

namespace Suppression

/-- The set of the given codes, trimmed, blank ones left out. -/
def ofCodes (codes : List Text) : Suppression :=
  ⟨.ofList ((codes.map Text.trim).filter fun c => !c.isEmpty)⟩

def marker : Text := "---@ignore ".toList

/-- The set named by the directive of a line. A directive stands after the last double quote, so
quoted text never holds one. -/
def ofLine (line : Text) : Suppression :=
  match Text.afterMark? marker (Text.afterLast '"' line) with
  | some list => ofCodes (list.splitOn ',')
  | none => {}

def isEmpty (s : Suppression) : Bool := s.codes.isEmpty

def covers (s : Suppression) (p : Problem) : Bool := s.codes.contains p.code

def unknown (s : Suppression) : List Text :=
  s.codes.filter fun c => (Problem.ofCode? c).isNone

end Suppression
end LocaleLint
