import LocaleLint.Text.Basic

namespace LocaleLint

inductive Style where
  | bold
  | green
  | boldRed
  | boldYellow
  deriving DecidableEq, Repr

namespace Style

def start : Style → Text
  | bold => "\x1b[1m".toList
  | green => "\x1b[32m".toList
  | boldRed => "\x1b[1;31m".toList
  | boldYellow => "\x1b[1;33m".toList

def reset : Text := "\x1b[0m".toList

/-- Puts `again` after each reset sequence of a text; `skip` characters belong to one that has
begun. -/
def restart (again : Text) : Nat → Text → Text
  | _, [] => []
  | skip, c :: r =>
    if skip = 1 then c :: again ++ restart again 0 r
    else if 1 < skip then c :: restart again (skip - 1) r
    else if reset.isPrefixOf (c :: r) then c :: restart again (reset.length - 1) r
    else c :: restart again 0 r

/-- A text in a style, if colours are on. A reset sequence inside the text does not end the
style. -/
def paint (colour : Bool) (style : Style) (t : Text) : Text :=
  if colour then style.start ++ restart style.start 0 t ++ reset else t

end Style
end LocaleLint
