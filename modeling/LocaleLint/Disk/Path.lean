import LocaleLint.Text.Combining
import LocaleLint.Text.Invisible

/-!
# Paths

A path is kept as the text that was given. Its components are the parts between slashes, not
counting empty parts and any `.` but a leading one. Taking the parent is a matter of text: it looks
at no file and treats `..` like any other component.
-/

namespace LocaleLint

structure Path where
  text : Text
  deriving DecidableEq, Repr

namespace Path

def ofString (s : String) : Path := ⟨s.toList⟩

def isRooted (p : Path) : Bool := p.text.head? = some '/'

def parts (p : Path) : List Text :=
  let all := p.text.splitOn '/'
  if p.isRooted then all.tail else all

/-- The path `q` taken from `p`. An absolute `q` is itself; an empty one leaves a slash at the
end. -/
def join (p q : Path) : Path :=
  if q.isRooted then q
  else if p.text.isEmpty || p.text.getLast? = some '/' then ⟨p.text ++ q.text⟩
  else ⟨p.text ++ '/' :: q.text⟩

/-! ### Components

Parts are taken from the end, so the lists here are reversed. -/

/-- Whether a part counts as a component, given the parts before it. -/
def counts (rooted : Bool) (part : Text) (before : List Text) : Bool :=
  !part.isEmpty && (part ≠ ['.'] || (before.isEmpty && !rooted))

def trimParts (rooted : Bool) : List Text → List Text
  | [] => []
  | part :: before => if counts rooted part before then part :: before else trimParts rooted before

/-- The parts of the parent, of its parent and so on. -/
def parentParts (rooted : Bool) : List Text → List (List Text)
  | [] => []
  | part :: before =>
    if counts rooted part before then trimParts rooted before :: parentParts rooted before
    else parentParts rooted before

def ofParts (rooted : Bool) (parts : List Text) : Path :=
  let body := Text.join ['/'] parts.reverse
  ⟨if rooted then '/' :: body else body⟩

/-- The path itself, its parent and so on, up to the empty path or the root. -/
def ancestors (p : Path) : List Path :=
  p :: (parentParts p.isRooted p.parts.reverse).map (ofParts p.isRooted)

/-! ### Names -/

def fileName? (p : Path) : Option Text :=
  match trimParts p.isRooted p.parts.reverse with
  | name :: _ => if name = ['.'] || name = ['.', '.'] then none else some name
  | [] => none

/-- A file name cut at its last dot. A name without dot, or with its only dot in front, is all
stem. -/
def splitName (name : Text) : Text × Option Text :=
  match Text.beforeLast? '.' name with
  | some (c :: r) => (c :: r, some (Text.afterLast '.' name))
  | _ => (name, none)

def stem? (p : Path) : Option Text := p.fileName?.map fun n => (splitName n).1

def extension? (p : Path) : Option Text := p.fileName?.bind fun n => (splitName n).2

/-! ### Showing a path in a message -/

def quotedChar (c : Char) : Text :=
  if c = '"' then "\\\"".toList
  else if c = '\\' then "\\\\".toList
  else if c = '\t' then "\\t".toList
  else if c = '\n' then "\\n".toList
  else if c = '\r' then "\\r".toList
  else if Text.isInvisible c || Text.isCombining c then
    "\\u\x7b".toList ++ Nat.toDigits 16 c.toNat ++ ['\x7d']
  else [c]

/-- A path between double quotes. Quotes and backslashes are escaped, and so are characters that
cannot be told apart by sight: the invisible ones and those that combine with others. -/
def quoted (p : Path) : Text := '"' :: p.text.flatMap quotedChar ++ ['"']

end Path
end LocaleLint
