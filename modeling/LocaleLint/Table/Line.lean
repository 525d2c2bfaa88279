import LocaleLint.Text.Basic

/-!
# Lines of a string table

What one line of a string table says by itself: the start of a record, the end of a continued one,
or a further fragment of it. Lines are classified after trimming.
-/

namespace LocaleLint.Table

/-- The text between the first and the last double quote. With a single quote it is empty, and
without any it is all but the last character. -/
def quotedSpan (s : Text) : Text :=
  match Text.afterFirst? '"' s with
  | some r => (Text.beforeLast? '"' r).getD []
  | none => s.dropLast

inductive Line where
  | start (key value : Text)
  | terminator
  | fragment (text : Text)
  deriving DecidableEq, Repr

/-- A line with a quote and an equals sign starts a record; of the others a blank line and one
with a comment mark end a record. -/
def Line.ofText (line : Text) : Line :=
  match Text.afterFirst? '=' line, line.contains '"' with
  | some value, true => .start (Text.trim (line.takeWhile (· != '='))) (quotedSpan value)
  | _, _ =>
    if line.isEmpty || Text.has "--".toList line then .terminator else .fragment (quotedSpan line)

/-- Whether a line asks for the next one to be joined. -/
def continues (line : Text) : Bool := "..".toList.isSuffixOf line

/-- What a key begins with when its value is never continued. -/
def singleLinePrefixes : List Text :=
  ["Recipe_".toList, "EvolvedRecipeName_".toList, "ItemName_".toList, "DisplayName".toList]

/-- Whether the value of a key may go on in the next line. -/
def allowsContinuation (key : Text) : Bool := !singleLinePrefixes.any (·.isPrefixOf key)

end LocaleLint.Table
