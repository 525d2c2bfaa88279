import LocaleLint.Suppression
import LocaleLint.Table.Line
import LocaleLint.Text.Lines

/-!
# Reading string tables

A string table has a heading line and then records `KEY = "value",`. A value goes on in the next
line after the operator `..`. The reader holds at most one record whose value may still grow.
-/

namespace LocaleLint

structure Record where
  key : Text
  value : Text
  /-- Last line of the record, counted from 1. -/
  line : Nat
  /-- What the directive on the last line suppresses. -/
  suppressed : Suppression
  deriving DecidableEq, Repr

structure Table where
  records : List Record
  /-- Lines of the file; the heading counts even if the file is empty. -/
  lineCount : Nat
  deriving DecidableEq, Repr

namespace Table

/-- A record whose value may still grow. -/
structure Pending where
  key : Text := []
  value : Text := []
  deriving DecidableEq, Repr

structure Reader where
  line : Nat := 1
  pending : Option Pending := none
  /-- Finished records, the latest first. -/
  finished : List Record := []
  deriving DecidableEq, Repr

namespace Reader

def finish (r : Reader) (p : Pending) (text : Text) : Reader :=
  if p.key.isEmpty then { r with pending := none }
  else
    { r with
      pending := none
      finished := ⟨p.key, p.value, r.line, .ofLine text⟩ :: r.finished }

/-- Keeps a record open if its line asks for more and its key allows it, else ends it. -/
def extend (r : Reader) (p : Pending) (text : Text) : Reader :=
  if continues text && allowsContinuation p.key then { r with pending := some p }
  else r.finish p text

/-- Takes in one trimmed line. A record start drops an open record, and a fragment without one
opens a record without key. -/
def take (r : Reader) (text : Text) : Reader :=
  match Line.ofText text with
  | .start key value => r.extend ⟨key, value⟩ text
  | .terminator =>
    match r.pending with
    | some p => r.finish p text
    | none => r
  | .fragment more =>
    let p := r.pending.getD {}
    if allowsContinuation p.key then r.extend { p with value := p.value ++ more } text
    else r.finish p text

def step (r : Reader) (raw : Text) : Reader :=
  { r with line := r.line + 1 }.take (Text.trim raw)

end Reader

/-- The table written in a text. A record still open at the end of the text is dropped. -/
def ofText (text : Text) : Table :=
  let r := (Text.lines text).tail.foldl Reader.step {}
  ⟨r.finished.reverse, r.line⟩

end Table
end LocaleLint
