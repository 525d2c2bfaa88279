import LocaleLint.Encoding.Utf16
import LocaleLint.Encoding.Utf8
import LocaleLint.Text.Basic

/-!
# Scanning JSON

Reading JSON from left to right, one token at a time. The first thing that is wrong decides the
fault, so a value of the wrong type hides what is wrong behind it.
-/

namespace LocaleLint.Json

inductive Fault where
  | malformed
  /-- It ends before the value does. -/
  | truncated
  /-- It is JSON of another shape than the one asked for. -/
  | mistyped
  deriving DecidableEq, Repr

def isBlank (c : Char) : Bool := c == ' ' || c == '\t' || c == '\n' || c == '\r'

def skipBlanks (s : Text) : Text := s.dropWhile isBlank

def word : Text → Text → Except Fault Text
  | [], s => .ok s
  | _ :: _, [] => .error .truncated
  | w :: ws, c :: r => if w = c then word ws r else .error .malformed

/-! ### Strings -/

def hexDigit? (c : Char) : Option Nat :=
  if '0' ≤ c ∧ c ≤ '9' then some (c.toNat - '0'.toNat)
  else if 'a' ≤ c ∧ c ≤ 'f' then some (c.toNat - 'a'.toNat + 10)
  else if 'A' ≤ c ∧ c ≤ 'F' then some (c.toNat - 'A'.toNat + 10)
  else none

def hexEscape (s : Text) : Except Fault (Nat × Text) :=
  match (s.take 4).mapM hexDigit? with
  | some [a, b, c, d] => .ok (((a * 16 + b) * 16 + c) * 16 + d, s.drop 4)
  | _ =>
    if (Utf8.encode (s.take 4)).length < 4 then .error .truncated else .error .malformed

def letterEscape? : Char → Option Char
  | '"' => some '"'
  | '\\' => some '\\'
  | '/' => some '/'
  | 'b' => some '\x08'
  | 'f' => some '\x0c'
  | 'n' => some '\n'
  | 'r' => some '\r'
  | 't' => some '\t'
  | _ => none

def lowEscape (high : Nat) (s : Text) : Except Fault (Char × Text) :=
  match s with
  | [] | ['\\'] => .error .truncated
  | '\\' :: 'u' :: r => do
    let (low, r) ← hexEscape r
    if Utf16.isLow low then .ok (Utf16.pair high low, r) else .error .malformed
  | _ => .error .malformed

/-- Reads an escape behind its backslash. Surrogates have to come in pairs if `paired`. -/
def escape (paired : Bool) (s : Text) : Except Fault (Char × Text) :=
  match s with
  | [] => .error .truncated
  | 'u' :: r => do
    let (n, r) ← hexEscape r
    if paired && Utf16.isLow n then .error .malformed
    else if paired && Utf16.isHigh n then lowEscape n r
    else .ok (Char.ofNat n, r)
  | c :: r =>
    match letterEscape? c with
    | some e => .ok (e, r)
    | none => .error .malformed

/-- Reads characters up to the closing quote; `read` holds those read, the latest first. -/
def characters (paired : Bool) : Nat → Text → Text → Except Fault (Text × Text)
  | 0, _, _ => .error .truncated
  | _ + 1, _, [] => .error .truncated
  | fuel + 1, read, c :: r =>
    if c = '"' then .ok (read.reverse, r)
    else if c = '\\' then do
      let (e, r) ← escape paired r
      characters paired fuel (e :: read) r
    else if c < ' ' then .error .malformed
    else characters paired fuel (c :: read) r

def string (s : Text) : Except Fault (Text × Text) := characters true (s.length + 1) [] s

/-- Passes over a string behind its opening quote; its surrogates need not be paired. -/
def skipString (s : Text) : Except Fault Text :=
  (characters false (s.length + 1) [] s).map (·.2)

end LocaleLint.Json
