import LocaleLint.Text.Basic

/-!
# UTF-16

A decoder that never fails: a surrogate without partner gives one malformed unit and what follows it
is read by itself, and so does a byte or a high surrogate left over at the end.
-/

namespace LocaleLint.Utf16

def isHigh (n : Nat) : Bool := 0xD800 ≤ n && n < 0xDC00

def isLow (n : Nat) : Bool := 0xDC00 ≤ n && n < 0xE000

def pair (high low : Nat) : Char :=
  Char.ofNat (0x10000 + (high - 0xD800) * 0x400 + (low - 0xDC00))

structure Decoder where
  byte : Option Nat := none
  high : Option Nat := none
  /-- Units decoded so far, the latest first; `none` is a malformed one. -/
  units : List (Option Char) := []

def Decoder.begin (units : List (Option Char)) (n : Nat) : Decoder :=
  if isHigh n then ⟨none, some n, units⟩
  else if isLow n then ⟨none, none, none :: units⟩
  else ⟨none, none, some (Char.ofNat n) :: units⟩

def Decoder.unit (d : Decoder) (n : Nat) : Decoder :=
  match d.high with
  | none => .begin d.units n
  | some h =>
    if isLow n then ⟨none, none, some (pair h n) :: d.units⟩ else .begin (none :: d.units) n

/-- Reads one byte, the low or the high one of a code unit first. -/
def Decoder.step (littleEndian : Bool) (d : Decoder) (b : UInt8) : Decoder :=
  match d.byte with
  | none => { d with byte := some b.toNat }
  | some a => d.unit (if littleEndian then b.toNat * 256 + a else a * 256 + b.toNat)

def units (littleEndian : Bool) (bytes : List UInt8) : List (Option Char) :=
  let d := bytes.foldl (Decoder.step littleEndian) {}
  if d.byte.isSome || d.high.isSome then (none :: d.units).reverse else d.units.reverse

end LocaleLint.Utf16
