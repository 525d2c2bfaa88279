import LocaleLint.Text.Basic

/-!
# UTF-8

A decoder that never fails: each byte sequence that is no character and cannot be completed to one
gives one malformed unit. The second byte of a sequence has a narrower range after some lead bytes,
which excludes overlong forms, surrogates and values past the last code point.
-/

namespace LocaleLint.Utf8

inductive Progress where
  | start
  /-- `need` bytes are to come, the next from `lo` to `hi`; `acc` holds the bits so far. -/
  | inside (acc need lo hi : Nat)
  deriving DecidableEq, Repr

/-- A byte at the start of a character: the progress after it and the unit it completes. -/
def lead (b : Nat) : Progress × Option (Option Char) :=
  if b < 0x80 then (.start, some (some (Char.ofNat b)))
  else if b < 0xC2 then (.start, some none)
  else if b < 0xE0 then (.inside (b - 0xC0) 1 0x80 0xBF, none)
  else if b = 0xE0 then (.inside 0 2 0xA0 0xBF, none)
  else if b = 0xED then (.inside 0xD 2 0x80 0x9F, none)
  else if b < 0xF0 then (.inside (b - 0xE0) 2 0x80 0xBF, none)
  else if b = 0xF0 then (.inside 0 3 0x90 0xBF, none)
  else if b < 0xF4 then (.inside (b - 0xF0) 3 0x80 0xBF, none)
  else if b = 0xF4 then (.inside 4 3 0x80 0x8F, none)
  else (.start, some none)

structure Decoder where
  progress : Progress := .start
  units : List (Option Char) := []

def Decoder.begin (units : List (Option Char)) (b : Nat) : Decoder :=
  ⟨(lead b).1, (lead b).2.toList ++ units⟩

/-- Reads one byte. A byte that does not continue the current character ends it as malformed and
starts the next one. -/
def Decoder.step (d : Decoder) (byte : UInt8) : Decoder :=
  let b := byte.toNat
  match d.progress with
  | .start => .begin d.units b
  | .inside acc need lo hi =>
    if lo ≤ b ∧ b ≤ hi then
      let acc := acc * 64 + (b - 0x80)
      if need ≤ 1 then ⟨.start, some (Char.ofNat acc) :: d.units⟩
      else ⟨.inside acc (need - 1) 0x80 0xBF, d.units⟩
    else .begin (none :: d.units) b

def units (bytes : List UInt8) : List (Option Char) :=
  let d := bytes.foldl Decoder.step {}
  match d.progress with
  | .start => d.units.reverse
  | .inside .. => (none :: d.units).reverse

def text? (bytes : List UInt8) : Option Text := (units bytes).mapM id

def encode (t : Text) : List UInt8 := t.flatMap String.utf8EncodeChar

end LocaleLint.Utf8
