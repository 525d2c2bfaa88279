import LocaleLint.Encoding.Basic
import LocaleLint.Encoding.Utf16
import LocaleLint.Encoding.Utf8

/-!
# Decoding

From the bytes of a file to its text. A byte order mark names the encoding of the file and wins over
the one it is expected in. Malformed parts become U+FFFD. The tables of the multi-byte encodings are
left open.
-/

namespace LocaleLint

/-- The units of a byte sequence in each multi-byte encoding; `none` stands for a malformed one. -/
class MultiByte.Tables where
  units : MultiByte → List UInt8 → List (Option Char)

/-- Where there are no tables, only ASCII is read. -/
@[reducible] def MultiByte.Tables.asciiOnly : MultiByte.Tables where
  units _ bytes := bytes.map fun b => if b < 0x80 then some (Char.ofNat b.toNat) else none

structure Decoded where
  text : Text
  /-- Whether some part had to be replaced. -/
  malformed : Bool
  deriving DecidableEq, Repr

namespace Encoding

variable [MultiByte.Tables]

/-- The units of a byte sequence; `none` stands for a malformed one. -/
def units (e : Encoding) (bytes : List UInt8) : List (Option Char) :=
  match e with
  | utf8 => Utf8.units bytes
  | utf16le => Utf16.units true bytes
  | utf16be => Utf16.units false bytes
  | page p => bytes.map p.char?
  | multiByte m => MultiByte.Tables.units m bytes
  | userDefined =>
    bytes.map fun b => some (Char.ofNat (if b < 0x80 then b.toNat else 0xF700 + b.toNat))
  | replacement => if bytes.isEmpty then [] else [none]

def ofMark? : List UInt8 → Option (Encoding × List UInt8)
  | 0xEF :: 0xBB :: 0xBF :: rest => some (utf8, rest)
  | 0xFF :: 0xFE :: rest => some (utf16le, rest)
  | 0xFE :: 0xFF :: rest => some (utf16be, rest)
  | _ => none

/-- The text of bytes expected in an encoding. -/
def decode (e : Encoding) (bytes : List UInt8) : Decoded :=
  let (e, bytes) := (ofMark? bytes).getD (e, bytes)
  let us := e.units bytes
  ⟨us.map fun u => u.getD '\uFFFD', us.any Option.isNone⟩

end Encoding
end LocaleLint
