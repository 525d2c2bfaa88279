namespace LocaleLint

/-- Text of any length, one entry per Unicode character. -/
abbrev Text := List Char

namespace Text

/-! ### Blanks -/

/-- Characters with the Unicode property White_Space. -/
def isBlank (c : Char) : Bool :=
  let n := c.toNat
  (0x09 ≤ n && n ≤ 0x0D) || n == 0x20 || n == 0x85 || n == 0xA0 || n == 0x1680 ||
    (0x2000 ≤ n && n ≤ 0x200A) || n == 0x2028 || n == 0x2029 || n == 0x202F || n == 0x205F ||
    n == 0x3000

def trimLeft (s : Text) : Text := s.dropWhile isBlank

def trim (s : Text) : Text := (trimLeft (trimLeft s).reverse).reverse

/-! ### Cutting at a character -/

def afterFirst? (q : Char) : Text → Option Text
  | [] => none
  | c :: r => if c = q then some r else afterFirst? q r

def beforeLast? (q : Char) (s : Text) : Option Text :=
  (afterFirst? q s.reverse).map List.reverse

/-- What follows the last `q`; all of the text when there is none. -/
def afterLast (q : Char) (s : Text) : Text := (s.reverse.takeWhile (· != q)).reverse

/-! ### Cutting at a mark -/

/-- What follows the first occurrence of `mark`, if there is one. -/
def afterMark? (mark : Text) : Text → Option Text
  | [] => if mark.isEmpty then some [] else none
  | c :: r =>
    if mark.isPrefixOf (c :: r) then some ((c :: r).drop mark.length) else afterMark? mark r

def has (mark s : Text) : Bool := (afterMark? mark s).isSome

/-! ### ASCII letters -/

def toLower (s : Text) : Text := s.map Char.toLower

def ofNat (n : Nat) : Text := Nat.toDigits 10 n

def join (sep : Text) (parts : List Text) : Text := sep.intercalate parts

end Text
end LocaleLint
