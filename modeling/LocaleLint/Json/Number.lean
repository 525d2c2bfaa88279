import LocaleLint.Json.Scan

/-!
# Numbers in JSON

The grammar of numbers, and which of them a double precision number can hold. Digits that do not fit
64 bits are not kept; those before the point count as powers of ten.
-/

namespace LocaleLint.Json

structure Number where
  whole : Text
  fraction : Text := []
  exponentNegative : Bool := false
  exponent : Text := []
  deriving DecidableEq, Repr

namespace Number

def digits (s : Text) : Except Fault (Text × Text) :=
  match s.takeWhile Char.isDigit with
  | [] => .error (if s.isEmpty then .truncated else .malformed)
  | ds => .ok (ds, s.dropWhile Char.isDigit)

def scanExponent (n : Number) (s : Text) : Except Fault (Number × Text) :=
  match s with
  | e :: r =>
    if e = 'e' || e = 'E' then do
      let (ds, rest) ← digits (if r.head? = some '+' || r.head? = some '-' then r.tail else r)
      .ok ({ n with exponentNegative := r.head? = some '-', exponent := ds }, rest)
    else .ok (n, s)
  | [] => .ok (n, s)

/-- Reads a number without its sign. More digits may not follow a leading zero. -/
def scan (s : Text) : Except Fault (Number × Text) := do
  let (whole, r) ← digits s
  if whole.head? = some '0' && 1 < whole.length then .error .malformed
  else
    match r with
    | '.' :: r =>
      let (fraction, r) ← digits r
      scanExponent { whole, fraction } r
    | _ => scanExponent { whole } r

/-! ### Range -/

def valueFrom (n : Nat) (ds : Text) : Nat := ds.foldl (fun n c => n * 10 + (c.toNat - '0'.toNat)) n

/-- As many of the digits as fit 64 bits behind `n`, and how many are left over. -/
def fitting (n : Nat) : Text → Nat × Nat
  | [] => (n, 0)
  | c :: r =>
    let m := valueFrom n [c]
    if m < 1 <<< 64 then fitting m r else (n, r.length + 1)

/-- Rounds to 53 binary digits, ties to even. -/
def round53 (n : Nat) : Nat :=
  let unit := 1 <<< (n.log2 + 1 - 53)
  let q := n / unit
  let r := n % unit
  if 2 * r < unit || (2 * r = unit && q % 2 = 0) then q * unit else (q + 1) * unit

/-- The largest exponents that are told apart. -/
def exponentLimit : Nat := 2147483647

/-- The least number that rounds to no double precision number. -/
def rangeEnd : Nat := (1 <<< 1024) - (1 <<< 970)

/-- Whether a number is within the range of double precision. It is scaled by a power of ten, and
only one up to 308 is a double precision number itself. -/
def isFinite (n : Number) : Bool :=
  let (kept, dropped) := fitting 0 n.whole
  let (kept, cut) := fitting kept n.fraction
  let e := valueFrom 0 n.exponent
  if kept = 0 || (exponentLimit < e && n.exponentNegative) then true
  else if exponentLimit < e then false
  else
    let shift : Int := dropped - (n.fraction.length - cut : Nat) +
      (if n.exponentNegative then -(e : Int) else e)
    shift < 0 || (shift ≤ 308 &&
      round53 kept * round53 (Nat.pow 10 shift.toNat) < rangeEnd)

end Number
end LocaleLint.Json
