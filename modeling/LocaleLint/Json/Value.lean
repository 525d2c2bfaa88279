import LocaleLint.Json.Number

namespace LocaleLint.Json

/-! ### Values of any shape -/

inductive Frame where
  | array
  | object
  deriving DecidableEq, Repr

/-- Where in a value the scan stands. -/
inductive Stage where
  | value
  /-- Behind a value or an opening bracket; only behind a value may a comma come. -/
  | behind (comma : Bool)
  deriving DecidableEq, Repr

def skipNumber (s : Text) : Except Fault Text :=
  match Number.scan s with
  | .ok (_, r) => .ok r
  | .error _ => .error .malformed

def skipName (frame : Frame) (s : Text) : Except Fault Text :=
  match frame with
  | .array => .ok s
  | .object =>
    match skipBlanks s with
    | [] => .error .truncated
    | '"' :: r => do
      match skipBlanks (← skipString r) with
      | [] => .error .truncated
      | ':' :: r => .ok r
      | _ => .error .malformed
    | _ => .error .malformed

/-- Passes over what is left of a value inside the given frames, the innermost first. -/
def skipFrom : Nat → Stage → List Frame → Text → Except Fault Text
  | 0, _, _, _ => .error .truncated
  | fuel + 1, .value, frames, s =>
    match skipBlanks s with
    | [] => .error .truncated
    | 'n' :: r => do skipFrom fuel (.behind true) frames (← word "ull".toList r)
    | 't' :: r => do skipFrom fuel (.behind true) frames (← word "rue".toList r)
    | 'f' :: r => do skipFrom fuel (.behind true) frames (← word "alse".toList r)
    | '"' :: r => do skipFrom fuel (.behind true) frames (← skipString r)
    | '-' :: r => do skipFrom fuel (.behind true) frames (← skipNumber r)
    | '[' :: r => skipFrom fuel (.behind false) (.array :: frames) r
    | '{' :: r => skipFrom fuel (.behind false) (.object :: frames) r
    | c :: r =>
      if c.isDigit then do skipFrom fuel (.behind true) frames (← skipNumber (c :: r))
      else .error .malformed
  | _ + 1, .behind _, [], s => .ok s
  | fuel + 1, .behind comma, frame :: outer, s =>
    match skipBlanks s with
    | [] => .error .truncated
    | c :: r =>
      if comma && c = ',' then do skipFrom fuel .value (frame :: outer) (← skipName frame r)
      else if (frame = .array && c = ']') || (frame = .object && c = '}') then
        skipFrom fuel (.behind true) outer r
      else if comma then .error .malformed
      else do skipFrom fuel .value (frame :: outer) (← skipName frame (c :: r))

def skip (s : Text) : Except Fault Text := skipFrom (2 * s.length + 2) .value [] s

/-! ### Values of one shape -/

/-- The fault of a value that has another shape than the one asked for. A scalar is read to its end,
since it may be no JSON. -/
def mismatch (s : Text) : Fault :=
  let after {α : Type} (r : Except Fault α) : Fault :=
    match r with
    | .error f => f
    | .ok _ => .mistyped
  match skipBlanks s with
  | [] => .truncated
  | 'n' :: r => after (word "ull".toList r)
  | 't' :: r => after (word "rue".toList r)
  | 'f' :: r => after (word "alse".toList r)
  | '"' :: r => after (string r)
  | '[' :: _ | '{' :: _ => .mistyped
  | c :: r =>
    if c = '-' || c.isDigit then
      match Number.scan (if c = '-' then r else c :: r) with
      | .error f => f
      | .ok (n, _) => if n.isFinite then .mistyped else .malformed
    else .malformed

def readString (s : Text) : Except Fault (Text × Text) :=
  match skipBlanks s with
  | '"' :: r => string r
  | _ => .error (mismatch s)

def readBool (s : Text) : Except Fault (Bool × Text) :=
  match skipBlanks s with
  | 't' :: r => (word "rue".toList r).map (true, ·)
  | 'f' :: r => (word "alse".toList r).map (false, ·)
  | _ => .error (mismatch s)

/-! ### Arrays -/

def nextElement? (first : Bool) (s : Text) : Except Fault (Option Text) :=
  match skipBlanks s with
  | [] => .error .truncated
  | ']' :: _ => .ok none
  | c :: r =>
    if first then .ok (some (c :: r))
    else if c = ',' then
      match skipBlanks r with
      | [] => .error .truncated
      | ']' :: _ => .error .malformed
      | r => .ok (some r)
    else .error .malformed

def closeArray (s : Text) : Except Fault Text :=
  match skipBlanks s with
  | [] => .error .truncated
  | ']' :: r => .ok r
  | _ => .error .malformed

def elements {α : Type} (item : Text → Except Fault (α × Text)) :
    Nat → List α → Text → Except Fault (List α × Text)
  | 0, _, _ => .error .truncated
  | fuel + 1, read, s => do
    match ← nextElement? read.isEmpty s with
    | none => .ok (read.reverse, ← closeArray s)
    | some s =>
      let (a, s) ← item s
      elements item fuel (a :: read) s

def readArray {α : Type} (item : Text → Except Fault (α × Text)) (s : Text) :
    Except Fault (List α × Text) :=
  match skipBlanks s with
  | '[' :: r => elements item (r.length + 1) [] r
  | _ => .error (mismatch s)

/-! ### Objects -/

def nextName? (first : Bool) (s : Text) : Except Fault (Option (Text × Text)) :=
  match skipBlanks s with
  | [] => .error .truncated
  | '}' :: _ => .ok none
  | c :: r =>
    if first then
      if c = '"' then (string r).map some else .error .malformed
    else if c = ',' then
      match skipBlanks r with
      | [] => .error .truncated
      | '"' :: r => (string r).map some
      | _ => .error .malformed
    else .error .malformed

def colon (s : Text) : Except Fault Text :=
  match skipBlanks s with
  | [] => .error .truncated
  | ':' :: r => .ok r
  | _ => .error .malformed

def closeObject (s : Text) : Except Fault Text :=
  match skipBlanks s with
  | [] => .error .truncated
  | '}' :: r => .ok r
  | _ => .error .malformed

/-- Reads the members of an object, `state` being what is known from those before. What follows a
name is up to `member`. -/
def members {σ : Type} (member : Text → σ → Text → Except Fault (σ × Text)) :
    Nat → Bool → σ → Text → Except Fault (σ × Text)
  | 0, _, _, _ => .error .truncated
  | fuel + 1, first, state, s => do
    match ← nextName? first s with
    | none => .ok (state, ← closeObject s)
    | some (name, s) =>
      let (state, s) ← member name state s
      members member fuel false state s

def readObject {α : Type} (item : Text → Except Fault (α × Text)) (s : Text) :
    Except Fault (List (Text × α) × Text) :=
  match skipBlanks s with
  | '{' :: r => do
    let (read, r) ← members (fun name read s => do
      let (a, s) ← item (← colon s)
      .ok ((name, a) :: read, s)) (r.length + 1) true [] r
    .ok (read.reverse, r)
  | _ => .error (mismatch s)

def atEnd (s : Text) : Except Fault Unit :=
  if (skipBlanks s).isEmpty then .ok () else .error .malformed

end LocaleLint.Json
