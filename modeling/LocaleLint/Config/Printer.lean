import LocaleLint.Config.Basic

namespace LocaleLint.Config

def controlEscape (c : Char) : Text :=
  let digits := Nat.toDigits 16 c.toNat
  "\\u".toList ++ List.replicate (4 - digits.length) '0' ++ digits

def escape (c : Char) : Text :=
  if c = '"' then "\\\"".toList
  else if c = '\\' then "\\\\".toList
  else if c = '\x08' then "\\b".toList
  else if c = '\x0c' then "\\f".toList
  else if c = '\n' then "\\n".toList
  else if c = '\r' then "\\r".toList
  else if c = '\t' then "\\t".toList
  else if c < ' ' then controlEscape c
  else [c]

def quote (t : Text) : Text := '"' :: t.flatMap escape ++ ['"']

/-- Items on lines of their own between brackets, or just the brackets. -/
def block (indent : Nat) (left right : Char) (items : List Text) : Text :=
  let newline (n : Nat) : Text := '\n' :: List.replicate n ' '
  if items.isEmpty then [left, right]
  else
    left :: newline (indent + 2) ++ Text.join (',' :: newline (indent + 2)) items ++
      newline indent ++ [right]

def member (name value : Text) : Text := quote name ++ ": ".toList ++ value

def render (c : Config) : Text :=
  block 0 '\x7b' '\x7d' [
    member "baseLocale".toList (quote c.baseLocale),
    member "ignore".toList (block 2 '[' ']' (c.ignored.map quote)),
    member "encodings".toList
      (block 2 '\x7b' '\x7d' (c.encodings.map fun e => member e.1 (quote e.2))),
    member "strict".toList (if c.strict then "true".toList else "false".toList),
    member "stringSubdir".toList (quote c.stringSubdir)]

end LocaleLint.Config
