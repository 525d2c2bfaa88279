import LocaleLint.Config.Basic
import LocaleLint.Json.Value

/-!
# Reading configurations

A configuration is a JSON object with known members, or an array of their values in a fixed order.
Members of other names are passed over; a known one may occur once.
-/

namespace LocaleLint.Config

open Json (Fault)

structure Fields where
  baseLocale : Option Text := none
  ignored : Option (List Text) := none
  encodings : Option (List (Text × Text)) := none
  strict : Option Bool := none
  stringSubdir : Option Text := none

def Fields.config (f : Fields) : Config :=
  let default : Config := {}
  { baseLocale := f.baseLocale.getD default.baseLocale
    ignored := f.ignored.getD default.ignored
    encodings := (f.encodings.map TextMap.ofList).getD default.encodings
    strict := f.strict.getD default.strict
    stringSubdir := f.stringSubdir.getD default.stringSubdir }

/-- Reads a member behind its name, if there is no value for it yet. -/
def once {α : Type} (old : Option α) (read : Text → Except Fault (α × Text)) (s : Text)
    (set : α → Fields) : Except Fault (Fields × Text) :=
  if old.isSome then .error .mistyped
  else do
    let (value, s) ← read (← Json.colon s)
    .ok (set value, s)

def Fields.member (name : Text) (f : Fields) (s : Text) : Except Fault (Fields × Text) :=
  if name = "baseLocale".toList then
    once f.baseLocale Json.readString s fun v => { f with baseLocale := some v }
  else if name = "ignore".toList then
    once f.ignored (Json.readArray Json.readString) s fun v => { f with ignored := some v }
  else if name = "encodings".toList then
    once f.encodings (Json.readObject Json.readString) s fun v => { f with encodings := some v }
  else if name = "strict".toList then
    once f.strict Json.readBool s fun v => { f with strict := some v }
  else if name = "stringSubdir".toList then
    once f.stringSubdir Json.readString s fun v => { f with stringSubdir := some v }
  else do
    .ok (f, ← Json.skip (← Json.colon s))

def element? {α : Type} (first : Bool) (read : Text → Except Fault (α × Text)) (s : Text) :
    Except Fault (Option α × Text) := do
  match ← Json.nextElement? first s with
  | none => .ok (none, s)
  | some s =>
    let (value, s) ← read s
    .ok (some value, s)

/-- Reads the values of an array as those of the members in their order. -/
def Fields.sequence (s : Text) : Except Fault (Fields × Text) := do
  let (baseLocale, s) ← element? true Json.readString s
  let (ignored, s) ← element? false (Json.readArray Json.readString) s
  let (encodings, s) ← element? false (Json.readObject Json.readString) s
  let (strict, s) ← element? false Json.readBool s
  let (stringSubdir, s) ← element? false Json.readString s
  .ok ({ baseLocale, ignored, encodings, strict, stringSubdir }, ← Json.closeArray s)

def ofJson (s : Text) : Except Fault Config := do
  let (fields, s) ←
    match Json.skipBlanks s with
    | '[' :: r => Fields.sequence r
    | '{' :: r => Json.members Fields.member (r.length + 1) true {} r
    | _ => .error (Json.mismatch s)
  Json.atEnd s
  .ok fields.config

end LocaleLint.Config
