import LocaleLint.Disk.Path
import LocaleLint.Encoding.Assignment
import LocaleLint.Suppression

namespace LocaleLint

structure Config where
  baseLocale : Text := "EN".toList
  ignored : List Text := []
  encodings : TextMap Text := []
  strict : Bool := false
  /-- Directory of the locales, taken from the directory under check. -/
  stringSubdir : Text := "media/lua/shared/Translate".toList
  deriving DecidableEq, Repr

namespace Config

inductive Invalid where
  | blankBaseLocale
  | unknownLabel (u : UnknownLabel)
  deriving DecidableEq, Repr

def Invalid.message : Invalid → Text
  | blankBaseLocale => "'baseLocale' must not be empty".toList
  | unknownLabel u =>
    "Unknown encoding in 'encodings': \"".toList ++ u.label ++ "\" for locale \"".toList ++
      u.locale ++ "\"".toList

/-- The first thing that makes the configuration invalid. -/
def invalid? (c : Config) : Option Invalid :=
  if (Text.trim c.baseLocale).isEmpty then some .blankBaseLocale
  else (Assignment.unknownLabel? c.encodings).map .unknownLabel

def validate (c : Config) : Except Invalid Config :=
  match c.invalid? with
  | some i => .error i
  | none => .ok c

def suppressed (c : Config) : Suppression := .ofCodes c.ignored

def stringRoot (c : Config) (dir : Path) : Path := dir.join ⟨c.stringSubdir⟩

end Config
end LocaleLint
