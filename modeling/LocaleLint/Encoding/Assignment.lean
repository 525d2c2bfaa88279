import LocaleLint.Encoding.Label
import LocaleLint.Text.Sorted

namespace LocaleLint

/-- The customary encoding of a locale, if it has one. -/
def Encoding.customary? (locale : Text) : Option Encoding :=
  let among (names : List String) : Bool := names.any fun n => n.toList == locale
  if among ["EN", "CH", "CN", "ID", "JP", "PH", "RO", "TH", "UA"] then some .utf8
  else if among ["AR", "DA", "DE", "EE", "ES", "FI", "FR", "IT", "NL", "NO", "PT", "PTBR"] then
    some (.page .windows1252)
  else if among ["CS", "HU", "PL"] then some (.page .windows1250)
  else if among ["CA"] then some (.page .iso8859x15)
  else if among ["KO"] then some .utf16le
  else if among ["RU"] then some (.page .windows1251)
  else if among ["TR"] then some (.page .windows1254)
  else none

structure UnknownLabel where
  label : Text
  locale : Text
  deriving DecidableEq, Repr

structure Assignment where
  encodings : TextMap Encoding := []
  deriving DecidableEq, Repr

namespace Assignment

/-- The entries of a list such as `FR:cp1252,RU:utf-8`, in their order. Parts that are not two
pieces around one colon are skipped. -/
def parts (list : Text) : List (Text × Text) :=
  (list.splitOn ',').filterMap fun part =>
    match part.splitOn ':' with
    | [locale, label] => some (Text.trim locale, Text.trim label)
    | _ => none

def labelsOfList (list : Text) : TextMap Text := .ofList (parts list)

def unknownLabel? (labels : TextMap Text) : Option UnknownLabel :=
  (labels.find? fun e => (Encoding.ofLabel? e.2).isNone).map fun e => ⟨e.2, e.1⟩

def ofLabels (labels : TextMap Text) : Except UnknownLabel Assignment :=
  match unknownLabel? labels with
  | some unknown => .error unknown
  | none => .ok ⟨labels.filterMap fun e => (Encoding.ofLabel? e.2).map (e.1, ·)⟩

def encodingOf (a : Assignment) (locale : Text) : Encoding :=
  ((TextMap.get? a.encodings locale).or (Encoding.customary? locale)).getD .utf8

end Assignment
end LocaleLint
