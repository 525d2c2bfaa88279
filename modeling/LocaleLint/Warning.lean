import LocaleLint.Problem

namespace LocaleLint

inductive Verbosity where
  | silent
  | machine
  | human
  deriving DecidableEq, Repr

def Verbosity.ofLevel? : Nat → Option Verbosity
  | 0 => some silent
  | 1 => some machine
  | 2 => some human
  | _ => none

structure Warning where
  problem : Problem
  locale : Text
  group : Text
  /-- Line of the record, counted from 1, if the problem has one. -/
  line : Option Nat
  /-- The key, or for file-level problems the group and locale joined by an underscore. -/
  subject : Text
  deriving DecidableEq, Repr

namespace Warning

/-- One field for each part of the place, then the subject. -/
def machineLine (w : Warning) : Text :=
  '[' :: w.locale ++ ',' :: w.group ++ ',' :: (w.line.map Text.ofNat).getD [] ++
    ',' :: w.problem.code ++ "] ".toList ++ w.subject

def render (w : Warning) : Verbosity → Text
  | .human => w.problem.describe w.subject
  | _ => w.machineLine

end Warning
end LocaleLint
