import LocaleLint.Text.Basic

namespace LocaleLint

inductive Problem where
  | identical
  | duplicate
  | extra
  | extraFile
  | missing
  | missingFile
  | substitutionCount
  deriving DecidableEq, Repr

namespace Problem

def all : List Problem :=
  [identical, duplicate, extra, extraFile, missing, missingFile, substitutionCount]

def code : Problem → Text
  | identical => "identical".toList
  | duplicate => "duplicate".toList
  | extra => "extra".toList
  | extraFile => "extra_file".toList
  | missing => "missing".toList
  | missingFile => "missing_file".toList
  | substitutionCount => "substitution_count".toList

def ofCode? (t : Text) : Option Problem := all.find? fun p => p.code = t

/-- Whether the problem concerns a whole file rather than one string. -/
def isFileLevel : Problem → Bool
  | extraFile | missingFile => true
  | _ => false

def describe (subject : Text) : Problem → Text
  | identical => subject ++ " is identical to base locale".toList
  | duplicate => "duplicate string ".toList ++ subject
  | extra => "string ".toList ++ subject ++ " is not present in the base locale".toList
  | extraFile => subject ++ " file is missing in the base locale".toList
  | missing => "string ".toList ++ subject ++ " is missing".toList
  | missingFile => subject ++ " file is missing".toList
  | substitutionCount => "wrong number of substitutions in ".toList ++ subject

end Problem
end LocaleLint
