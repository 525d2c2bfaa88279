import LocaleLint.Text.Basic

namespace LocaleLint.Placeholder

def all : List Text := ["%1".toList, "%2".toList, "%3".toList, "%4".toList]

/-- How many different placeholders a value has; one that occurs twice counts once. -/
def count (value : Text) : Nat := all.countP fun p => Text.has p value

end LocaleLint.Placeholder
