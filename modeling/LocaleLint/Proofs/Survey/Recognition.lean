import LocaleLint.Proofs.Disk.Trail
import LocaleLint.Proofs.Survey.Grouping

/-!
# Which files are string tables

A file is a string table of a locale if its name is `Group_LOCALE.txt`, where more parts may stand
behind the group. Since a stem is cut at each underscore, no file is one of a locale that has an
underscore itself.
-/

namespace LocaleLint.Survey

variable {d : Disk} {s : Session} {dir : Path} {locale : Text}

/-! ### Names -/

variable {front extension : Text}

section

variable [MultiByte.Tables]

/-! ### Missing files -/

end

end LocaleLint.Survey
