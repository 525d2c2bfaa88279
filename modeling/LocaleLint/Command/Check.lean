import LocaleLint.Command.Arguments
import LocaleLint.Config.File
import LocaleLint.Report
import LocaleLint.Survey

namespace LocaleLint

structure CheckResult where
  outcome : Outcome
  warnings : List Warning
  strict : Bool
  verbosity : Verbosity
  deriving DecidableEq, Repr

namespace CheckResult

/-- A check fails if it could not be done, and if it is strict and has warnings. -/
def succeeded (r : CheckResult) : Bool :=
  match r.outcome with
  | .fatal _ => false
  | .completed => !(r.strict && !r.warnings.isEmpty)

def report (colour : Bool) (r : CheckResult) : Text :=
  match r.outcome with
  | .fatal message => Report.ofFatal colour r.verbosity message
  | .completed => Report.ofWarnings colour r.verbosity r.warnings

end CheckResult

def Diagnostic.render (colour : Bool) (d : Diagnostic) : Text :=
  Report.line (Style.boldYellow.paint colour "warning:".toList ++ ' ' :: d.message)

namespace CheckCommand

/-- A configuration with what the arguments say in place of its own values. Suppressed codes are
added to its own, and an encoding given for a locale replaces only the one of that locale. -/
def apply (c : CheckCommand) (config : Config) : Config :=
  { baseLocale := c.base.getD config.baseLocale
    ignored := config.ignored ++
      ((((c.ignored.map fun l => l.splitOn ',').getD []).map Text.trim).filter fun t => !t.isEmpty)
    encodings := TextMap.insertAll config.encodings ((c.encodings.map Assignment.parts).getD [])
    strict := config.strict || c.strict
    stringSubdir := c.stringSubdir.getD config.stringSubdir }

def resolve (d : Disk) (c : CheckCommand) : Except Failure Config := do
  let loaded ← Config.load d c.path
  (c.apply loaded.config).validate.mapError .invalidConfig

variable [MultiByte.Tables]

def runWith (d : Disk) (c : CheckCommand) (config : Config) :
    Except Failure (CheckResult × List Diagnostic) := do
  let assignment ← (Assignment.ofLabels config.encodings).mapError .unknownLabel
  let session := Session.new config.baseLocale config.suppressed assignment
  let survey := Survey.run d (config.stringRoot c.path) session
  .ok (⟨survey.outcome, survey.session.log.toList, config.strict, c.verbosity⟩,
    config.suppressed.unknown.map .unknownCode ++ survey.diagnostics)

def run (d : Disk) (c : CheckCommand) : Except Failure (CheckResult × List Diagnostic) := do
  c.runWith d (← c.resolve d)

end CheckCommand
end LocaleLint
