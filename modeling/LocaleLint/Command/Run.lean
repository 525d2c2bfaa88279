import LocaleLint.Command.Check

namespace LocaleLint.Command

inductive Status where
  | success
  /-- A strict check with warnings, a check without base locale, or nothing to initialise. -/
  | failure
  | error
  deriving DecidableEq, Repr

def Status.code : Status → Nat
  | success => 0
  | failure => 1
  | error => 2

structure Effect where
  status : Status
  stdout : Text := []
  stderr : Text := []
  failure : Option Failure := none
  disk : Disk

def Effect.ofFailure (d : Disk) (f : Failure) : Effect :=
  { status := .error, failure := some f, disk := d }

variable [MultiByte.Tables]

/-- The effect of a check. Without verbosity there are no diagnostics either. -/
def Effect.ofCheck (colour : Bool) (d : Disk) (c : CheckCommand) : Effect :=
  match c.run d with
  | .error f => .ofFailure d f
  | .ok (result, diagnostics) =>
    { status := if result.succeeded then .success else .failure
      stdout := result.report colour
      stderr := if c.verbosity = .silent then [] else diagnostics.flatMap (·.render colour)
      disk := d }

def created (colour : Bool) (path : Path) : Text :=
  Report.line (Style.green.paint colour ['✓'] ++ ' ' ::
    Style.green.paint colour ("Created ".toList ++ path.text))

def alreadyThere (path : Path) : Text :=
  Report.line ("Error: ".toList ++ path.text ++ " already exists".toList)

def Effect.ofInit (colour : Bool) (d : Disk) (dir : Path) : Effect :=
  let path := Config.fileIn dir
  let (answer, d) := Config.create d dir
  match answer with
  | .error f => .ofFailure d f
  | .ok true => { status := .success, stdout := created colour path, disk := d }
  | .ok false => { status := .failure, stderr := alreadyThere path, disk := d }

def run (colour : Bool) (d : Disk) : Command → Effect
  | .check c => .ofCheck colour d c
  | .init => .ofInit colour d (.ofString ".")

end LocaleLint.Command
