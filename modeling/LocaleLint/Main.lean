import LocaleLint.Command.Run

/-!
# The command line program

Reads what a command needs from the real file system, carries the command out on that, and writes
what it prints and creates. It has no tables of multi-byte encodings.
-/

namespace LocaleLint.Program

def usage : String :=
  "Checks localised string tables against a base locale\n\n" ++
  "Usage: check [OPTIONS] <MOD_PATH>\n" ++
  "       init\n\n" ++
  "Options of check:\n" ++
  "  -b, --base <LOCALE>        Base locale every other locale is compared with\n" ++
  "  -v, --verbosity <LEVEL>    0 = silent, 1 = machine-readable, 2 = human-readable\n" ++
  "  -e, --encodings <LIST>     Encodings of locales, such as FR:cp1252,RU:utf-8\n" ++
  "      --strict               Fail when there is any warning\n" ++
  "      --ignore <CODES>       Warning codes to suppress, separated by commas\n" ++
  "      --string-subdir <DIR>  Directory of the string tables inside the checked one"

def version : String := "0.1.0"

def refusal : Command.Refusal → String
  | .help => usage
  | .version => version
  | .missingArgument => "error: the path to check is missing"
  | .badValue => "error: the verbosity is not 0, 1 or 2"
  | .missingValue => "error: a value is missing"
  | .unknownArgument => "error: unexpected argument"
  | .repeatedArgument => "error: an option is given twice"
  | .excessValue => "error: a flag takes no value"
  | .unknownCommand => "error: unrecognized command"

/-! ### Looking at the file system -/

def nameOf (l : Location) : String :=
  "/" ++ String.ofList (Text.join ['/'] l.reverse)

def faultOf : IO.Error → Disk.Fault
  | .permissionDenied .. => .other "Permission denied (os error 13)".toList
  | .resourceExhausted _ 28 _ => .other "No space left on device (os error 28)".toList
  | e => .other e.toString.toList

def lock (d : Disk) (l : Location) (e : IO.Error) : Disk :=
  { d with locked := (l, faultOf e) :: d.locked }

def look (d : Disk) (l : Location) : IO (Option Disk) := do
  let real := (← IO.currentDir) / nameOf l
  if ← real.isDir then return some (d.put l .directory)
  else if ← real.pathExists then
    match ← (IO.FS.readBinFile real).toBaseIO with
    | .ok bytes => return some (d.put l (.file bytes.toList))
    | .error e => return some (lock (d.put l (.file [])) l e)
  else return none

/-- Takes up all that the parts of a path lead to. -/
def observe (d : Disk) (l : Location) : List Text → IO Disk
  | [] => pure d
  | part :: rest =>
    if part.isEmpty || part = ['.'] then observe d l rest
    else if part = ['.', '.'] then observe d l.tail rest
    else do
      match ← look d (part :: l) with
      | none => pure d
      | some d => observe d (part :: l) rest

def observePath (d : Disk) (p : Path) : IO Disk := observe d (d.origin p) p.parts

/-- Takes up a directory and what is in it, the given number of levels down. -/
def observeBelow : Nat → Disk → Path → IO Disk
  | 0, d, p => observePath d p
  | depth + 1, d, p => do
    let d ← observePath d p
    match d.resolve p with
    | .error _ => pure d
    | .ok l =>
      if d.node? l ≠ some .directory then pure d
      else
        let real := (← IO.currentDir) / nameOf l
        match ← real.readDir.toBaseIO with
        | .ok entries =>
          entries.foldlM (fun d e => observeBelow depth d (p.join ⟨e.fileName.toList⟩)) d
        | .error e => pure (lock d l e)

def start : IO Disk := do
  let cwd := ((← IO.currentDir).toString.toList.splitOn '/').filter fun part => !part.isEmpty
  return { ({} : Disk).makeDirectory cwd.reverse with cwd := cwd.reverse }

def view (command : Command) : IO Disk := do
  let d ← start
  match command with
  | .init => observePath d (Config.fileIn (.ofString "."))
  | .check c =>
    let d ← c.path.ancestors.foldlM (fun d dir => do
      let d ← observePath d (Config.fileIn dir)
      observePath d (dir.join (.ofString ".git"))) d
    match c.resolve d with
    | .error _ => pure d
    | .ok config =>
      let root := config.stringRoot c.path
      let d ← observeBelow 2 d root
      observeBelow 1 d (root.join ⟨config.baseLocale⟩)

/-! ### Carrying out commands -/

instance : MultiByte.Tables := .asciiOnly

def store (before after : Disk) : IO Unit := do
  let path := Config.fileIn (.ofString ".")
  if !before.exists? path then
    match after.readText path with
    | .ok t => IO.FS.writeFile (String.ofList path.text) (String.ofList t)
    | .error _ => pure ()

def say (effect : Command.Effect) : IO UInt32 := do
  IO.print (String.ofList effect.stdout)
  IO.eprint (String.ofList effect.stderr)
  match effect.failure with
  | some f => IO.eprintln ("Error: " ++ String.ofList f.message)
  | none => pure ()
  return effect.status.code.toUInt32

def run (command : Command) : IO UInt32 := do
  let d ← view command
  let effect := command.run (← (← IO.getStdout).isTty) d
  match ← (store d effect.disk).toBaseIO with
  | .ok () => say effect
  | .error e => say (.ofFailure d (.disk (faultOf e)))

def runArgs (args : List String) : IO UInt32 := do
  match Command.ofArgs (args.map String.toList) with
  | .ok (some command) => run command
  | .ok none =>
    IO.println usage
    return 0
  | .error r =>
    if r.isError then
      IO.eprintln (refusal r)
      return 2
    else
      IO.println (refusal r)
      return 0

end LocaleLint.Program

def main (args : List String) : IO UInt32 := LocaleLint.Program.runArgs args
