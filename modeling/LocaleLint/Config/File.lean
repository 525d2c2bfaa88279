import LocaleLint.Config.Printer
import LocaleLint.Config.Reader
import LocaleLint.Disk.Basic

namespace LocaleLint

inductive Failure where
  | disk (fault : Disk.Fault)
  | unreadableConfig (path : Path) (fault : Json.Fault)
  | invalidConfig (reason : Config.Invalid)
  | unknownLabel (u : UnknownLabel)
  deriving DecidableEq, Repr

def UnknownLabel.message (u : UnknownLabel) : Text :=
  "Unknown encoding '".toList ++ u.label ++ "' for locale '".toList ++ u.locale ++ "'".toList

def Failure.message : Failure → Text
  | disk fault => fault.message
  | unreadableConfig path _ => "Failed to parse config file: ".toList ++ path.quoted
  | invalidConfig reason => reason.message
  | unknownLabel u => u.message

namespace Config

def fileName : Text := ".transcheckrc.json".toList

def fileIn (dir : Path) : Path := dir.join ⟨fileName⟩

/-- The first configuration file in the given directories. A directory with a `.git` entry is the
last one looked at. -/
def findAmong (d : Disk) : List Path → Option Path
  | [] => none
  | dir :: outer =>
    if d.exists? (fileIn dir) then some (fileIn dir)
    else if d.exists? (dir.join (.ofString ".git")) then none
    else findAmong d outer

/-- The configuration file of a directory: its own or that of an ancestor of its path. -/
def find? (d : Disk) (dir : Path) : Option Path := findAmong d dir.ancestors

structure Loaded where
  config : Config
  fromFile : Bool
  deriving DecidableEq, Repr

def read (d : Disk) (path : Path) : Except Failure Config := do
  let text ← (d.readText path).mapError .disk
  let config ← (ofJson text).mapError (.unreadableConfig path)
  config.validate.mapError .invalidConfig

/-- The configuration of a directory, the default one if there is no file for it. -/
def load (d : Disk) (dir : Path) : Except Failure Loaded :=
  match find? d dir with
  | some path => (read d path).map (⟨·, true⟩)
  | none => .ok ⟨{}, false⟩

def defaultBytes : List UInt8 := Utf8.encode ({} : Config).render

/-- Creates the default configuration file of a directory, unless there is something of its name.
The answer says whether it was created. When that fails there may yet be a file, with the beginning
of what was to be written. -/
def create (d : Disk) (dir : Path) : Except Failure Bool × Disk :=
  if d.exists? (fileIn dir) then (.ok false, d)
  else
    let written := d.write (fileIn dir) defaultBytes
    ((written.1.mapError .disk).map fun _ => true, written.2)

end Config
end LocaleLint
