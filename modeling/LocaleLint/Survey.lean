import LocaleLint.Disk.Basic
import LocaleLint.Encoding.Decode
import LocaleLint.Session

/-!
# Surveys

A survey takes a session through a directory that has one subdirectory for each locale, with files
named `Group_LOCALE.txt`. The base locale comes first, so that all others meet a full baseline.
-/

namespace LocaleLint

/-- A remark on the survey itself rather than on a string table. -/
inductive Diagnostic where
  | unreadable (path : Path) (fault : Disk.Fault)
  | malformed (path : Path) (encoding : Encoding)
  | unlistable (path : Path) (fault : Disk.Fault)
  | unknownCode (code : Text)
  deriving DecidableEq, Repr

def Diagnostic.message : Diagnostic → Text
  | unreadable path fault =>
    "Cannot read ".toList ++ path.text ++ ": ".toList ++ fault.message
  | malformed path encoding =>
    path.text ++ " is not valid ".toList ++ encoding.name ++
      "; malformed bytes were replaced".toList
  | unlistable path fault =>
    "Cannot access path: IO error for operation on ".toList ++ path.text ++ ": ".toList ++
      fault.message
  | unknownCode code =>
    "Unknown warning code '".toList ++ code ++ "' in ignore list".toList

inductive Outcome where
  | completed
  /-- Nothing was checked, for this reason. -/
  | fatal (message : Text)
  deriving DecidableEq, Repr

/-- A session taken through directories. -/
structure Survey where
  session : Session
  outcome : Outcome := .completed
  diagnostics : List Diagnostic := []

namespace Survey

/-! ### String table files -/

/-- The group in the stem of a file name, if the stem ends with the locale. The parts between
underscores have to be two or more; the first is the group. -/
def groupOfStem? (stem locale : Text) : Option Text :=
  let parts := stem.splitOn '_'
  if 2 ≤ parts.length && parts.getLast? = some locale then parts.head? else none

/-- The group of a string table file, if the path is one of the locale: a file with the extension
`txt`, in any case, and a stem that ends with the locale. -/
def group? (d : Disk) (path : Path) (locale : Text) : Option Text :=
  match d.file? path, path.extension?, path.stem? with
  | some _, some extension, some stem =>
    if Text.toLower extension = "txt".toList then groupOfStem? stem locale else none
  | _, _, _ => none

structure Source where
  path : Path
  group : Text
  content : Except Disk.Fault Decoded

variable [MultiByte.Tables]

/-- The file of a path, if it is a string table file of the locale. -/
def source? (d : Disk) (locale : Text) (encoding : Encoding) (path : Path) : Option Source :=
  (group? d path locale).map fun group => ⟨path, group, (d.read path).map encoding.decode⟩

def Source.table? (f : Source) : Option Table :=
  f.content.toOption.map fun content => .ofText content.text

def Source.diagnostic? (encoding : Encoding) (f : Source) : Option Diagnostic :=
  match f.content with
  | .error fault => some (.unreadable f.path fault)
  | .ok content => if content.malformed then some (.malformed f.path encoding) else none

/-! ### Directories -/

/-- What a directory holds; one that cannot be listed holds nothing. -/
structure Listing where
  paths : List Path := []
  diagnostics : List Diagnostic := []

def entries (d : Disk) (dir : Path) : Listing :=
  match d.list dir with
  | .ok paths => { paths }
  | .error fault => { diagnostics := [.unlistable dir fault] }

/-- Checks the files of a locale in a directory. Those that have nothing to be compared with are not
read. -/
def checkSources (s : Session) (locale : Text) (sources : List Source) : Survey :=
  let entered := s.enterLocale locale
  let compared := sources.filter fun f => entered.hasBase f.group
  { session := s.checkAll locale (sources.map fun f => (f.group, f.table?))
    diagnostics := compared.filterMap (Source.diagnostic? entered.encoding) }

/-- Checks the directory of a locale. The locale is the stem of its name. -/
def checkDirectory (d : Disk) (s : Session) (dir : Path) : Survey :=
  match d.isDirectory dir, dir.stem? with
  | true, some locale =>
    let listing := entries d dir
    let encoding := s.assignment.encodingOf locale
    let checked := checkSources s locale (listing.paths.filterMap (source? d locale encoding))
    { checked with diagnostics := listing.diagnostics ++ checked.diagnostics }
  | _, _ => { session := s }

def next (d : Disk) (v : Survey) (dir : Path) : Survey :=
  let more := checkDirectory d v.session dir
  { more with diagnostics := v.diagnostics ++ more.diagnostics }

def noBase (dir : Path) : Text :=
  "base locale directory ".toList ++ dir.text ++ " does not exist".toList

/-- Checks all locales below a root directory, from a fresh start. -/
def run (d : Disk) (root : Path) (s : Session) : Survey :=
  let s := s.reset
  let base := root.join ⟨s.baseLocale⟩
  if d.exists? base then
    let first := checkDirectory d s base
    let listing := entries d root
    let others := listing.paths.filter fun dir => dir.fileName? ≠ some s.baseLocale
    others.foldl (next d) { first with diagnostics := first.diagnostics ++ listing.diagnostics }
  else { session := s, outcome := .fatal (noBase base) }

end Survey
end LocaleLint
