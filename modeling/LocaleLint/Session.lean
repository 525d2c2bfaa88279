import LocaleLint.Baseline
import LocaleLint.Encoding.Assignment
import LocaleLint.Table.Reader
import LocaleLint.Warning

/-!
# Sessions

A session goes through the locales one after another, and in each through its files and their
records. The base locale fills the baseline; every other locale is compared with it.
-/

namespace LocaleLint

structure Session where
  baseLocale : Text
  suppressed : Suppression := {}
  assignment : Assignment := {}
  locale : Text
  encoding : Encoding := .utf8
  group : Text := []
  /-- Line that warnings refer to; 0 when there is none. -/
  line : Nat := 0
  /-- What is suppressed for the record at hand. -/
  lineSuppressed : Suppression := {}
  seenKeys : List Text := []
  seenGroups : List Text := []
  baseline : Baseline := {}
  log : Array Warning := #[]

namespace Session

def new (baseLocale : Text) (suppressed : Suppression) (assignment : Assignment) : Session :=
  { baseLocale, suppressed, assignment, locale := baseLocale }

def isBase (s : Session) : Bool := s.locale = s.baseLocale

/-- Whether a problem found now is left out of the log. -/
def suppresses (s : Session) (p : Problem) : Bool :=
  s.suppressed.covers p || s.lineSuppressed.covers p

/-- Logs a problem unless it is suppressed. File-level problems have no line. -/
def warnIn (s : Session) (p : Problem) (subject group : Text) : Session :=
  if s.suppresses p then s
  else
    let line := if s.line = 0 || p.isFileLevel then none else some s.line
    { s with log := s.log.push ⟨p, s.locale, group, line, subject⟩ }

def warn (s : Session) (p : Problem) (subject : Text) : Session := s.warnIn p subject s.group

def reset (s : Session) : Session :=
  { s with
    locale := s.baseLocale
    encoding := .utf8
    group := []
    line := 0
    lineSuppressed := {}
    seenKeys := []
    seenGroups := []
    baseline := {}
    log := #[] }

theorem reset_eq_new (s : Session) : s.reset = new s.baseLocale s.suppressed s.assignment := rfl

def enterLocale (s : Session) (locale : Text) : Session :=
  { s with locale, seenGroups := [], encoding := s.assignment.encodingOf locale }

/-- Whether the strings of a group can be checked: outside the base locale there have to be base
strings to compare them with. -/
def hasBase (s : Session) (group : Text) : Bool := s.isBase || s.baseline.hasGroup group

/-- Begins a file. In the base locale its group becomes known. -/
def openFile (s : Session) (group : Text) : Session :=
  { s with
    line := 0
    group
    seenKeys := []
    seenGroups := group :: s.seenGroups
    baseline := if s.isBase then s.baseline.addGroup group else s.baseline }

def differences (base? : Option Baseline.Entry) (value : Text) : List Problem :=
  match base? with
  | none => [.extra]
  | some base =>
    (if base.value = value then [.identical] else []) ++
      (if base.placeholders ≠ Placeholder.count value then [.substitutionCount] else [])

/-- Checks one string of the file. Of several strings with one key only the first counts. -/
def checkString (s : Session) (key value : Text) : Session :=
  if s.seenKeys.contains key then s.warn .duplicate key
  else if key.isEmpty then s
  else
    let s := { s with seenKeys := key :: s.seenKeys }
    if s.isBase then
      { s with baseline := s.baseline.insert s.group key (.ofValue value) }
    else (differences (s.baseline.get? s.group key) value).foldl (fun s p => s.warn p key) s

/-- Checks one record under its own directive. -/
def checkRecord (s : Session) (r : Record) : Session :=
  let s := { s with line := r.line, lineSuppressed := r.suppressed }
  { s.checkString r.key r.value with lineSuppressed := {} }

/-- Ends a file: outside the base locale each base key that it lacks is missing. -/
def closeFile (s : Session) (lineCount : Nat) : Session :=
  let s := { s with line := lineCount }
  if s.isBase then s
  else
    ((s.baseline.keys s.group).filter fun k => !s.seenKeys.contains k).foldl
      (fun s k => s.warn .missing k) s

def fileStem (group locale : Text) : Text := group ++ '_' :: locale

/-- Ends a locale: outside the base locale each base group without file is missing. -/
def leaveLocale (s : Session) : Session :=
  if s.isBase then s
  else
    (s.baseline.groups.filter fun g => !s.seenGroups.contains g).foldl
      (fun s g => s.warnIn .missingFile (fileStem g s.locale) g) s

def checkTable (s : Session) (t : Table) : Session :=
  (t.records.foldl checkRecord s).closeFile t.lineCount

/-- Checks a file that has been found, with its table if it can be read; otherwise nothing but its
group is known. A file that has nothing to be compared with is itself a problem. -/
def checkFound (s : Session) (group : Text) (table? : Option Table) : Session :=
  let opened := s.openFile group
  if s.hasBase group then
    match table? with
    | some t => opened.checkTable t
    | none => opened
  else opened.warnIn .extraFile (fileStem group s.locale) group

/-- Checks the files found for a locale. -/
def checkAll (s : Session) (locale : Text) (files : List (Text × Option Table)) : Session :=
  (files.foldl (fun s f => s.checkFound f.1 f.2) (s.enterLocale locale)).leaveLocale

def checkFile (s : Session) (group : Text) (t : Table) : Session := s.checkFound group (some t)

theorem checkFile_of_hasBase {s : Session} {group : Text} (based : s.hasBase group = true)
    (t : Table) : s.checkFile group t = (s.openFile group).checkTable t :=
  if_pos based

/-- Checks the files of a locale, all of which can be read, each given by its group and content. -/
def checkLocale (s : Session) (locale : Text) (files : List (Text × Table)) : Session :=
  s.checkAll locale (files.map fun f => (f.1, some f.2))

theorem checkLocale_eq (s : Session) (locale : Text) (files : List (Text × Table)) :
    s.checkLocale locale files =
      (files.foldl (fun s f => s.checkFile f.1 f.2) (s.enterLocale locale)).leaveLocale := by
  rw [checkLocale, checkAll, List.foldl_map]
  rfl

end Session
end LocaleLint
