import LocaleLint.Disk.Path
import LocaleLint.Encoding.Utf8
import LocaleLint.Lookup
import LocaleLint.Text.Sorted

/-!
# Disks

A file system as a value: what is stored at each location, what of it cannot be opened, and how much
a file can take. A path is resolved part by part, so that `..` leads to the real parent and every
part but the last has to be a directory. Names and paths have a greatest length.
-/

namespace LocaleLint

/-- The names that lead to a file or directory, the innermost first. -/
abbrev Location := List Text

namespace Disk

inductive Node where
  | file (bytes : List UInt8)
  | directory
  deriving DecidableEq, Repr

/-- Why something on a disk cannot be had. -/
inductive Fault where
  | notFound
  | notDirectory
  | isDirectory
  /-- A name or the path is longer than the disk allows. -/
  | tooLong
  /-- The path holds a NUL character. -/
  | nulInPath
  | notText
  /-- Any other reason, in the words of the system. -/
  | other (message : Text)
  deriving DecidableEq, Repr

def Fault.message : Fault → Text
  | notFound => "No such file or directory (os error 2)".toList
  | notDirectory => "Not a directory (os error 20)".toList
  | isDirectory => "Is a directory (os error 21)".toList
  | tooLong => "File name too long (os error 36)".toList
  | nulInPath => "file name contained an unexpected NUL byte".toList
  | notText => "stream did not contain valid UTF-8".toList
  | other message => message

/-- The greatest length of a file, in bytes, and what stops the writing of more. -/
structure Quota where
  bytes : Nat
  fault : Fault
  deriving DecidableEq, Repr

end Disk

/-- Of several nodes stored at one location the first one counts. -/
structure Disk where
  nodes : List (Location × Disk.Node) := []
  cwd : Location := []
  /-- What cannot be opened, to be read, listed or created, and why. It can be passed through. -/
  locked : List (Location × Disk.Fault) := []
  quota : Option Disk.Quota := none
  deriving DecidableEq, Repr

namespace Disk

/-! ### Locations -/

/-- What is stored at a location. The root is always a directory. -/
def node? (d : Disk) (l : Location) : Option Node :=
  if l.isEmpty then some .directory else d.nodes.lookup l

def put (d : Disk) (l : Location) (n : Node) : Disk :=
  { d with nodes := (l, n) :: d.nodes.filter fun e => e.1 ≠ l }

/-- Storing a node changes what is stored at its location and nothing else. -/
theorem node?_put (d : Disk) {l : Location} (m : Location) (n : Node) (h : l ≠ []) :
    (d.put l n).node? m = if m = l then some n else d.node? m := by
  unfold node? put
  by_cases hm : m = l
  · simp [hm, h, lookup_cons_eq_ite]
  · by_cases hr : m = []
    · simp [hr, Ne.symm h]
    · simp only [lookup_cons_eq_ite, if_neg hm]
      rw [lookup_filter_ne d.nodes hm]

/-- Makes a directory and the directories above it, where nothing is stored yet. -/
def makeDirectory (d : Disk) : Location → Disk
  | [] => d
  | name :: above =>
    let d := d.makeDirectory above
    if (d.node? (name :: above)).isSome then d else d.put (name :: above) .directory

def names (d : Disk) (l : Location) : TextSet :=
  .ofList (d.nodes.filterMap fun e =>
    match e.1 with
    | name :: above => if above = l then some name else none
    | [] => none)

/-! ### Resolving paths -/

def byteLength (t : Text) : Nat := (Utf8.encode t).length

def nameLimit : Nat := 255

def pathLimit : Nat := 4095

/-- Whether a part names an entry of a directory, rather than the directory itself or its
parent. -/
def isName (part : Text) : Bool := !part.isEmpty && part ≠ ['.'] && part ≠ ['.', '.']

/-- Goes from a location to what a part of a path leads to, which need not exist. -/
def enter (d : Disk) (l : Location) (part : Text) : Except Fault Location :=
  if d.node? l ≠ some .directory then .error .notDirectory
  else if part = ['.', '.'] then .ok l.tail
  else if !isName part then .ok l
  else if nameLimit < byteLength part then .error .tooLong
  else .ok (part :: l)

def walk (d : Disk) : Location → List Text → Except Fault Location
  | l, [] => .ok l
  | l, part :: rest => do
    let m ← d.enter l part
    if (d.node? m).isSome then d.walk m rest else .error .notFound

def origin (d : Disk) (p : Path) : Location := if p.isRooted then [] else d.cwd

def fault? (p : Path) : Option Fault :=
  if p.text.contains '\x00' then some .nulInPath
  else if p.text.isEmpty then some .notFound
  else if pathLimit < byteLength p.text then some .tooLong
  else none

/-- The location of an existing file or directory. -/
def resolve (d : Disk) (p : Path) : Except Fault Location :=
  match fault? p with
  | some f => .error f
  | none => d.walk (d.origin p) p.parts

def lookup? (d : Disk) (p : Path) : Option Node :=
  match d.resolve p with
  | .ok l => d.node? l
  | .error _ => none

def exists? (d : Disk) (p : Path) : Bool := (d.lookup? p).isSome

def isDirectory (d : Disk) (p : Path) : Bool := d.lookup? p = some .directory

def file? (d : Disk) (p : Path) : Option (List UInt8) :=
  match d.lookup? p with
  | some (.file bytes) => some bytes
  | _ => none

/-! ### Reading and writing -/

/-- Why what is stored at a location, or is to be, cannot be opened. -/
def lock? (d : Disk) (l : Location) : Option Fault := d.locked.lookup l

def access (d : Disk) (l : Location) : Except Fault Unit :=
  match d.lock? l with
  | some f => .error f
  | none => .ok ()

def read (d : Disk) (p : Path) : Except Fault (List UInt8) := do
  let l ← d.resolve p
  d.access l
  match d.node? l with
  | some (.file bytes) => .ok bytes
  | some .directory => .error .isDirectory
  | none => .error .notFound

def readText (d : Disk) (p : Path) : Except Fault Text := do
  match Utf8.text? (← d.read p) with
  | some t => .ok t
  | none => .error .notText

/-- The entries of a directory as paths, in ascending order of their names. A file has none. -/
def list (d : Disk) (p : Path) : Except Fault (List Path) := do
  let l ← d.resolve p
  match d.node? l with
  | some .directory => do
    d.access l
    .ok ((d.names l).map fun n => p.join ⟨n⟩)
  | _ => .ok []

/-- The location that a path gives to a file, whether or not there is one. The directories above
have to exist, and a path that does not end in a name is no path of a file. -/
def place (d : Disk) (p : Path) : Except Fault Location :=
  match fault? p, p.parts.getLast? with
  | some f, _ => .error f
  | none, none => .error .notFound
  | none, some name => do
    let l ← d.walk (d.origin p) p.parts.dropLast
    if isName name then d.enter l name else .error .isDirectory

/-- The location of a file that is opened for writing. -/
def target (d : Disk) (p : Path) : Except Fault Location := do
  let l ← d.place p
  if d.node? l = some .directory then .error .isDirectory
  else do
    d.access l
    .ok l

/-- What of the bytes of a file is written, and why not all of it is. -/
def written (d : Disk) (bytes : List UInt8) : List UInt8 × Except Fault Unit :=
  match d.quota with
  | some q => if q.bytes < bytes.length then (bytes.take q.bytes, .error q.fault) else (bytes, .ok ())
  | none => (bytes, .ok ())

/-- Writes a file, in place of an earlier one. Opening it is one thing and writing the bytes is
another: when only the latter fails there is a file with what was written. -/
def write (d : Disk) (p : Path) (bytes : List UInt8) : Except Fault Unit × Disk :=
  match d.target p with
  | .error f => (.error f, d)
  | .ok l => ((d.written bytes).2, d.put l (.file (d.written bytes).1))

end Disk
end LocaleLint
