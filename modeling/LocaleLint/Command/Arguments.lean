import LocaleLint.Disk.Path
import LocaleLint.Warning

/-!
# Command line arguments

How the arguments of the command line are read. The value of an option may be attached to it or be
the next argument; such a value is looked at only when the argument after it has been recognised,
which decides the refusal when there are several reasons for one.
-/

namespace LocaleLint

structure CheckCommand where
  path : Path
  base : Option Text := none
  verbosity : Verbosity := .machine
  encodings : Option Text := none
  strict : Bool := false
  ignored : Option Text := none
  stringSubdir : Option Text := none
  deriving DecidableEq, Repr

inductive Command where
  | check (c : CheckCommand)
  | init
  deriving DecidableEq, Repr

namespace Command

inductive Refusal where
  | help
  | version
  | missingArgument
  | badValue
  | missingValue
  | unknownArgument
  | repeatedArgument
  | excessValue
  | unknownCommand
  deriving DecidableEq, Repr

/-- Help and the version are what was asked for; all else is an error. -/
def Refusal.isError : Refusal → Bool
  | help | version => false
  | _ => true

/-! ### The shape of an argument -/

/-- An argument by its shape alone. -/
inductive Shape where
  /-- The mark behind which no options come. -/
  | separator
  | long (name : Text) (value : Option Text)
  | short (letter : Char) (attached : Text)
  | word
  deriving DecidableEq, Repr

def Shape.ofText (arg : Text) : Shape :=
  match arg with
  | ['-', '-'] => .separator
  | '-' :: '-' :: r => .long (r.takeWhile (· != '=')) (Text.afterFirst? '=' r)
  | '-' :: c :: r => .short c r
  | _ => .word

/-! ### Arguments of a check -/

inductive Opt where
  | base
  | verbosity
  | encodings
  | ignored
  | stringSubdir
  deriving DecidableEq, Repr

def Opt.ofName? (name : Text) : Option Opt :=
  if name = "base".toList then some base
  else if name = "verbosity".toList then some verbosity
  else if name = "encodings".toList then some encodings
  else if name = "ignore".toList then some ignored
  else if name = "string-subdir".toList then some stringSubdir
  else none

def Opt.ofLetter? : Char → Option Opt
  | 'b' => some base
  | 'v' => some verbosity
  | 'e' => some encodings
  | _ => none

/-- The verbosity of a level written in decimal digits, with or without a sign. -/
def verbosity? (t : Text) : Option Verbosity :=
  let digits := match t with
    | '+' :: r | '-' :: r => r
    | r => r
  if digits.isEmpty || !digits.all Char.isDigit then none
  else
    let n := digits.foldl (fun n c => n * 10 + (c.toNat - '0'.toNat)) 0
    if t.head? = some '-' && n ≠ 0 then none else Verbosity.ofLevel? n

/-- An argument that has been recognised but not looked at. -/
inductive Pending where
  | option (o : Opt) (value : Option Text)
  | path (text : Text)
  deriving DecidableEq, Repr

structure Draft where
  path : Option Text := none
  base : Option Text := none
  verbosity : Option Verbosity := none
  encodings : Option Text := none
  strict : Bool := false
  ignored : Option Text := none
  stringSubdir : Option Text := none
  pending : Option Pending := none
  separated : Bool := false
  deriving DecidableEq, Repr

namespace Draft

def set (d : Draft) (o : Opt) (value : Text) : Except Refusal Draft :=
  match o with
  | .base => if d.base.isSome then .error .repeatedArgument else .ok { d with base := value }
  | .encodings =>
    if d.encodings.isSome then .error .repeatedArgument else .ok { d with encodings := value }
  | .ignored =>
    if d.ignored.isSome then .error .repeatedArgument else .ok { d with ignored := value }
  | .stringSubdir =>
    if d.stringSubdir.isSome then .error .repeatedArgument
    else .ok { d with stringSubdir := value }
  | .verbosity =>
    if d.verbosity.isSome then .error .repeatedArgument
    else
      match verbosity? value with
      | some v => .ok { d with verbosity := v }
      | none => .error .badValue

def settle (d : Draft) : Except Refusal Draft :=
  match d.pending with
  | none => .ok d
  | some (.path t) =>
    if t.isEmpty then .error .missingValue else .ok { d with path := t, pending := none }
  | some (.option _ none) => .error .missingValue
  | some (.option o (some value)) => { d with pending := none }.set o value

/-- Takes an option with the value attached to it, or leaves it pending. -/
def takeOption (d : Draft) (o : Opt) (attached : Option Text) : Except Refusal Draft := do
  let d ← d.settle
  match attached with
  | some value => d.set o value
  | none => .ok { d with pending := some (.option o none) }

/-- Takes a word: the value of the option in front of it or else the path, which there is one of. -/
def takeWord (d : Draft) (t : Text) : Except Refusal Draft :=
  match d.pending, d.separated with
  | some (.option o none), false => .ok { d with pending := some (.option o (some t)) }
  | some (.path _), _ => .error .unknownArgument
  | _, _ =>
    if d.path.isSome then .error .unknownArgument
    else do .ok { ← d.settle with pending := some (.path t) }

def take (d : Draft) (arg : Text) : Except Refusal Draft :=
  if d.separated then d.takeWord arg
  else
    match Shape.ofText arg with
    | .separator => .ok { d with separated := true }
    | .word => d.takeWord arg
    | .short letter attached =>
      match Opt.ofLetter? letter with
      | some o =>
        let value := if attached.head? = some '=' then attached.tail else attached
        d.takeOption o (if attached.isEmpty then none else some value)
      | none =>
        if letter = 'h' then do
          let _ ← d.settle
          .error .help
        else .error .unknownArgument
    | .long name value =>
      match Opt.ofName? name with
      | some o => d.takeOption o value
      | none =>
        if name = "strict".toList || name = "help".toList then
          if value.isSome then .error .excessValue
          else do
            let d ← d.settle
            if name = "help".toList then .error .help
            else if d.strict then .error .repeatedArgument
            else .ok { d with strict := true }
        else .error .unknownArgument

def finish (d : Draft) : Except Refusal CheckCommand := do
  let d ← d.settle
  match d.path with
  | none => .error .missingArgument
  | some path =>
    .ok {
      path := ⟨path⟩
      base := d.base
      verbosity := d.verbosity.getD .machine
      encodings := d.encodings
      strict := d.strict
      ignored := d.ignored
      stringSubdir := d.stringSubdir }

end Draft

def checkOfArgs (args : List Text) : Except Refusal CheckCommand := do
  (← args.foldlM Draft.take {}).finish

/-! ### Other arguments -/

def noArgs : List Text → Except Refusal Unit
  | [] => .ok ()
  | arg :: args =>
    match Shape.ofText arg with
    | .separator => if args.isEmpty then .ok () else .error .unknownArgument
    | .word => .error .unknownArgument
    | .short letter _ => .error (if letter = 'h' then .help else .unknownArgument)
    | .long name value =>
      .error (if name = "help".toList then (if value.isSome then .excessValue else .help)
        else .unknownArgument)

def names : List Text := ["check".toList, "init".toList, "help".toList]

def helpOn : List Text → Refusal
  | [] => .help
  | [name] => if names.contains name then .help else .unknownCommand
  | _ => .unknownCommand

/-- The command of the arguments. Without a name there is none, and nothing wrong. -/
def ofArgs (args : List Text) : Except Refusal (Option Command) :=
  match args with
  | [] => .ok none
  | arg :: rest =>
    if arg = "check".toList then do .ok (some (.check (← checkOfArgs rest)))
    else if arg = "init".toList then do
      noArgs rest
      .ok (some .init)
    else if arg = "help".toList then .error (helpOn rest)
    else
      match Shape.ofText arg with
      | .separator =>
        match rest with
        | [] => .ok none
        | word :: _ =>
          .error (if names.contains word then .unknownArgument else .unknownCommand)
      | .word => .error .unknownCommand
      | .short letter _ =>
        .error (if letter = 'h' then .help else if letter = 'V' then .version
          else .unknownArgument)
      | .long name value =>
        .error (if name = "help".toList || name = "version".toList then
            (if value.isSome then .excessValue
              else if name = "help".toList then .help else .version)
          else .unknownArgument)

end Command
end LocaleLint
