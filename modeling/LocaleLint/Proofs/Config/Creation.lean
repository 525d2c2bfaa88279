import LocaleLint.Proofs.Config.Discovery
import LocaleLint.Proofs.Config.Resolution
import LocaleLint.Proofs.Disk.Writing

/-!
# Creating a configuration file

A directory whose configuration file has been created is checked with the default configuration,
whatever is written above it, and creating the file again changes nothing.
-/

namespace LocaleLint

namespace Config

variable {d d' : Disk} {dir : Path}

/-- What is written of the default configuration is read as the default configuration. -/
theorem ofJson_default :
    Utf8.text? defaultBytes = some ({} : Config).render ∧ ofJson ({} : Config).render = .ok {} := by
  decide +kernel

/-- The beginning of it is no configuration, however long it is. -/
theorem ofJson_beginning {n : Nat} (short : n < defaultBytes.length) :
    ∃ t f, Utf8.text? (defaultBytes.take n) = some t ∧ ofJson t = .error f := by
  -- Whether a text is read does not follow from its beginnings, so each of them is tried.
  have checked : ∀ n < defaultBytes.length,
      (Utf8.text? (defaultBytes.take n)).map (fun t => (ofJson t).isOk) = some false := by
    decide +kernel
  obtain ⟨t, text, refused⟩ := Option.map_eq_some_iff.mp (checked n short)
  cases read : ofJson t with
  | error f => exact ⟨t, f, text, read⟩
  | ok config =>
    rw [read] at refused
    cases refused

theorem read_of_wrong {path : Path} {text : Text} {f : Json.Fault}
    (given : d.readText path = .ok text) (wrong : ofJson text = .error f) :
    Config.read d path = .error (.unreadableConfig path f) := by
  unfold Config.read
  rw [given]
  simp only [bind, Except.bind, Except.mapError, wrong]

/-- A directory with a configuration file needs no other. -/
theorem find?_own (there : d.exists? (fileIn dir) = true) : find? d dir = some (fileIn dir) := by
  rw [find?, Path.ancestors, findAmong, if_pos there]

theorem create_there (there : d.exists? (fileIn dir) = true) : create d dir = (.ok false, d) := by
  rw [create, if_pos there]

theorem create_absent (absent : d.exists? (fileIn dir) = false) :
    create d dir =
      (((d.write (fileIn dir) defaultBytes).1.mapError .disk).map fun _ => true,
        (d.write (fileIn dir) defaultBytes).2) := by
  rw [create, absent]
  rfl

/-- Whether a disk is another one with a file more, which is the configuration file of a
directory. -/
structure Leaves (d d' : Disk) (dir : Path) (bytes : List UInt8) : Prop where
  added : ∃ l, d'.resolve (fileIn dir) = .ok l ∧ Disk.Adds d d' l bytes
  there : d'.exists? (fileIn dir) = true
  found : find? d' dir = some (fileIn dir)

/-- Whether this file holds the default configuration, and is the one that is loaded. -/
structure Gains (d d' : Disk) (dir : Path) : Prop extends Leaves d d' dir defaultBytes where
  loaded : load d' dir = .ok ⟨{}, true⟩

/-- Whether this file holds as much of the default configuration as there was room for, so that the
directory cannot be checked any more. -/
structure Torn (d d' : Disk) (dir : Path) (q : Disk.Quota) : Prop
    extends Leaves d d' dir (defaultBytes.take q.bytes) where
  quota : d.quota = some q
  short : q.bytes < defaultBytes.length
  refused : ∃ f, load d' dir = .error (.unreadableConfig (fileIn dir) f)

theorem load_found (found : find? d dir = some (fileIn dir)) :
    load d dir = (read d (fileIn dir)).map (⟨·, true⟩) := by
  rw [load, found]

/-- Where no configuration file is, creating one fails without a trace, fails halfway or adds it. -/
theorem create_cases (absent : d.exists? (fileIn dir) = false) :
    (∃ f, create d dir = (.error f, d)) ∨
      (∃ q d', create d dir = (.error (.disk q.fault), d') ∧ Torn d d' dir q) ∨
        ∃ d', create d dir = (.ok true, d') ∧ Gains d d' dir := by
  rw [create_absent absent]
  rcases Disk.write_absent absent defaultBytes with ⟨f, failed⟩ | ⟨l, d', done, adds, at_l, accessed⟩
  · rw [failed]
    exact .inl ⟨.disk f, rfl⟩
  rw [done]
  have there : d'.exists? (fileIn dir) = true :=
    Disk.exists?_of_resolve at_l (by rw [adds.stored]; rfl)
  have found := find?_own there
  have leaves : Leaves d d' dir (d.written defaultBytes).1 := ⟨⟨l, at_l, adds⟩, there, found⟩
  rcases d.written_cases defaultBytes with whole | ⟨q, quota, short, part⟩
  · rw [whole] at adds leaves ⊢
    obtain ⟨text, parsed⟩ := ofJson_default
    refine .inr (.inr ⟨d', rfl, leaves, ?_⟩)
    rw [load_found found, read_of_text (Disk.readText_of_file at_l accessed adds.stored text) parsed,
      validate_of_valid valid_default]
    rfl
  · rw [part] at adds leaves ⊢
    obtain ⟨t, f, text, wrong⟩ := ofJson_beginning short
    refine .inr (.inl ⟨q, d', rfl, leaves, quota, short, f, ?_⟩)
    have given := Disk.readText_of_file at_l accessed adds.stored text
    rw [load_found found, read_of_wrong given wrong]
    rfl

/-- In a directory a configuration file is found or can be created, if its path is not too long, it
can be opened, and there is room for it. -/
theorem exists_create (directory : d.isDirectory dir = true)
    (fits : Disk.byteLength (fileIn dir).text ≤ Disk.pathLimit)
    (free : ∀ l, d.resolve dir = .ok l → d.lock? (fileName :: l) = none)
    (room : ∀ q, d.quota = some q → defaultBytes.length ≤ q.bytes) :
    ∃ answer d', create d dir = (.ok answer, d') := by
  cases there : d.exists? (fileIn dir) with
  | true => exact ⟨_, _, create_there there⟩
  | false =>
    obtain ⟨l, reached, inside⟩ := Disk.resolve_of_isDirectory directory
    have opened := Disk.target_join reached inside
      (isEntry_of_looked (List.mem_pair.mpr (Or.inl rfl))).1 fits there
      (Disk.access_eq_ok_iff.mpr (free l reached))
    rcases d.written_cases defaultBytes with whole | ⟨q, quota, short, -⟩
    · rw [create_absent there, fileIn, Disk.write, opened]
      dsimp only
      rw [whole]
      exact ⟨true, _, rfl⟩
    · exact absurd (room q quota) (by omega)

end Config

namespace Command.Effect

variable {colour : Bool} {d d' : Disk} {dir : Path}

theorem ofInit_error {f : Failure} (h : Config.create d dir = (.error f, d')) :
    ofInit colour d dir = .ofFailure d' f := by
  rw [ofInit, h]

theorem ofInit_ok {new : Bool} (h : Config.create d dir = (.ok new, d')) :
    (ofInit colour d dir).disk = d' ∧ (ofInit colour d dir).failure = none := by
  rw [ofInit, h]
  cases new <;> exact ⟨rfl, rfl⟩

theorem ofInit_there (there : d.exists? (Config.fileIn dir) = true) :
    (ofInit colour d dir).disk = d ∧ (ofInit colour d dir).failure = none :=
  ofInit_ok (Config.create_there there)

theorem ne_of_exists? {p : Path} (absent : d.exists? p = false) (there : d'.exists? p = true) :
    d' ≠ d := by
  rintro rfl
  cases absent.symm.trans there

/-- Creating the configuration file of a directory never changes what is there. Where something has
its path, nothing happens; otherwise it fails without a trace, or there is one file more. This holds
the default configuration, which is loaded for the directory from then on, unless the writing of it
stopped; then the creation fails and leaves a file that is no configuration. Doing it again changes
nothing, and fails only if it failed before without a trace. -/
theorem ofInit_twice (colour : Bool) (d : Disk) (dir : Path) :
    let path := Config.fileIn dir
    let first := ofInit colour d dir
    let second := ofInit colour first.disk dir
    (d.exists? path = true →
        Config.create d dir = (.ok false, d) ∧ first.disk = d ∧ first.failure = none) ∧
      (d.exists? path = false →
        (∃ f, Config.create d dir = (.error f, d) ∧ first.disk = d ∧ first.failure = some f) ∨
          (∃ q, Config.create d dir = (.error (.disk q.fault), first.disk) ∧
            first.failure = some (.disk q.fault) ∧ Config.Torn d first.disk dir q) ∨
          Config.create d dir = (.ok true, first.disk) ∧ first.failure = none ∧
            Config.Gains d first.disk dir) ∧
      (d.isDirectory dir = true → Disk.byteLength path.text ≤ Disk.pathLimit →
        (∀ l, d.resolve dir = .ok l → d.lock? (Config.fileName :: l) = none) →
        (∀ q, d.quota = some q → Config.defaultBytes.length ≤ q.bytes) →
        first.failure = none) ∧
      second.disk = first.disk ∧
      second.failure = if first.disk = d then first.failure else none := by
  intro path first second
  have succeeds (directory : d.isDirectory dir = true)
      (fits : Disk.byteLength path.text ≤ Disk.pathLimit)
      (free : ∀ l, d.resolve dir = .ok l → d.lock? (Config.fileName :: l) = none)
      (room : ∀ q, d.quota = some q → Config.defaultBytes.length ≤ q.bytes) :
      first.failure = none := by
    obtain ⟨new, d', created⟩ := Config.exists_create directory fits free room
    exact (ofInit_ok created).2
  -- The second attempt meets the same disk again, or the file that the first one has left.
  have unchanged (still : first.disk = d) :
      second.disk = first.disk ∧
        second.failure = if first.disk = d then first.failure else none := by
    have same : second = first := congrArg (ofInit colour · dir) still
    rw [if_pos still]
    exact ⟨congrArg _ same, congrArg _ same⟩
  have changed (absent : d.exists? path = false) {d' : Disk} (now : first.disk = d')
      (there : d'.exists? path = true) :
      second.disk = first.disk ∧
        second.failure = if first.disk = d then first.failure else none := by
    subst now
    rw [if_neg (ne_of_exists? absent there)]
    exact ofInit_there there
  cases there : d.exists? path with
  | true =>
    obtain ⟨still, fine⟩ : first.disk = d ∧ first.failure = none := ofInit_there there
    exact ⟨fun _ => ⟨Config.create_there there, still, fine⟩, nofun, succeeds, unchanged still⟩
  | false =>
    rcases Config.create_cases there with ⟨f, failed⟩ | ⟨q, d', failed, torn⟩ | ⟨d', created, gains⟩
    · have first_eq : first = .ofFailure d f := ofInit_error failed
      have still : first.disk = d := congrArg _ first_eq
      exact ⟨nofun, fun _ => .inl ⟨f, failed, still, congrArg _ first_eq⟩, succeeds,
        unchanged still⟩
    · have first_eq : first = .ofFailure d' (.disk q.fault) := ofInit_error failed
      obtain rfl : first.disk = d' := congrArg _ first_eq
      exact ⟨nofun, fun _ => .inr (.inl ⟨q, failed, congrArg _ first_eq, torn⟩), succeeds,
        changed there rfl torn.there⟩
    · obtain ⟨rfl, fine⟩ : first.disk = d' ∧ first.failure = none := ofInit_ok created
      exact ⟨nofun, fun _ => .inr (.inr ⟨created, fine, gains⟩), succeeds,
        changed there rfl gains.there⟩

/-- In a directory that is checked with the configuration above it, beside one that does not
exist. -/
theorem ofInit_twice_below_another :
    let text := "\x7b \"baseLocale\": \"FR\" \x7d".toList
    let d : Disk := { nodes := [
      (["mods".toList], .directory), (["a".toList, "mods".toList], .directory),
      ([Config.fileName, "mods".toList], .file (Utf8.encode text))] }
    let above := Path.ofString "/mods"
    let dir := Path.ofString "/mods/a"
    let missing := Path.ofString "/mods/b"
    (Config.load d dir).toOption.map (·.config.baseLocale) = some "FR".toList ∧
      d.exists? (Config.fileIn above) = true ∧ Config.create d above = (.ok false, d) ∧
      d.exists? (Config.fileIn dir) = false ∧ d.isDirectory dir = true ∧
      Disk.byteLength (Config.fileIn dir).text ≤ Disk.pathLimit ∧
      Config.Gains d (ofInit false d dir).disk dir ∧
      d.exists? (Config.fileIn missing) = false ∧
      (ofInit false d missing).failure = some (.disk .notFound) ∧
      (ofInit false d missing).disk = d := by
  intro text d above dir missing
  have there : d.exists? (Config.fileIn above) = true := by decide +kernel
  have absent : d.exists? (Config.fileIn dir) = false := by decide +kernel
  have directory : d.isDirectory dir = true := by decide +kernel
  have fits : Disk.byteLength (Config.fileIn dir).text ≤ Disk.pathLimit := by decide +kernel
  have nowhere : d.exists? (Config.fileIn missing) = false := by decide +kernel
  have refused : (ofInit false d missing).failure = some (.disk .notFound) := by decide +kernel
  obtain ⟨-, added, succeeds, -⟩ := ofInit_twice false d dir
  have fine := succeeds directory fits (fun _ _ => rfl) nofun
  refine ⟨by decide +kernel, there, ((ofInit_twice false d above).1 there).1, absent, directory, fits,
    ?_, nowhere, refused, ?_⟩
  · rcases added absent with ⟨f, -, -, failed⟩ | ⟨q, -, failed, -⟩ | ⟨-, -, gains⟩
    · cases failed.symm.trans fine
    · cases failed.symm.trans fine
    · exact gains
  · rcases (ofInit_twice false d missing).2.1 nowhere with
      ⟨f, -, still, -⟩ | ⟨q, -, -, torn⟩ | ⟨-, fine, -⟩
    · exact still
    · cases torn.quota
    · cases refused.symm.trans fine

/-- A full disk leaves the beginning of a file, so that the second attempt finds one; and a file
whose path is too long is not found though it is there. -/
theorem ofInit_torn :
    let noSpace : Disk.Fault := .other "No space left on device (os error 28)".toList
    let full : Disk := { nodes := [(["a".toList], .directory)], quota := some ⟨10, noSpace⟩ }
    let dir := Path.ofString "a"
    let first := ofInit false full dir
    let second := ofInit false first.disk dir
    let long := List.replicate 200 'a'
    let deep : Disk := { nodes := [
      ([long], .directory), ([Config.fileName], .file (Utf8.encode "\x7b\x7d".toList))] }
    let far : Path := ⟨(List.replicate 20 (long ++ "/../".toList)).flatten⟩
    (first.failure = some (.disk noSpace) ∧
        first.disk.node? [Config.fileName, "a".toList] =
          some (.file (Utf8.encode "\x7b\n  \"baseL".toList)) ∧
        first.disk ≠ full ∧ second.failure = none ∧
        (Config.load first.disk dir).isOk = false) ∧
      deep.walk [] (Config.fileIn far).parts = .ok [Config.fileName] ∧
        (deep.node? [Config.fileName]).isSome = true ∧
        Config.create deep far = (.error (.disk .tooLong), deep) := by
  decide +kernel

end Command.Effect
end LocaleLint
