import LocaleLint.Proofs.Command.Status

/-!
# From the file to the configuration of a check

A configuration is validated when it is loaded from its file, and again when the arguments have been
applied. The arguments can replace a value of the file but not make up for one that is invalid.
-/

namespace LocaleLint

namespace Config

structure Valid (c : Config) : Prop where
  named : Text.trim c.baseLocale ≠ []
  known : Assignment.AllKnown c.encodings

/-- Whether a configuration is what is written for a directory: the content of its configuration
file, valid or not, or the default one if there is no file. -/
def Given (d : Disk) (dir : Path) (config : Config) : Prop :=
  match find? d dir with
  | none => config = {}
  | some path => ∃ text, d.readText path = .ok text ∧ ofJson text = .ok config

variable {d : Disk} {dir : Path} {config : Config}

theorem invalid?_eq_none_iff_valid : config.invalid? = none ↔ config.Valid := by
  rw [invalid?_eq_none_iff]
  exact ⟨fun ⟨named, known⟩ => ⟨named, known⟩, fun ⟨named, known⟩ => ⟨named, known⟩⟩

theorem validate_of_valid (valid : config.Valid) : config.validate = .ok config := by
  unfold validate
  rw [invalid?_eq_none_iff_valid.mpr valid]

theorem validate_of_invalid (invalid : ¬ config.Valid) :
    ∃ reason, config.invalid? = some reason ∧ config.validate = .error reason := by
  unfold validate
  cases found : config.invalid? with
  | none => exact absurd (invalid?_eq_none_iff_valid.mp found) invalid
  | some reason => exact ⟨reason, rfl, rfl⟩

theorem valid_default : ({} : Config).Valid := ⟨by decide +kernel, by simp [Assignment.AllKnown]⟩

theorem read_of_text {path : Path} {text : Text} (read : d.readText path = .ok text)
    (parsed : ofJson text = .ok config) :
    Config.read d path = config.validate.mapError .invalidConfig := by
  unfold Config.read
  rw [read]
  simp only [bind, Except.bind, Except.mapError, parsed]

theorem load_of_valid (given : Given d dir config) (valid : config.Valid) :
    ∃ fromFile, load d dir = .ok ⟨config, fromFile⟩ := by
  unfold Given at given
  unfold load
  cases found : find? d dir with
  | none =>
    rw [found] at given
    rw [given]
    exact ⟨false, rfl⟩
  | some path =>
    rw [found] at given
    obtain ⟨text, read, parsed⟩ := given
    dsimp only
    rw [read_of_text read parsed, validate_of_valid valid]
    exact ⟨true, rfl⟩

theorem load_of_invalid (given : Given d dir config) (invalid : ¬ config.Valid) :
    ∃ reason, config.invalid? = some reason ∧ load d dir = .error (.invalidConfig reason) := by
  obtain ⟨reason, first, refused⟩ := validate_of_invalid invalid
  refine ⟨reason, first, ?_⟩
  unfold Given at given
  unfold load
  cases found : find? d dir with
  | none =>
    rw [found] at given
    exact absurd (given ▸ valid_default) invalid
  | some path =>
    rw [found] at given
    obtain ⟨text, read, parsed⟩ := given
    dsimp only
    rw [read_of_text read parsed, refused]
    rfl

end Config

namespace CheckCommand

variable {d : Disk} {c : CheckCommand} {file : Config}

theorem resolve_of_load {loaded : Config.Loaded} (load : Config.load d c.path = .ok loaded) :
    c.resolve d = (c.apply loaded.config).validate.mapError .invalidConfig := by
  unfold resolve
  rw [load]
  rfl

theorem resolve_of_valid (given : Config.Given d c.path file) (valid : file.Valid) :
    c.resolve d = (c.apply file).validate.mapError .invalidConfig := by
  obtain ⟨fromFile, load⟩ := Config.load_of_valid given valid
  rw [resolve_of_load load]

theorem resolve_of_invalid (given : Config.Given d c.path file) (invalid : ¬ file.Valid) :
    ∃ reason, file.invalid? = some reason ∧ c.resolve d = .error (.invalidConfig reason) := by
  obtain ⟨reason, first, refused⟩ := Config.load_of_invalid given invalid
  refine ⟨reason, first, ?_⟩
  unfold resolve
  rw [refused]
  rfl

/-- A check has a configuration if and only if that of the file is valid, by itself and with the
arguments applied, and then it is the latter; otherwise the check is refused for the first thing that
makes one of the two invalid. Of two valid files that the arguments make equal, both give the same:
a value that is replaced has no influence beyond being valid. -/
theorem resolve_of_given (given : Config.Given d c.path file) :
    let merged := c.apply file
    ((∃ config, c.resolve d = .ok config) ↔ file.Valid ∧ merged.Valid) ∧
      (∀ config, c.resolve d = .ok config → config = merged) ∧
      (¬ file.Valid →
        ∃ reason, file.invalid? = some reason ∧ c.resolve d = .error (.invalidConfig reason)) ∧
      (file.Valid → ¬ merged.Valid →
        ∃ reason, merged.invalid? = some reason ∧ c.resolve d = .error (.invalidConfig reason)) ∧
      ∀ d' file', Config.Given d' c.path file' → file.Valid → file'.Valid →
        c.apply file' = merged → c.resolve d' = c.resolve d := by
  intro merged
  have accepted (valid : file.Valid) (whole : merged.Valid) : c.resolve d = .ok merged := by
    rw [resolve_of_valid given valid, Config.validate_of_valid whole]
    rfl
  have refused (valid : file.Valid) (broken : ¬ merged.Valid) :
      ∃ reason, merged.invalid? = some reason ∧ c.resolve d = .error (.invalidConfig reason) := by
    obtain ⟨reason, first, checked⟩ := Config.validate_of_invalid broken
    refine ⟨reason, first, ?_⟩
    rw [resolve_of_valid given valid, checked]
    rfl
  have both {config : Config} (resolved : c.resolve d = .ok config) :
      file.Valid ∧ merged.Valid := by
    by_cases valid : file.Valid
    · refine ⟨valid, ?_⟩
      by_contra broken
      obtain ⟨reason, -, error⟩ := refused valid broken
      cases resolved.symm.trans error
    · obtain ⟨reason, -, error⟩ := resolve_of_invalid given valid
      cases resolved.symm.trans error
  refine ⟨⟨fun ⟨_, resolved⟩ => both resolved, fun ⟨valid, whole⟩ => ⟨_, accepted valid whole⟩⟩,
    fun config resolved => ?_, resolve_of_invalid given, refused, ?_⟩
  · obtain ⟨valid, whole⟩ := both resolved
    exact Except.ok.inj (resolved.symm.trans (accepted valid whole))
  · intro d' file' given' valid valid' same
    rw [resolve_of_valid given' valid', same, resolve_of_valid given valid]

theorem resolve_of_given_replaced :
    let written (text : String) : Disk :=
      { nodes := [([Config.fileName], .file (Utf8.encode text.toList))] }
    let d := written "\x7b\"baseLocale\": \"FR\", \"encodings\": \x7b\"RU\": \"gbk\"\x7d\x7d"
    let d' := written "\x7b\"encodings\": \x7b\"RU\": \"big5-hkscs\"\x7d\x7d"
    let c : CheckCommand :=
      { path := .ofString ".", base := "DE".toList, encodings := "RU:big5, x".toList }
    let file : Config :=
      { baseLocale := "FR".toList, encodings := [("RU".toList, "gbk".toList)] }
    let file' : Config := { encodings := [("RU".toList, "big5-hkscs".toList)] }
    let merged : Config :=
      { baseLocale := "DE".toList, encodings := [("RU".toList, "big5".toList)] }
    Config.Given d c.path file ∧ Config.Given d' c.path file' ∧ file.Valid ∧ file'.Valid ∧
      c.resolve d = .ok merged ∧ c.resolve d' = .ok merged := by
  intro written d d' c file file' merged
  have given : Config.Given d c.path file :=
    ⟨"\x7b\"baseLocale\": \"FR\", \"encodings\": \x7b\"RU\": \"gbk\"\x7d\x7d".toList,
      by decide +kernel, by decide +kernel⟩
  have given' : Config.Given d' c.path file' :=
    ⟨"\x7b\"encodings\": \x7b\"RU\": \"big5-hkscs\"\x7d\x7d".toList,
      by decide +kernel, by decide +kernel⟩
  have valid : file.Valid := Config.invalid?_eq_none_iff_valid.mp (by decide +kernel)
  have valid' : file'.Valid := Config.invalid?_eq_none_iff_valid.mp (by decide +kernel)
  have whole : (c.apply file).Valid := Config.invalid?_eq_none_iff_valid.mp (by decide +kernel)
  obtain ⟨accepted, value, -, -, same⟩ := resolve_of_given given
  obtain ⟨config, resolved⟩ := accepted.mpr ⟨valid, whole⟩
  have result : config = merged := (value config resolved).trans (by decide +kernel)
  rw [result] at resolved
  refine ⟨given, given', valid, valid', resolved, ?_⟩
  rw [same d' file' given' valid valid' (by decide +kernel), resolved]

/-- A blank base locale and an unknown label of a file are refused though the arguments replace
them. -/
theorem replaced_value_refused :
    let written (text : String) : Disk :=
      { nodes := [([Config.fileName], .file (Utf8.encode text.toList))] }
    let blank := written "\x7b\"baseLocale\": \" \"\x7d"
    let c : CheckCommand := { path := .ofString ".", base := "EN".toList }
    let unknown := written "\x7b\"encodings\": \x7b\"FR\": \"nope\"\x7d\x7d"
    let c' : CheckCommand := { path := .ofString ".", encodings := "FR:big5".toList }
    Config.Given blank c.path { baseLocale := " ".toList } ∧
      (c.apply { baseLocale := " ".toList }).Valid ∧
      c.resolve blank = .error (.invalidConfig .blankBaseLocale) ∧
      Config.Given unknown c'.path { encodings := [("FR".toList, "nope".toList)] } ∧
      (c'.apply { encodings := [("FR".toList, "nope".toList)] }).Valid ∧
      c'.resolve unknown =
        .error (.invalidConfig (.unknownLabel ⟨"nope".toList, "FR".toList⟩)) := by
  intro written blank c unknown c'
  refine ⟨⟨"\x7b\"baseLocale\": \" \"\x7d".toList, by decide +kernel, by decide +kernel⟩,
    Config.invalid?_eq_none_iff_valid.mp (by decide +kernel), by decide +kernel,
    ⟨"\x7b\"encodings\": \x7b\"FR\": \"nope\"\x7d\x7d".toList, by decide +kernel,
      by decide +kernel⟩,
    Config.invalid?_eq_none_iff_valid.mp (by decide +kernel), by decide +kernel⟩

end CheckCommand
end LocaleLint
