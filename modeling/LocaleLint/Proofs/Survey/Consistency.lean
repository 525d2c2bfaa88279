import LocaleLint.Proofs.Session.Conforming
import LocaleLint.Proofs.Survey.Ingestion

namespace LocaleLint.Survey

/-- A directory that is seen in the root directory. -/
def Subdirectory (d : Disk) (root dir : Path) : Prop :=
  d.isListable root = true ∧ ∃ l name, d.resolve root = .ok l ∧
    (d.node? (name :: l)).isSome = true ∧ dir = root.join ⟨name⟩ ∧ d.isDirectory dir = true

def Unmarked (files : List (Text × Option Table)) : Prop :=
  ∀ f ∈ files, ∀ t ∈ f.2, ∀ r ∈ t.records, r.suppressed = {}

instance (files : List (Text × Option Table)) : Decidable (Unmarked files) :=
  inferInstanceAs (Decidable (∀ f ∈ files, ∀ t ∈ f.2, ∀ r ∈ t.records, r.suppressed = {}))

variable {d : Disk} {s : Session} {root dir : Path}

/-! ### Subdirectories -/

theorem subdirectory_iff (directory : d.isDirectory root = true) :
    Subdirectory d root dir ↔ dir ∈ (entries d root).paths ∧ d.isDirectory dir = true := by
  obtain ⟨l, at_l, -⟩ := Disk.resolve_of_isDirectory directory
  rw [mem_entries directory at_l]
  constructor
  · rintro ⟨listable, m, name, at_m, stored, rfl, here⟩
    cases at_l.symm.trans at_m
    exact ⟨⟨listable, name, stored, rfl⟩, here⟩
  · rintro ⟨⟨listable, name, stored, rfl⟩, here⟩
    exact ⟨listable, l, name, at_l, stored, rfl, here⟩

theorem isDirectory_root (named : root.text ≠ [])
    (base : IsDirectoryOf d s.baseLocale (root.join ⟨s.baseLocale⟩)) :
    d.isDirectory root = true := by
  obtain ⟨directory, stem⟩ := base
  exact Disk.isDirectory_of_join named (Path.not_mem_of_stem? stem)
    (Disk.exists?_of_isDirectory directory)

theorem Unmarked.tables {files : List (Text × Option Table)} (unmarked : Unmarked files) :
    ∀ f ∈ files.map Session.tableOf, ∀ r ∈ f.2.records, r.suppressed = {} := by
  intro f member
  obtain ⟨⟨group, table?⟩, inside, rfl⟩ := List.mem_map.mp member
  cases table? with
  | some t => exact unmarked _ inside t rfl
  | none => exact fun r record => nomatch record

section

variable [MultiByte.Tables]

/-! ### The log of a survey -/

/-- What a directory adds to the log. -/
def directoryWarnings (d : Disk) (assignment : Assignment) (b : Baseline) (dir : Path) :
    List Warning :=
  match d.isDirectory dir, dir.stem? with
  | true, some locale => Session.allWarnings b locale (filesIn d assignment locale dir)
  | _, _ => []

theorem plain_filesIn {assignment : Assignment} {locale : Text}
    (unmarked : Unmarked (filesIn d assignment locale dir)) :
    ∀ f ∈ filesIn d assignment locale dir, ∀ t ∈ f.2, Session.PlainTable t := by
  intro f member t read
  have marks := unmarked f member t read
  obtain ⟨text, rfl⟩ := mem_filesIn member t read
  exact Session.plainTable_ofText marks

theorem visit_log (reachable : s.Reachable) (quiet : s.suppressed = {})
    (other : ¬ IsDirectoryOf d s.baseLocale dir)
    (unmarked : ∀ locale, IsDirectoryOf d locale dir → Unmarked (filesIn d s.assignment locale dir)) :
    (visit d s dir).log.toList =
      s.log.toList ++ directoryWarnings d s.assignment s.baseline dir := by
  obtain ⟨locale, here, checked⟩ | ⟨nowhere, same⟩ := visit_cases d s dir
  · have elsewhere : locale ≠ s.baseLocale := fun same => other (same ▸ here)
    rw [checked, directoryWarnings, here.1, here.2]
    exact Session.checkAll_comparing (Session.reachable_sound reachable) quiet elsewhere
      (plain_filesIn (unmarked locale here))
  · have nothing : directoryWarnings d s.assignment s.baseline dir = [] := by
      unfold directoryWarnings
      split
      · next locale directory stem => exact absurd ⟨directory, stem⟩ (nowhere locale)
      · rfl
    rw [same, nothing, List.append_nil]

theorem foldl_visit_log (reachable : s.Reachable) (quiet : s.suppressed = {}) (dirs : List Path)
    (other : ∀ dir ∈ dirs, ¬ IsDirectoryOf d s.baseLocale dir)
    (unmarked : ∀ dir ∈ dirs, ∀ locale, IsDirectoryOf d locale dir →
      Unmarked (filesIn d s.assignment locale dir)) :
    (dirs.foldl (visit d) s).log.toList =
      s.log.toList ++ dirs.flatMap (directoryWarnings d s.assignment s.baseline) := by
  induction dirs generalizing s with
  | nil => simp
  | cons dir dirs ih =>
    obtain ⟨other_here, other_later⟩ := List.forall_mem_cons.mp other
    obtain ⟨unmarked_here, unmarked_later⟩ := List.forall_mem_cons.mp unmarked
    obtain ⟨⟨baseLocale, suppressed, assignment⟩, reachable'⟩ :=
      visit_underway (d := d) reachable dir
    -- No directory here is one of the base locale, so each meets the same baseline.
    have baseline : (visit d s dir).baseline = s.baseline := by
      rw [visit_baseline reachable, if_neg other_here]
    have rest := ih (s := visit d s dir) reachable' (suppressed.trans quiet)
      (by rwa [baseLocale]) (by rwa [assignment])
    rw [List.foldl_cons, rest, visit_log reachable quiet other_here unmarked_here, assignment,
      baseline, List.flatMap_cons, List.append_assoc]

theorem visit_base (base : IsDirectoryOf d s.baseLocale dir) :
    let files := tablesIn d s.assignment s.baseLocale dir
    (visit d s.reset dir).baseline = ({} : Baseline).addTables files ∧
      (visit d s.reset dir).log.toList = files.flatMap fun x =>
        Session.duplicateWarnings s.suppressed s.baseLocale x.1 [] x.2.records := by
  intro files
  obtain ⟨locale, here, checked⟩ | ⟨nowhere, -⟩ := visit_cases d s.reset dir
  · obtain rfl : locale = s.baseLocale := Option.some.inj (here.2.symm.trans base.2)
    rw [checked]
    exact Session.checkAll_filling (s := s.reset) rfl (placed_tablesIn d _ _ dir)
  · exact absurd base (nowhere _)

/-- A survey in which nothing is suppressed, where no other directory is taken for one of the base
locale. -/
structure Regular (d : Disk) (root : Path) (s : Session) : Prop where
  quiet : s.suppressed = {}
  base : IsDirectoryOf d s.baseLocale (root.join ⟨s.baseLocale⟩)
  alone : ∀ dir, Subdirectory d root dir → dir.fileName? ≠ some s.baseLocale →
    dir.stem? ≠ some s.baseLocale
  unmarked_base : Unmarked (filesIn d s.assignment s.baseLocale (root.join ⟨s.baseLocale⟩))
  unmarked : ∀ dir locale, Subdirectory d root dir → dir.fileName? ≠ some s.baseLocale →
    dir.stem? = some locale → Unmarked (filesIn d s.assignment locale dir)

theorem log_run (named : root.text ≠ []) (regular : Regular d root s) :
    let files := tablesIn d s.assignment s.baseLocale (root.join ⟨s.baseLocale⟩)
    (run d root s).session.log.toList =
      (files.flatMap fun x => Session.duplicateWarnings {} s.baseLocale x.1 [] x.2.records) ++
        ((entries d root).paths.filter fun dir => dir.fileName? ≠ some s.baseLocale).flatMap
          (directoryWarnings d s.assignment (({} : Baseline).addTables files)) := by
  intro files
  obtain ⟨quiet, base, alone, unmarked_base, unmarked⟩ := regular
  have directory := isDirectory_root named base
  have present := Disk.exists?_of_isDirectory base.1
  have fresh : s.reset.Reachable := .new _ _ _
  obtain ⟨⟨baseLocale, suppressed, assignment⟩, reachable⟩ :=
    visit_underway (d := d) fresh (root.join ⟨s.baseLocale⟩)
  obtain ⟨filled, logged⟩ := visit_base base
  have others := foldl_visit_log (d := d) reachable (suppressed.trans quiet)
    ((entries d root).paths.filter fun dir => dir.fileName? ≠ some s.baseLocale) ?_ ?_
  · rw [session_run present, others, filled, logged, assignment, quiet]
    rfl
  · intro dir member here
    obtain ⟨listed, other⟩ := List.mem_filter.mp member
    have sub := (subdirectory_iff directory).mpr ⟨listed, here.1⟩
    rw [baseLocale] at here
    exact alone dir sub (of_decide_eq_true other) here.2
  · intro dir member locale here
    obtain ⟨listed, other⟩ := List.mem_filter.mp member
    have sub := (subdirectory_iff directory).mpr ⟨listed, here.1⟩
    rw [assignment]
    exact unmarked dir locale sub (of_decide_eq_true other) here.2

/-- What makes a survey regular, in terms of what is listed in the root directory. -/
theorem regular_of_entries (directory : d.isDirectory root = true) (quiet : s.suppressed = {})
    (base : IsDirectoryOf d s.baseLocale (root.join ⟨s.baseLocale⟩))
    (unmarked : Unmarked (filesIn d s.assignment s.baseLocale (root.join ⟨s.baseLocale⟩)))
    (others : ∀ dir ∈ (entries d root).paths, dir.fileName? ≠ some s.baseLocale →
      dir.stem? ≠ some s.baseLocale ∧
        ∀ locale ∈ dir.stem?, Unmarked (filesIn d s.assignment locale dir)) :
    Regular d root s where
  quiet := quiet
  base := base
  alone dir sub other := (others dir ((subdirectory_iff directory).mp sub).1 other).1
  unmarked_base := unmarked
  unmarked dir locale sub other stem :=
    (others dir ((subdirectory_iff directory).mp sub).1 other).2 locale (Option.mem_def.mpr stem)

/-! ### Empty logs -/

theorem directoryWarnings_eq_nil_iff {assignment : Assignment} {base : List (Text × Table)} :
    directoryWarnings d assignment (({} : Baseline).addTables base) dir = [] ↔
      ∀ locale, IsDirectoryOf d locale dir → Conforms base (filesIn d assignment locale dir) := by
  unfold directoryWarnings
  split
  · next locale directory stem =>
    rw [Session.allWarnings_eq_nil_iff]
    constructor
    · rintro conforms other ⟨-, same⟩
      cases stem.symm.trans same
      exact conforms
    · intro all
      exact all locale ⟨directory, stem⟩
  · next nowhere =>
    constructor
    · rintro - locale ⟨directory, stem⟩
      exact absurd stem (nowhere locale directory)
    · exact fun _ => rfl

/-- A survey in which nothing is suppressed logs nothing if and only if no key stands twice in a base
file, and in each other directory that is seen the files have the groups of the base files, and of
those that can be read the keys are those of the base files of the group, each once, and the values
differ from the base values and have as many placeholders. A base file that cannot be read has no
keys. -/
theorem log_run_eq_empty_iff (named : root.text ≠ []) (regular : Regular d root s) :
    let base := tablesIn d s.assignment s.baseLocale (root.join ⟨s.baseLocale⟩)
    (run d root s).outcome = .completed ∧
      ((run d root s).session.log = #[] ↔
        (∀ f ∈ base, (f.2.records.map (·.key)).Nodup) ∧
          ∀ dir locale, Subdirectory d root dir → dir.fileName? ≠ some s.baseLocale →
            dir.stem? = some locale → Conforms base (filesIn d s.assignment locale dir)) := by
  intro base
  have directory := isDirectory_root named regular.base
  have present := Disk.exists?_of_isDirectory regular.base.1
  have duplicates : ∀ f ∈ base,
      Session.duplicateWarnings {} s.baseLocale f.1 [] f.2.records = [] ↔
        (f.2.records.map (·.key)).Nodup := fun f here =>
    (Session.duplicateWarnings_eq_nil_iff (regular.unmarked_base.tables f here)).trans
      Session.fresh_nil_iff
  refine ⟨by rw [outcome_run, if_pos present], ?_⟩
  rw [← Array.toList_eq_nil_iff, log_run named regular, List.append_eq_nil_iff,
    List.flatMap_eq_nil_iff, List.flatMap_eq_nil_iff]
  apply and_congr
  · exact forall₂_congr duplicates
  · constructor
    · intro each dir locale sub other stem
      obtain ⟨listed, here⟩ := (subdirectory_iff directory).mp sub
      have member : dir ∈ (entries d root).paths.filter
          (fun dir => dir.fileName? ≠ some s.baseLocale) :=
        List.mem_filter.mpr ⟨listed, decide_eq_true other⟩
      exact directoryWarnings_eq_nil_iff.mp (each dir member) locale ⟨here, stem⟩
    · intro each dir member
      obtain ⟨listed, other⟩ := List.mem_filter.mp member
      refine directoryWarnings_eq_nil_iff.mpr fun locale here => ?_
      have sub := (subdirectory_iff directory).mpr ⟨listed, here.1⟩
      exact each dir locale sub (of_decide_eq_true other) here.2

end

theorem log_run_eq_empty_of_translation :
    let _ : MultiByte.Tables := .asciiOnly
    let d : Disk := {
      nodes := [
        (["EN".toList], .directory), (["FR.x".toList], .directory), (["Notes".toList], .file []),
        (["UI_EN.txt".toList, "EN".toList],
          .file (Utf8.encode "UI\nA = \"%1 a\",\nB = \"b\",\n".toList)),
        (["UI_x_EN.txt".toList, "EN".toList],
          .file (Utf8.encode "UI\nB = \"c\",\nA = \"%2 d\",\n".toList)),
        (["UI_FR.TXT".toList, "FR.x".toList],
          .file (Utf8.encode "UI\nB = \"b\",\nA = \"%1 a\"..\n\"%1\",\n".toList)),
        (["UI_x_FR.TXT".toList, "FR.x".toList], .file [])]
      locked := [(["UI_x_FR.TXT".toList, "FR.x".toList], .other "Permission denied".toList)] }
    let root := Path.ofString "."
    let s := Session.new "EN".toList {} {}
    let french := root.join ⟨"FR.x".toList⟩
    root.text ≠ [] ∧ Regular d root s ∧ (run d root s).session.log = #[] ∧
      (filesIn d {} "FR".toList french).map (·.2.isSome) = [true, false] ∧
      Conforms (tablesIn d {} "EN".toList (root.join ⟨"EN".toList⟩))
        (filesIn d {} "FR".toList french) := by
  intro tables d root s french
  have named : root.text ≠ [] := by decide
  have directory : d.isDirectory root = true := by decide +kernel
  have regular : Regular d root s :=
    regular_of_entries directory rfl (by decide +kernel) (by decide +kernel) (by decide +kernel)
  have empty : (run d root s).session.log = #[] := by decide +kernel
  have sub : Subdirectory d root french := (subdirectory_iff directory).mpr (by decide +kernel)
  have conforms := ((log_run_eq_empty_iff named regular).2.mp empty).2 french "FR".toList sub
    (by decide +kernel) (by decide +kernel)
  exact ⟨named, regular, empty, by decide +kernel, conforms⟩

/-- Nothing is logged about a file with other keys than the base file if it cannot be read, nor about
a directory without files if its path is too long. -/
theorem unnoticed_file_and_directory :
    let _ : MultiByte.Tables := .asciiOnly
    let base : Disk := { nodes := [
      (["EN".toList], .directory),
      (["UI_EN.txt".toList, "EN".toList], .file (Utf8.encode "UI\nA = \"a\",\n".toList))] }
    let d : Disk := { base with
      nodes := base.nodes ++ [
        (["FR".toList], .directory),
        (["UI_FR.txt".toList, "FR".toList], .file (Utf8.encode "UI\nB = \"b\",\n".toList))]
      locked := [(["UI_FR.txt".toList, "FR".toList],
        .other "Permission denied (os error 13)".toList)] }
    let root := Path.ofString "."
    let s := Session.new "EN".toList {} {}
    let path := (root.join ⟨"FR".toList⟩).join ⟨"UI_FR.txt".toList⟩
    let long := List.replicate 200 'F'
    let deep : Disk := { base with nodes := base.nodes ++ [([long], .directory)] }
    let far : Path := ⟨(List.replicate 20 (long ++ "/../".toList)).flatten⟩
    (Regular d root s ∧ group? d path "FR".toList = some "UI".toList ∧
        (d.file? path).map (fun bytes =>
          (Table.ofText (Encoding.utf8.decode bytes).text).records.map (·.key)) =
            some ["B".toList] ∧
        (run d root s).session.baseline.keys "UI".toList = ["A".toList] ∧
        (run d root s).session.log = #[]) ∧
      Regular deep far s ∧ deep.resolve far = .ok [] ∧ deep.node? [long] = some .directory ∧
        deep.names [long] = [] ∧ (run deep far s).session.baseline.groups = ["UI".toList] ∧
        (run deep far s).session.log = #[] := by
  intro tables base d root s path long deep far
  have regular : Regular d root s := regular_of_entries (by decide +kernel) rfl (by decide +kernel)
    (by decide +kernel) (by decide +kernel)
  obtain ⟨directory, here, unmarked, others⟩ : deep.isDirectory far = true ∧
      IsDirectoryOf deep s.baseLocale (far.join ⟨s.baseLocale⟩) ∧
      Unmarked (filesIn deep s.assignment s.baseLocale (far.join ⟨s.baseLocale⟩)) ∧
      ∀ dir ∈ (entries deep far).paths, dir.fileName? ≠ some s.baseLocale →
        dir.stem? ≠ some s.baseLocale ∧
          ∀ locale ∈ dir.stem?, Unmarked (filesIn deep s.assignment locale dir) := by
    decide +kernel
  exact ⟨⟨regular, by decide +kernel⟩, regular_of_entries directory rfl here unmarked others,
    by decide +kernel⟩

end LocaleLint.Survey
