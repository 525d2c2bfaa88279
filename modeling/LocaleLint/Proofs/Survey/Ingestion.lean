import LocaleLint.Config.Basic
import LocaleLint.Proofs.Disk.Path
import LocaleLint.Proofs.Session.BasePass
import LocaleLint.Proofs.Session.Course
import LocaleLint.Survey

/-!
# What a survey takes into the baseline

The baseline at the end of a survey is that of the string tables in the directories whose stem is
the base locale. This is the directory named by the base locale, and besides it each that has this
name and an extension.
-/

namespace LocaleLint.Survey

/-- Whether a path is that of a directory and taken for one of the locale. -/
def IsDirectoryOf (d : Disk) (locale : Text) (dir : Path) : Prop :=
  d.isDirectory dir = true ∧ dir.stem? = some locale

instance (d : Disk) (locale : Text) (dir : Path) : Decidable (IsDirectoryOf d locale dir) :=
  inferInstanceAs (Decidable (_ ∧ _))

/-- The directories that are taken for one of the locale though they have another name. -/
def copies (d : Disk) (root : Path) (locale : Text) : List Path :=
  (entries d root).paths.filter fun dir =>
    dir.fileName? ≠ some locale ∧ IsDirectoryOf d locale dir

variable {d : Disk} {s : Session} {dir : Path}

section

variable [MultiByte.Tables]

/-- The string table files of a locale in a directory, by group, with the tables of those that can
be read. -/
def filesIn (d : Disk) (assignment : Assignment) (locale : Text) (dir : Path) :
    List (Text × Option Table) :=
  ((entries d dir).paths.filterMap (source? d locale (assignment.encodingOf locale))).map
    fun f => (f.group, f.table?)

/-- The string tables of a locale in a directory; that of a file that cannot be read is empty. -/
def tablesIn (d : Disk) (assignment : Assignment) (locale : Text) (dir : Path) :
    List (Text × Table) :=
  (filesIn d assignment locale dir).map Session.tableOf

def visit (d : Disk) (s : Session) (dir : Path) : Session := (checkDirectory d s dir).session

/-! ### One directory -/

theorem visit_cases (d : Disk) (s : Session) (dir : Path) :
    (∃ locale, IsDirectoryOf d locale dir ∧
        visit d s dir = s.checkAll locale (filesIn d s.assignment locale dir)) ∨
      ((∀ locale, ¬ IsDirectoryOf d locale dir) ∧ visit d s dir = s) := by
  unfold visit checkDirectory
  split
  · next locale directory stem => exact Or.inl ⟨locale, ⟨directory, stem⟩, rfl⟩
  · next other => exact Or.inr ⟨fun locale h => other locale h.1 h.2, rfl⟩

/-- Each table in a directory is that of a text. -/
theorem mem_filesIn {assignment : Assignment} {locale : Text} {f : Text × Option Table}
    (h : f ∈ filesIn d assignment locale dir) : ∀ t ∈ f.2, ∃ text, t = .ofText text := by
  obtain ⟨source, -, rfl⟩ := List.mem_map.mp h
  intro t read
  obtain ⟨content, -, rfl⟩ := Option.map_eq_some_iff.mp read
  exact ⟨_, rfl⟩

theorem mem_tablesIn {assignment : Assignment} {locale : Text} {f : Text × Table}
    (h : f ∈ tablesIn d assignment locale dir) : ∃ text, f.2 = .ofText text := by
  obtain ⟨⟨group, table?⟩, inside, rfl⟩ := List.mem_map.mp h
  cases table? with
  | some t => exact mem_filesIn inside t rfl
  | none => exact ⟨[], rfl⟩

theorem placed_tablesIn (d : Disk) (assignment : Assignment) (locale : Text) (dir : Path) :
    ∀ x ∈ tablesIn d assignment locale dir, ∀ r ∈ x.2.records, Session.Placed r := by
  intro x member
  obtain ⟨text, same⟩ := mem_tablesIn member
  rw [same]
  exact Session.placed_ofText

theorem checkDirectory_outcome (d : Disk) (s : Session) (dir : Path) :
    (checkDirectory d s dir).outcome = .completed := by
  unfold checkDirectory
  split <;> rfl

structure Underway (s t : Session) : Prop extends Session.SameSettings s t where
  reachable : t.Reachable

theorem visit_underway (reachable : s.Reachable) (dir : Path) : Underway s (visit d s dir) := by
  obtain ⟨locale, -, checked⟩ | ⟨-, same⟩ := visit_cases d s dir
  · rw [checked]
    exact ⟨s.checkAll_settings _ _, Session.reachable_checkAll reachable _ _⟩
  · rw [same]
    exact ⟨.refl s, reachable⟩

theorem foldl_visit_underway (reachable : s.Reachable) (dirs : List Path) :
    Underway s (dirs.foldl (visit d) s) := by
  induction dirs generalizing s with
  | nil => exact ⟨.refl s, reachable⟩
  | cons dir dirs ih =>
    have first : Underway s (visit d s dir) := visit_underway reachable dir
    have rest := ih first.reachable
    exact ⟨first.toSameSettings.trans rest.toSameSettings, rest.reachable⟩

/-- Only a directory that is taken for one of the base locale changes the baseline. -/
theorem visit_baseline (reachable : s.Reachable) (dir : Path) :
    (visit d s dir).baseline =
      if IsDirectoryOf d s.baseLocale dir then
        s.baseline.addTables (tablesIn d s.assignment s.baseLocale dir)
      else s.baseline := by
  obtain ⟨locale, here, checked⟩ | ⟨nowhere, same⟩ := visit_cases d s dir
  · rw [checked]
    by_cases base : locale = s.baseLocale
    · subst base
      have silent := (Session.reachable_sound reachable).silent
      rw [if_pos here]
      exact (Session.checkAll_filling silent (placed_tablesIn d _ _ dir)).1
    · have elsewhere : ¬ IsDirectoryOf d s.baseLocale dir := fun h =>
        base (Option.some.inj (here.2.symm.trans h.2))
      rw [if_neg elsewhere]
      exact Session.checkAll_baseline base _
  · rw [same, if_neg (nowhere _)]

/-! ### All directories -/

theorem foldl_visit_baseline (reachable : s.Reachable) (dirs : List Path) :
    (dirs.foldl (visit d) s).baseline = s.baseline.addTables
      ((dirs.filter (IsDirectoryOf d s.baseLocale)).flatMap
        (tablesIn d s.assignment s.baseLocale)) := by
  induction dirs generalizing s with
  | nil => rfl
  | cons dir dirs ih =>
    obtain ⟨⟨baseLocale, -, assignment⟩, reachable'⟩ := visit_underway (d := d) reachable dir
    rw [List.foldl_cons, ih reachable', baseLocale, assignment, visit_baseline reachable]
    by_cases here : IsDirectoryOf d s.baseLocale dir
    · rw [if_pos here, List.filter_cons_of_pos (by simpa using here), List.flatMap_cons,
        Baseline.addTables_append]
    · rw [if_neg here, List.filter_cons_of_neg (by simpa using here)]

/-! ### Whole surveys -/

theorem foldl_next_outcome {v : Survey} (h : v.outcome = .completed) (dirs : List Path) :
    (dirs.foldl (next d) v).outcome = .completed := by
  induction dirs generalizing v with
  | nil => exact h
  | cons dir dirs ih => exact ih (checkDirectory_outcome d v.session dir)

theorem run_present {root : Path} (h : d.exists? (root.join ⟨s.baseLocale⟩) = true) :
    let first := checkDirectory d s.reset (root.join ⟨s.baseLocale⟩)
    run d root s =
      ((entries d root).paths.filter fun dir => dir.fileName? ≠ some s.baseLocale).foldl (next d)
        { first with diagnostics := first.diagnostics ++ (entries d root).diagnostics } :=
  if_pos h

theorem run_absent {root : Path} (h : d.exists? (root.join ⟨s.baseLocale⟩) = false) :
    run d root s =
      { session := s.reset, outcome := .fatal (noBase (root.join ⟨s.baseLocale⟩)) } :=
  if_neg (ne_true_of_eq_false h)

theorem outcome_run (d : Disk) (root : Path) (s : Session) :
    (run d root s).outcome =
      if d.exists? (root.join ⟨s.baseLocale⟩) then .completed
      else .fatal (noBase (root.join ⟨s.baseLocale⟩)) := by
  cases present : d.exists? (root.join ⟨s.baseLocale⟩) with
  | true =>
    rw [run_present present, if_pos rfl]
    refine foldl_next_outcome ?_ _
    exact checkDirectory_outcome d _ _
  | false =>
    rw [run_absent present]
    rfl

theorem exists_of_completed {root : Path} (h : (run d root s).outcome = .completed) :
    d.exists? (root.join ⟨s.baseLocale⟩) = true := by
  rw [outcome_run] at h
  by_contra absent
  rw [if_neg absent] at h
  cases h

theorem session_run {root : Path} (h : d.exists? (root.join ⟨s.baseLocale⟩) = true) :
    (run d root s).session =
      ((entries d root).paths.filter fun dir => dir.fileName? ≠ some s.baseLocale).foldl (visit d)
        (visit d s.reset (root.join ⟨s.baseLocale⟩)) := by
  rw [run_present h]
  exact (List.foldl_hom Survey.session fun v dir => rfl).symm

theorem session_run_absent {root : Path} (h : d.exists? (root.join ⟨s.baseLocale⟩) = false) :
    (run d root s).session = s.reset := by
  rw [run_absent h]

theorem baseline_session_run {root : Path} (h : d.exists? (root.join ⟨s.baseLocale⟩) = true) :
    (run d root s).session.baseline =
      (visit d s.reset (root.join ⟨s.baseLocale⟩)).baseline.addTables
        ((copies d root s.baseLocale).flatMap (tablesIn d s.assignment s.baseLocale)) := by
  have fresh : s.reset.Reachable := .new _ _ _
  obtain ⟨⟨baseLocale, -, assignment⟩, reachable⟩ :=
    visit_underway (d := d) fresh (root.join ⟨s.baseLocale⟩)
  rw [session_run h, foldl_visit_baseline reachable, baseLocale, assignment, List.filter_filter]
  congr 2
  refine List.filter_congr fun dir _ => ?_
  rw [Bool.and_comm]
  exact (Bool.decide_and _ _).symm

/-- After a survey that is completed, the baseline is the one after the directory of the base
locale, with the string tables of the copies of this directory put into it. Where there are no
copies, no other directory has any influence on it. -/
theorem baseline_run {root : Path} (completed : (run d root s).outcome = .completed) :
    let base := (visit d s.reset (root.join ⟨s.baseLocale⟩)).baseline
    (run d root s).session.baseline = base.addTables
        ((copies d root s.baseLocale).flatMap (tablesIn d s.assignment s.baseLocale)) ∧
      (copies d root s.baseLocale = [] → (run d root s).session.baseline = base) := by
  intro base
  have whole := baseline_session_run (exists_of_completed completed)
  refine ⟨whole, fun none => ?_⟩
  rw [whole, none]
  rfl

end

theorem baseline_run_without_copies :
    let _ : MultiByte.Tables := .asciiOnly
    let d : Disk := { nodes := [
      (["EN".toList], .directory), (["EN.txt".toList], .file []), (["FR.bak".toList], .directory),
      (["UI_EN.txt".toList, "EN".toList], .file (Utf8.encode "UI\nA = \"a\",\n".toList)),
      (["UI_FR.txt".toList, "FR.bak".toList],
        .file (Utf8.encode "UI\nA = \"b\",\nB = \"c\",\n".toList))] }
    let root := Path.ofString "."
    let s := Session.new "EN".toList {} {}
    (run d root s).outcome = .completed ∧
      (run d root s).session.baseline = ⟨[("UI".toList, [("A".toList, ⟨"a".toList, 0⟩)])]⟩ := by
  intro tables d root s
  have completed : (run d root s).outcome = .completed := by decide +kernel
  refine ⟨completed, ?_⟩
  rw [(baseline_run completed).2 (by decide +kernel)]
  decide +kernel

/-- A copy of the directory of the base locale replaces what is in the baseline. -/
theorem copy_changes_baseline :
    let _ : MultiByte.Tables := .asciiOnly
    let d : Disk := { nodes := [
      (["EN".toList], .directory), (["EN.bak".toList], .directory),
      (["UI_EN.txt".toList, "EN".toList], .file (Utf8.encode "UI\nA = \"a\",\n".toList)),
      (["UI_EN.txt".toList, "EN.bak".toList], .file (Utf8.encode "UI\nA = \"b\",\n".toList))] }
    let root := Path.ofString "."
    let s := Session.new "EN".toList {} {}
    (run d root s).outcome = .completed ∧
      (visit d s.reset (root.join ⟨s.baseLocale⟩)).baseline =
        ⟨[("UI".toList, [("A".toList, ⟨"a".toList, 0⟩)])]⟩ ∧
      (run d root s).session.baseline = ⟨[("UI".toList, [("A".toList, ⟨"b".toList, 0⟩)])]⟩ := by
  decide +kernel

/-! ### The files of the base locale -/

theorem mem_entries {l : Location} (directory : d.isDirectory dir = true)
    (at_l : d.resolve dir = .ok l) {path : Path} :
    path ∈ (entries d dir).paths ↔ d.isListable dir = true ∧
      ∃ name, (d.node? (name :: l)).isSome = true ∧ dir.join ⟨name⟩ = path := by
  cases listable : d.isListable dir with
  | true =>
    rw [entries, Disk.list_of_isListable directory at_l listable]
    simp [Disk.mem_names_iff]
  | false =>
    rw [entries]
    cases listed : d.list dir with
    | error f => simp
    | ok paths =>
      rw [Disk.isListable, listed] at listable
      cases listable

section

variable [MultiByte.Tables]

/-- The table at a path, if it can be read. -/
def tableAt? (d : Disk) (encoding : Encoding) (path : Path) : Option Table :=
  (d.read path).toOption.map fun bytes => .ofText (encoding.decode bytes).text

theorem source?_eq {locale group : Text} {path : Path} (h : group? d path locale = some group)
    (encoding : Encoding) :
    source? d locale encoding path =
      some ⟨path, group, (d.read path).map encoding.decode⟩ := by
  rw [source?, h]
  rfl

/-- Each string table file that is stored in a directory is among its files, if it can be seen what
the directory holds. -/
theorem mem_filesIn_of_group? {path : Path} (listed : path ∈ (entries d dir).paths)
    {locale group : Text} (h : group? d path locale = some group) (assignment : Assignment) :
    (group, tableAt? d (assignment.encodingOf locale) path) ∈ filesIn d assignment locale dir := by
  refine List.mem_map.mpr ⟨_, List.mem_filterMap.mpr ⟨path, listed, source?_eq h _⟩, ?_⟩
  rw [Source.table?, tableAt?]
  cases d.read path <;> rfl

theorem mem_tablesIn_of_read {path : Path} (listed : path ∈ (entries d dir).paths)
    {locale group : Text} (h : group? d path locale = some group) {bytes : List UInt8}
    (read : d.read path = .ok bytes) (assignment : Assignment) :
    (group, Table.ofText ((assignment.encodingOf locale).decode bytes).text) ∈
      tablesIn d assignment locale dir := by
  refine List.mem_map.mpr ⟨_, mem_filesIn_of_group? listed h assignment, ?_⟩
  rw [tableAt?, read]
  rfl

/-! ### What is said of files and directories -/

theorem unlistable_mem_diagnostics {locale : Text} (here : IsDirectoryOf d locale dir)
    {fault : Disk.Fault} (failed : d.list dir = .error fault) :
    .unlistable dir fault ∈ (checkDirectory d s dir).diagnostics := by
  unfold checkDirectory
  rw [here.1, here.2]
  refine List.mem_append_left _ ?_
  rw [entries, failed]
  exact List.mem_singleton_self _

theorem unreadable_mem_diagnostics {locale group : Text} (here : IsDirectoryOf d locale dir)
    {path : Path} (listed : path ∈ (entries d dir).paths) (h : group? d path locale = some group)
    (compared : (s.enterLocale locale).hasBase group = true) {fault : Disk.Fault}
    (failed : d.read path = .error fault) :
    .unreadable path fault ∈ (checkDirectory d s dir).diagnostics := by
  unfold checkDirectory
  rw [here.1, here.2]
  refine List.mem_append_right _ (List.mem_filterMap.mpr ⟨_, List.mem_filter.mpr
    ⟨List.mem_filterMap.mpr ⟨path, listed, source?_eq h _⟩, compared⟩, ?_⟩)
  rw [failed]
  rfl

theorem mem_diagnostics_foldl {v : Survey} {x : Diagnostic} (h : x ∈ v.diagnostics)
    (dirs : List Path) : x ∈ (dirs.foldl (next d) v).diagnostics := by
  induction dirs generalizing v with
  | nil => exact h
  | cons dir dirs ih => exact ih (v := next d v dir) (List.mem_append_left _ h)

theorem mem_diagnostics_run {root : Path} (present : d.exists? (root.join ⟨s.baseLocale⟩) = true)
    {x : Diagnostic}
    (h : x ∈ (checkDirectory d s.reset (root.join ⟨s.baseLocale⟩)).diagnostics) :
    x ∈ (run d root s).diagnostics := by
  rw [run_present present]
  exact mem_diagnostics_foldl (List.mem_append_left _ h) _

/-- A survey is fatal if and only if nothing exists at the path of the base locale. If a directory
is there and the base locale is a stem, the survey is completed. When it cannot be seen what the
directory holds, this is said; otherwise the baseline has the group of each string table file of the
base locale in the directory, and the keys of all its records or it is said that the file cannot be
read. -/
theorem base_ingested (d : Disk) (root : Path) (s : Session) :
    let base := root.join ⟨s.baseLocale⟩
    let v := run d root s
    ((∃ message, v.outcome = .fatal message) ↔ d.exists? base = false) ∧
      (Path.IsStem s.baseLocale → ∀ l, d.isDirectory base = true → d.resolve base = .ok l →
        v.outcome = .completed ∧
          (∀ fault, d.list base = .error fault → .unlistable base fault ∈ v.diagnostics) ∧
          (d.isListable base = true → ∀ name group, (d.node? (name :: l)).isSome = true →
            group? d (base.join ⟨name⟩) s.baseLocale = some group →
              group ∈ v.session.baseline.groups ∧
              (∀ fault, d.read (base.join ⟨name⟩) = .error fault →
                .unreadable (base.join ⟨name⟩) fault ∈ v.diagnostics) ∧
              ∀ bytes, d.read (base.join ⟨name⟩) = .ok bytes →
                ∀ r ∈ (Table.ofText
                    ((s.assignment.encodingOf s.baseLocale).decode bytes).text).records,
                  r.key ∈ v.session.baseline.keys group)) := by
  intro base v
  have outcome : v.outcome = if d.exists? base then .completed else .fatal (noBase base) :=
    outcome_run d root s
  refine ⟨?_, fun plain l directory at_l => ?_⟩
  · rw [outcome]
    cases d.exists? base <;> simp
  have present : d.exists? base = true := Disk.exists?_of_isDirectory directory
  have here : IsDirectoryOf d s.reset.baseLocale base := ⟨directory, Path.stem?_join root plain⟩
  refine ⟨by rw [outcome, if_pos present], fun fault failed =>
    mem_diagnostics_run present (unlistable_mem_diagnostics here failed), ?_⟩
  intro listable name group stored assigned
  have listed : base.join ⟨name⟩ ∈ (entries d base).paths :=
    (mem_entries directory at_l).mpr ⟨listable, name, stored, rfl⟩
  have baseline := baseline_session_run (s := s) present
  have fresh : s.reset.Reachable := .new _ _ _
  rw [visit_baseline fresh, if_pos here, ← Baseline.addTables_append] at baseline
  have file := List.mem_map_of_mem (f := Session.tableOf)
    (mem_filesIn_of_group? listed assigned s.assignment)
  refine ⟨?_, fun fault failed => mem_diagnostics_run present
    (unreadable_mem_diagnostics here listed assigned ?_ failed), fun bytes read r record => ?_⟩
  · rw [baseline]
    exact Baseline.mem_groups_addTables (List.mem_append_left _ file) _
  · simp [Session.hasBase, Session.isBase, Session.enterLocale]
  · rw [baseline]
    exact Baseline.mem_keys_addTables (List.mem_append_left _
      (mem_tablesIn_of_read listed assigned read s.assignment)) record _

end

theorem base_ingested_two_tables :
    let _ : MultiByte.Tables := .asciiOnly
    let d : Disk := {
      nodes := [
        (["EN".toList], .directory), (["FR".toList], .directory),
        (["UI_EN.txt".toList, "EN".toList], .file (Utf8.encode "UI\nA = \"a\",\n".toList)),
        (["UI_x_EN.TXT".toList, "EN".toList],
          .file (Utf8.encode "UI\nB = \"b\"..\n\"c\",\nA = \"d\",\n".toList)),
        (["Tip_EN.txt".toList, "EN".toList], .file [])]
      locked := [(["Tip_EN.txt".toList, "EN".toList], .other "Permission denied".toList)] }
    let root := Path.ofString "."
    let s := Session.new "EN".toList {} {}
    let base := root.join ⟨s.baseLocale⟩
    let names := ["UI_EN.txt".toList, "UI_x_EN.TXT".toList]
    let tip := base.join ⟨"Tip_EN.txt".toList⟩
    Path.IsStem s.baseLocale ∧ d.isDirectory base = true ∧ d.resolve base = .ok ["EN".toList] ∧
      d.isListable base = true ∧
      (∀ n ∈ names, (d.node? [n, "EN".toList]).isSome = true) ∧
      (∀ n ∈ names, group? d (base.join ⟨n⟩) s.baseLocale = some "UI".toList) ∧
      (∀ n ∈ names, (d.read (base.join ⟨n⟩)).isOk = true ∧
        ∀ bytes, d.read (base.join ⟨n⟩) = .ok bytes →
          ∀ r ∈ (Table.ofText ((s.assignment.encodingOf s.baseLocale).decode bytes).text).records,
            r.key ∈ (run d root s).session.baseline.keys "UI".toList) ∧
      group? d tip s.baseLocale = some "Tip".toList ∧
      "Tip".toList ∈ (run d root s).session.baseline.groups ∧
      .unreadable tip (.other "Permission denied".toList) ∈ (run d root s).diagnostics := by
  intro tables d root s base names tip
  have plain : Path.IsStem s.baseLocale := ⟨by decide, by decide, by decide, by decide⟩
  have directory : d.isDirectory base = true := by decide +kernel
  have at_l : d.resolve base = .ok ["EN".toList] := by decide +kernel
  have listable : d.isListable base = true := by decide +kernel
  have stored : ∀ n ∈ names, (d.node? [n, "EN".toList]).isSome = true := by decide +kernel
  have assigned : ∀ n ∈ names, group? d (base.join ⟨n⟩) s.baseLocale = some "UI".toList := by
    decide +kernel
  have readable : ∀ n ∈ names, (d.read (base.join ⟨n⟩)).isOk = true := by decide +kernel
  have tip_assigned : group? d tip s.baseLocale = some "Tip".toList := by decide +kernel
  have whole := ((base_ingested d root s).2 plain _ directory at_l).2.2 listable
  obtain ⟨known, said, -⟩ := whole "Tip_EN.txt".toList _ (by decide +kernel) tip_assigned
  exact ⟨plain, directory, at_l, listable, stored, assigned, fun n member =>
    ⟨readable n member, (whole n _ (stored n member) (assigned n member)).2.2⟩, tip_assigned,
    known, said _ (by decide +kernel)⟩

/-- A survey may be completed though the base locale has no directory, or one of which nothing is
taken in because its stem is another locale. -/
theorem completed_without_base :
    let _ : MultiByte.Tables := .asciiOnly
    let file : Disk := { nodes := [(["EN".toList], .file [])] }
    let dotted : Disk := { nodes := [
      (["EN.v2".toList], .directory),
      (["UI_EN.v2.txt".toList, "EN.v2".toList], .file (Utf8.encode "UI\nA = \"a\",\n".toList))] }
    let root := Path.ofString "."
    Config.invalid? { baseLocale := "EN".toList } = none ∧
      file.isDirectory (root.join ⟨"EN".toList⟩) = false ∧
      (run file root (.new "EN".toList {} {})).outcome = .completed ∧
      Config.invalid? { baseLocale := "EN.v2".toList } = none ∧
      dotted.isDirectory (root.join ⟨"EN.v2".toList⟩) = true ∧
      group? dotted ((root.join ⟨"EN.v2".toList⟩).join ⟨"UI_EN.v2.txt".toList⟩) "EN.v2".toList =
        some "UI".toList ∧
      (run dotted root (.new "EN.v2".toList {} {})).outcome = .completed ∧
      (run dotted root (.new "EN.v2".toList {} {})).session.baseline.groups = [] := by
  decide +kernel

end LocaleLint.Survey
