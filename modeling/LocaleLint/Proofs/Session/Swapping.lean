import LocaleLint.Proofs.Session.Conforming
import LocaleLint.Proofs.Session.Course

/-!
# Swapping the base locale

Two locales are compared with either of them as the base. What one comparison finds missing the
other finds extra, and values that are equal or differ in their placeholders do so both ways.
`comparison?_swap` says this of one key and `reports_swap` of the two reports.
-/

namespace LocaleLint

/-- What becomes of a problem when the base locale and the other one change places. -/
def Problem.swapped : Problem → Problem
  | .missing => .extra
  | .extra => .missing
  | .missingFile => .extraFile
  | .extraFile => .missingFile
  | .identical => .identical
  | .duplicate => .duplicate
  | .substitutionCount => .substitutionCount

theorem Problem.swapped_injective : Function.Injective Problem.swapped := by
  intro p q same
  cases p <;> cases q <;> first | rfl | cases same

/-- The value that the files of a group have for a key. -/
def valueIn? (files : List (Text × Table)) (group key : Text) : Option Text :=
  (decidingRecord? (tablesOf group files) key).map (·.value)

/-- What is wrong with a key that has these values, if any, in the base locale and in another. -/
def comparison? : Option Text → Option Text → Option Problem
  | none, none => none
  | some _, none => some .missing
  | none, some _ => some .extra
  | some base, some value =>
    if base = value then some .identical
    else if (Placeholder.found base).length ≠ (Placeholder.found value).length then
      some .substitutionCount
    else none

/-- What is wrong with a file that the base locale has, or not, and another locale has, or not. -/
def fileComparison? : Bool → Bool → Option Problem
  | true, false => some .missingFile
  | false, true => some .extraFile
  | _, _ => none

theorem comparison?_swap (base value : Option Text) :
    comparison? value base = (comparison? base value).map Problem.swapped := by
  cases base with
  | none => cases value <;> rfl
  | some base =>
    cases value with
    | none => rfl
    | some value =>
      by_cases equal : base = value
      · simp [comparison?, equal, Problem.swapped]
      · by_cases counts : (Placeholder.found base).length = (Placeholder.found value).length
        · simp [comparison?, equal, Ne.symm equal, counts]
        · simp [comparison?, equal, Ne.symm equal, counts, Ne.symm counts, Problem.swapped]

theorem comparison?_swap_iff {base value : Option Text} {p : Problem} :
    comparison? value base = some p.swapped ↔ comparison? base value = some p := by
  rw [comparison?_swap, Option.map_eq_some_iff]
  constructor
  · rintro ⟨q, found, same⟩
    rwa [Problem.swapped_injective same] at found
  · exact fun found => ⟨p, found, rfl⟩

theorem fileComparison?_swap_iff {base other : Bool} {p : Problem} :
    fileComparison? other base = some p.swapped ↔ fileComparison? base other = some p := by
  cases base <;> cases other <;> cases p <;> decide

/-! ### Files of different groups -/

theorem tablesOf_of_not_mem {files : List (Text × Table)} {group : Text}
    (absent : group ∉ files.map (·.1)) : tablesOf group files = [] := by
  rw [tablesOf, List.map_eq_nil_iff, List.filter_eq_nil_iff]
  intro f member same
  exact absent (List.mem_map.mpr ⟨f, member, of_decide_eq_true same⟩)

theorem tablesOf_of_nodup {files : List (Text × Table)} {group : Text}
    (distinct : (files.map (·.1)).Nodup) (present : group ∈ files.map (·.1)) :
    ∃ t, tablesOf group files = [t] := by
  induction files with
  | nil => cases present
  | cons f files ih =>
    rw [List.map_cons, List.nodup_cons] at distinct
    rw [Baseline.tablesOf_cons]
    by_cases here : group = f.1
    · refine ⟨f.2, ?_⟩
      rw [if_pos here, tablesOf_of_not_mem (here ▸ distinct.1)]
    · rw [if_neg here]
      exact ih distinct.2 ((List.mem_cons.mp present).resolve_left here)

namespace Session

def warningsAgainst (assignment : Assignment) (base : Text) (baseFiles : List (Text × Table))
    (locale : Text) (files : List (Text × Table)) : List Warning :=
  let filled := (new base {} assignment).checkLocale base baseFiles
  (filled.checkLocale locale files).log.toList.filter fun w => w.locale = locale

/-- How often a problem is reported of a key. -/
def reports (ws : List Warning) (p : Problem) (group key : Text) : Nat :=
  ws.countP fun w => w.problem = p ∧ w.group = group ∧ w.subject = key

def fileReports (ws : List Warning) (p : Problem) (group : Text) : Nat :=
  ws.countP fun w => w.problem = p ∧ w.group = group

/-- The problems that one of two values of a key has, and those that a file has. -/
def keyProblems : List Problem := [.missing, .extra, .identical, .substitutionCount]

def fileProblems : List Problem := [.missingFile, .extraFile]

variable {b : Baseline} {locale group key : Text} {p : Problem}

/-! ### The warnings of one file -/

theorem reports_recordWarnings (single : p ≠ .duplicate) (earlier : List Text) (rs : List Record) :
    reports (recordWarnings b locale group earlier rs) p group key =
      if key ∉ earlier ∧ ((rs.find? fun r => r.key = key).bind fun r =>
          comparison? ((b.get? group key).map (·.value)) (some r.value)) = some p then 1
      else 0 := by
  induction rs generalizing earlier with
  | nil => simp [reports, recordWarnings]
  | cons r rs ih =>
    have split : reports (recordWarnings b locale group earlier (r :: rs)) p group key =
        reports (recordWarning? b locale group earlier r).toList p group key +
          reports (recordWarnings b locale group (r.key :: earlier) rs) p group key :=
      List.countP_append
    rw [split, ih]
    by_cases here : r.key = key
    · subst here
      have later : ¬ (r.key ∉ r.key :: earlier) := by simp
      rw [if_neg (fun h => later h.1), Nat.add_zero, List.find?_cons_of_pos (by simp),
        Option.bind_some]
      unfold recordWarning? verdict?
      by_cases seen : r.key ∈ earlier
      · simp [reports, seen, Ne.symm single]
      · rw [if_neg (by simpa using seen)]
        cases b.get? group r.key with
        | none => by_cases same : p = .extra <;> simp [reports, comparison?, seen, same, eq_comm]
        | some e =>
          by_cases equal : e.value = r.value
          · simp [reports, comparison?, seen, equal]
          · by_cases counts :
              (Placeholder.found e.value).length = (Placeholder.found r.value).length <;>
              simp [reports, comparison?, seen, equal, counts]
    · have nothing : reports (recordWarning? b locale group earlier r).toList p group key = 0 := by
        unfold recordWarning?
        cases verdict? b group earlier r <;> simp [reports, here]
      rw [nothing, Nat.zero_add, List.find?_cons_of_neg (by simpa using here)]
      simp [Ne.symm here]

theorem reports_missingWarnings (once : (b.keys group).Nodup) (t : Table) :
    reports (missingWarnings b locale group t) p group key =
      if p = .missing ∧ (b.get? group key).isSome = true ∧ key ∉ t.records.map (·.key) then 1
      else 0 := by
  unfold reports missingWarnings
  rw [List.countP_map]
  by_cases missing : p = .missing
  · have named : ((fun w : Warning => decide (w.problem = p ∧ w.group = group ∧ w.subject = key)) ∘
        fun k => ⟨.missing, locale, group, some t.lineCount, k⟩) = fun k => k == key := by
      funext k
      simp [missing, beq_eq_decide]
    have distinct := once.filter fun k => !(t.records.map (·.key)).contains k
    rw [named, ← List.count, distinct.count]
    simp [missing, List.mem_filter, Baseline.mem_keys_iff]
  · simp [missing, Ne.symm missing]

theorem reports_fileWarnings (once : (b.keys group).Nodup) (about : p ∈ keyProblems) (t : Table) :
    reports (fileWarnings b locale group t) p group key =
      if group ∈ b.groups ∧ comparison? ((b.get? group key).map (·.value))
          ((t.records.find? fun r => r.key = key).map (·.value)) = some p then 1
      else 0 := by
  have single : p ≠ .duplicate := fun same => absurd (same ▸ about) (by decide)
  unfold fileWarnings
  by_cases known : group ∈ b.groups
  · have both : reports (recordWarnings b locale group [] t.records ++
        missingWarnings b locale group t) p group key =
        reports (recordWarnings b locale group [] t.records) p group key +
          reports (missingWarnings b locale group t) p group key := List.countP_append
    rw [if_pos (List.contains_iff_mem.mpr known), both, reports_recordWarnings single,
      reports_missingWarnings once]
    cases found : t.records.find? fun r => r.key = key with
    | none =>
      have lacks : key ∉ t.records.map (·.key) := by
        intro present
        obtain ⟨r, inside, same⟩ := List.mem_map.mp present
        exact List.find?_eq_none.mp found r inside (decide_eq_true same)
      cases b.get? group key <;> simp [known, lacks, comparison?, eq_comm]
    | some r =>
      have has : key ∈ t.records.map (·.key) :=
        List.mem_map.mpr ⟨r, List.mem_of_find?_eq_some found, by simpa using List.find?_some found⟩
      simp [known, has]
  · have extra : p ≠ .extraFile := fun same => absurd (same ▸ about) (by decide)
    rw [if_neg (by simpa using known)]
    simp [reports, known, Ne.symm extra]

/-! ### The warnings of a pass -/

theorem verdict?_isFileLevel {earlier : List Text} {r : Record}
    (found : verdict? b group earlier r = some p) : p.isFileLevel = false := by
  unfold verdict? at found
  split at found
  · cases found
    rfl
  · split at found
    · cases found
      rfl
    · split at found
      · cases found
        rfl
      · split at found
        · cases found
          rfl
        · cases found

theorem of_mem_recordWarnings {earlier : List Text} {rs : List Record} {w : Warning}
    (member : w ∈ recordWarnings b locale group earlier rs) :
    w.group = group ∧ w.problem.isFileLevel = false := by
  induction rs generalizing earlier with
  | nil => cases member
  | cons r rs ih =>
    rcases List.mem_append.mp member with here | later
    · obtain ⟨p, found, rfl⟩ := Option.map_eq_some_iff.mp (Option.mem_toList.mp here)
      exact ⟨rfl, verdict?_isFileLevel found⟩
    · exact ih later

theorem of_mem_missingWarnings {t : Table} {w : Warning}
    (member : w ∈ missingWarnings b locale group t) :
    w.group = group ∧ w.problem.isFileLevel = false := by
  obtain ⟨k, -, rfl⟩ := List.mem_map.mp member
  exact ⟨rfl, rfl⟩

theorem group_of_mem_fileWarnings {t : Table} {w : Warning}
    (member : w ∈ fileWarnings b locale group t) : w.group = group := by
  unfold fileWarnings at member
  split at member
  · rcases List.mem_append.mp member with record | missing
    · exact (of_mem_recordWarnings record).1
    · exact (of_mem_missingWarnings missing).1
  · rw [List.mem_singleton.mp member]

theorem fileReports_fileWarnings (fileLevel : p.isFileLevel = true) (t : Table) :
    fileReports (fileWarnings b locale group t) p group =
      if p = .extraFile ∧ group ∉ b.groups then 1 else 0 := by
  unfold fileWarnings fileReports
  by_cases known : group ∈ b.groups
  · rw [if_pos (List.contains_iff_mem.mpr known), if_neg (fun h => h.2 known), List.countP_eq_zero]
    intro w member counted
    have level : w.problem.isFileLevel = false := by
      rcases List.mem_append.mp member with record | missing
      · exact (of_mem_recordWarnings record).2
      · exact (of_mem_missingWarnings missing).2
    rw [(of_decide_eq_true counted).1, fileLevel] at level
    cases level
  · rw [if_neg (by simpa using known)]
    simp [known, eq_comm, List.countP_cons]

theorem fileReports_missingFileWarnings (once : b.groups.Nodup) (groups : List Text) :
    fileReports (missingFileWarnings b locale groups) p group =
      if p = .missingFile ∧ group ∈ b.groups ∧ group ∉ groups then 1 else 0 := by
  unfold fileReports missingFileWarnings
  rw [List.countP_map]
  by_cases missing : p = .missingFile
  · have named : ((fun w : Warning => decide (w.problem = p ∧ w.group = group)) ∘
        fun g => ⟨.missingFile, locale, g, none, g ++ '_' :: locale⟩) = fun g => g == group := by
      funext g
      simp [missing, beq_eq_decide]
    have distinct := once.filter fun g => !groups.contains g
    rw [named, ← List.count, distinct.count]
    simp [missing, List.mem_filter]
  · simp [missing, Ne.symm missing]

/-- Warnings about a group come from the files of the group. -/
theorem countP_files {q : Warning → Bool} (about : ∀ w, q w = true → w.group = group)
    (files : List (Text × Table)) :
    (files.flatMap fun f => fileWarnings b locale f.1 f.2).countP q =
      ((tablesOf group files).map fun t => (fileWarnings b locale group t).countP q).sum := by
  induction files with
  | nil => rfl
  | cons f files ih =>
    rw [List.flatMap_cons, List.countP_append, ih, Baseline.tablesOf_cons]
    by_cases here : group = f.1
    · rw [if_pos here, List.map_cons, List.sum_cons, here]
    · have nothing : (fileWarnings b locale f.1 f.2).countP q = 0 := by
        rw [List.countP_eq_zero]
        intro w member counted
        exact here ((about w counted).symm.trans (group_of_mem_fileWarnings member))
      rw [if_neg here, nothing, Nat.zero_add]

variable {files : List (Text × Table)}

theorem reports_passWarnings (sound : b.Sound) (distinct : (files.map (·.1)).Nodup)
    (about : p ∈ keyProblems) :
    reports (passWarnings b locale files) p group key =
      if group ∈ b.groups ∧ group ∈ files.map (·.1) ∧
          comparison? ((b.get? group key).map (·.value)) (valueIn? files group key) = some p then 1
      else 0 := by
  have files_only : reports (missingFileWarnings b locale (files.map (·.1))) p group key = 0 := by
    have other : p ≠ .missingFile := fun same => absurd (same ▸ about) (by decide)
    simp [reports, missingFileWarnings, Ne.symm other]
  have split : reports (passWarnings b locale files) p group key =
      reports (files.flatMap fun f => fileWarnings b locale f.1 f.2) p group key +
        reports (missingFileWarnings b locale (files.map (·.1))) p group key := List.countP_append
  have own : reports (files.flatMap fun f => fileWarnings b locale f.1 f.2) p group key =
      ((tablesOf group files).map fun t =>
        reports (fileWarnings b locale group t) p group key).sum :=
    countP_files (fun w counted => (of_decide_eq_true counted).2.1) files
  rw [split, files_only, own, Nat.add_zero]
  by_cases present : group ∈ files.map (·.1)
  · obtain ⟨t, only⟩ := tablesOf_of_nodup distinct present
    have value : valueIn? files group key =
        (t.records.find? fun r => r.key = key).map (·.value) := by
      simp [valueIn?, only, decidingRecord?]
    rw [only, List.map_singleton, List.sum_singleton, reports_fileWarnings (sound.keys group) about,
      value]
    simp only [present, true_and]
  · rw [tablesOf_of_not_mem present]
    simp [present]

theorem fileReports_passWarnings (sound : b.Sound) (distinct : (files.map (·.1)).Nodup)
    (about : p ∈ fileProblems) :
    fileReports (passWarnings b locale files) p group =
      if fileComparison? (b.groups.contains group) ((files.map (·.1)).contains group) = some p then
        1
      else 0 := by
  have fileLevel : p.isFileLevel = true :=
    (show ∀ p ∈ fileProblems, p.isFileLevel = true by decide) p about
  have split : fileReports (passWarnings b locale files) p group =
      fileReports (files.flatMap fun f => fileWarnings b locale f.1 f.2) p group +
        fileReports (missingFileWarnings b locale (files.map (·.1))) p group := List.countP_append
  have own : fileReports (files.flatMap fun f => fileWarnings b locale f.1 f.2) p group =
      ((tablesOf group files).map fun t =>
        fileReports (fileWarnings b locale group t) p group).sum :=
    countP_files (fun w counted => (of_decide_eq_true counted).2) files
  rw [split, own, fileReports_missingFileWarnings sound.groups]
  by_cases present : group ∈ files.map (·.1)
  · obtain ⟨t, only⟩ := tablesOf_of_nodup distinct present
    rw [only, List.map_singleton, List.sum_singleton, fileReports_fileWarnings fileLevel,
      List.contains_iff_mem.mpr present]
    by_cases known : group ∈ b.groups <;> simp [fileComparison?, present, known, eq_comm]
  · rw [tablesOf_of_not_mem present]
    by_cases known : group ∈ b.groups <;> simp [fileComparison?, present, known, eq_comm]

/-! ### Both comparisons -/

/-- At most one file of each group, and no directives. -/
structure Comparable (files : List (Text × Table)) : Prop where
  distinct : (files.map (·.1)).Nodup
  plain : ∀ f ∈ files, PlainTable f.2

theorem comparable_ofText {files : List (Text × Text)} (distinct : (files.map (·.1)).Nodup)
    (unmarked : ∀ f ∈ files, ∀ r ∈ (Table.ofText f.2).records, r.suppressed = {}) :
    Comparable (files.map fun f => (f.1, Table.ofText f.2)) := by
  constructor
  · rwa [List.map_map]
  · intro f member
    obtain ⟨file, here, rfl⟩ := List.mem_map.mp member
    exact plainTable_ofText (unmarked file here)

variable {base : Text} {baseFiles : List (Text × Table)}

theorem warningsAgainst_eq (assignment : Assignment) (different : locale ≠ base)
    (comparableBase : Comparable baseFiles) (comparable : Comparable files) :
    let filled := ({} : Baseline).addTables baseFiles
    filled.Sound ∧ warningsAgainst assignment base baseFiles locale files =
      passWarnings filled locale files := by
  intro filled
  let s := (new base {} assignment).checkLocale base baseFiles
  have placed : ∀ f ∈ baseFiles, ∀ r ∈ f.2.records, Placed r := by
    intro f member r inside
    obtain ⟨key_ne, line_ne, -⟩ := (comparableBase.plain f member).1 r inside
    exact ⟨key_ne, line_ne⟩
  have sound : s.Sound := reachable_sound (reachable_checkLocale (.new _ _ _) base baseFiles)
  have baseline : s.baseline = filled :=
    (checkLocale_filling (s := new base {} assignment) rfl placed).1
  obtain ⟨baseLocale, suppressed, -⟩ := (new base {} assignment).checkLocale_settings base baseFiles
  have other : locale ≠ s.baseLocale := by rwa [baseLocale]
  have logged := checkLocale_comparing sound suppressed other comparable.plain
  obtain ⟨earlier, first, about_base⟩ :=
    checkLocale_added (s := new base {} assignment) rfl base baseFiles
  obtain ⟨ws, rest, about_other⟩ := checkLocale_added sound.silent locale files
  have same : passWarnings filled locale files = ws := by
    rw [← baseline]
    exact List.append_cancel_left (logged.symm.trans rest)
  have nothing : s.log.toList.filter (fun w => w.locale = locale) = [] := by
    rw [List.filter_eq_nil_iff, first]
    intro w member here
    exact different ((of_decide_eq_true here).symm.trans (about_base w member))
  refine ⟨baseline ▸ sound.baseline, ?_⟩
  change (s.checkLocale locale files).log.toList.filter _ = _
  rw [rest, List.filter_append, nothing, List.nil_append, same, List.filter_eq_self]
  exact fun w member => decide_eq_true (about_other w member)

theorem reports_warningsAgainst (assignment : Assignment) (different : locale ≠ base)
    (comparableBase : Comparable baseFiles) (comparable : Comparable files)
    (about : p ∈ keyProblems) (group key : Text) :
    reports (warningsAgainst assignment base baseFiles locale files) p group key =
      if group ∈ baseFiles.map (·.1) ∧ group ∈ files.map (·.1) ∧
          comparison? (valueIn? baseFiles group key) (valueIn? files group key) = some p then 1
      else 0 := by
  obtain ⟨sound, told⟩ := warningsAgainst_eq assignment different comparableBase comparable
  have value : ((({} : Baseline).addTables baseFiles).get? group key).map (·.value) =
      valueIn? baseFiles group key := by
    rw [Baseline.get?_addTables, valueIn?]
    change Option.map _ (Option.or _ none) = _
    rw [Option.or_none, Option.map_map]
    rfl
  rw [told, reports_passWarnings sound comparable.distinct about, value]
  simp only [mem_groups_filled]

theorem fileReports_warningsAgainst (assignment : Assignment) (different : locale ≠ base)
    (comparableBase : Comparable baseFiles) (comparable : Comparable files)
    (about : p ∈ fileProblems) (group : Text) :
    fileReports (warningsAgainst assignment base baseFiles locale files) p group =
      if fileComparison? ((baseFiles.map (·.1)).contains group)
          ((files.map (·.1)).contains group) = some p then 1
      else 0 := by
  obtain ⟨sound, told⟩ := warningsAgainst_eq assignment different comparableBase comparable
  rw [told, fileReports_passWarnings sound comparable.distinct about,
    contains_eq fun g => mem_groups_filled]

/-- For two locales with at most one file of each group and without directives, a key or a file is
reported as often when the second is compared with the first as it is, for the swapped problem, when
the first is compared with the second: what is missing one way is extra the other way, for keys and
for files, and identical values and different numbers of placeholders are found both ways. None of
these is reported twice. -/
theorem reports_swap (first second : Assignment) {a b : Text} (different : a ≠ b)
    {filesA filesB : List (Text × Text)} (distinctA : (filesA.map (·.1)).Nodup)
    (distinctB : (filesB.map (·.1)).Nodup)
    (unmarkedA : ∀ f ∈ filesA, ∀ r ∈ (Table.ofText f.2).records, r.suppressed = {})
    (unmarkedB : ∀ f ∈ filesB, ∀ r ∈ (Table.ofText f.2).records, r.suppressed = {}) :
    let tables := fun files : List (Text × Text) => files.map fun f => (f.1, Table.ofText f.2)
    let left := warningsAgainst first a (tables filesA) b (tables filesB)
    let right := warningsAgainst second b (tables filesB) a (tables filesA)
    (∀ p ∈ keyProblems, ∀ group key,
        reports left p group key = reports right p.swapped group key ∧
          reports left p group key ≤ 1) ∧
      ∀ p ∈ fileProblems, ∀ group,
        fileReports left p group = fileReports right p.swapped group ∧
          fileReports left p group ≤ 1 := by
  intro tables left right
  have comparableA := comparable_ofText distinctA unmarkedA
  have comparableB := comparable_ofText distinctB unmarkedB
  constructor
  · intro p about group key
    have about' : p.swapped ∈ keyProblems :=
      (show ∀ p ∈ keyProblems, p.swapped ∈ keyProblems by decide) p about
    have there :=
      reports_warningsAgainst first (Ne.symm different) comparableA comparableB about group key
    have back :=
      reports_warningsAgainst second different comparableB comparableA about' group key
    refine ⟨?_, ?_⟩
    · rw [there, back]
      simp only [comparison?_swap_iff, and_left_comm]
    · rw [there]
      split <;> omega
  · intro p about group
    have about' : p.swapped ∈ fileProblems :=
      (show ∀ p ∈ fileProblems, p.swapped ∈ fileProblems by decide) p about
    have there :=
      fileReports_warningsAgainst first (Ne.symm different) comparableA comparableB about group
    have back :=
      fileReports_warningsAgainst second different comparableB comparableA about' group
    refine ⟨?_, ?_⟩
    · rw [there, back]
      simp only [fileComparison?_swap_iff]
    · rw [there]
      split <;> omega

theorem reports_swap_english_french :
    let english := [
      ("UI".toList, "UI\nA = \"%1\",\nB = \"b\",\nC = \"c\",\nB = \"x\",\n".toList),
      ("Tip".toList, "Tip\nT = \"t\",\n".toList)]
    let french := [("Old".toList, "Old\n".toList),
      ("UI".toList, "UI\nB = \"b\",\nA = \"a\",\nA = \"%1\",\nD = \"d\",\n".toList)]
    let tables := fun files : List (Text × Text) => files.map fun f => (f.1, Table.ofText f.2)
    let left := warningsAgainst {} "EN".toList (tables english) "FR".toList (tables french)
    let right := warningsAgainst {} "FR".toList (tables french) "EN".toList (tables english)
    "EN".toList ≠ "FR".toList ∧ (english.map (·.1)).Nodup ∧ (french.map (·.1)).Nodup ∧
      (∀ f ∈ english, ∀ r ∈ (Table.ofText f.2).records, r.suppressed = {}) ∧
      (∀ f ∈ french, ∀ r ∈ (Table.ofText f.2).records, r.suppressed = {}) ∧
      left.map (·.problem) =
        [.extraFile, .identical, .substitutionCount, .duplicate, .extra, .missing, .missingFile] ∧
      reports left .missing "UI".toList "C".toList = reports right .extra "UI".toList "C".toList ∧
      reports left .substitutionCount "UI".toList "A".toList =
        reports right .substitutionCount "UI".toList "A".toList ∧
      fileReports left .missingFile "Tip".toList = fileReports right .extraFile "Tip".toList := by
  intro english french tables left right
  have different : "EN".toList ≠ "FR".toList := by decide +kernel
  have distinct_english : (english.map (·.1)).Nodup := by decide +kernel
  have distinct_french : (french.map (·.1)).Nodup := by decide +kernel
  have unmarked_english : ∀ f ∈ english, ∀ r ∈ (Table.ofText f.2).records, r.suppressed = {} := by
    decide +kernel
  have unmarked_french : ∀ f ∈ french, ∀ r ∈ (Table.ofText f.2).records, r.suppressed = {} := by
    decide +kernel
  obtain ⟨keys, groups⟩ := reports_swap {} {} different distinct_english distinct_french
    unmarked_english unmarked_french
  refine ⟨different, distinct_english, distinct_french, unmarked_english, unmarked_french,
    by decide +kernel, ?_, ?_, ?_⟩
  · exact (keys .missing (by decide) _ _).1
  · exact (keys .substitutionCount (by decide) _ _).1
  · exact (groups .missingFile (by decide) _).1

end Session
end LocaleLint
