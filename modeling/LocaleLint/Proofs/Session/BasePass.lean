import LocaleLint.Proofs.Baseline.Filling
import LocaleLint.Proofs.Session.Pass

/-!
# The pass through the base locale

A pass through the base locale puts the tables of its files into the baseline and reports nothing
but duplicates. `checkLocale_base` says what the baseline and the log are after it.
-/

namespace LocaleLint.Session

/-- The warning of a record whose key came earlier in its file, unless it is suppressed. -/
def duplicateWarning? (suppressed : Suppression) (locale group : Text) (earlier : List Text)
    (r : Record) : Option Warning :=
  if earlier.contains r.key &&
      !(suppressed.covers .duplicate || r.suppressed.covers .duplicate) then
    some ⟨.duplicate, locale, group, some r.line, r.key⟩
  else none

def duplicateWarnings (suppressed : Suppression) (locale group : Text) (earlier : List Text) :
    List Record → List Warning
  | [] => []
  | r :: rs =>
    (duplicateWarning? suppressed locale group earlier r).toList ++
      duplicateWarnings suppressed locale group (r.key :: earlier) rs

theorem duplicateWarning?_eq {suppressed : Suppression} {r : Record}
    (quiet : suppressed.covers .duplicate = false)
    (unmarked : r.suppressed.covers .duplicate = false) (locale group : Text)
    (earlier : List Text) :
    (duplicateWarning? suppressed locale group earlier r).toList =
      if r.key ∈ earlier then [⟨.duplicate, locale, group, some r.line, r.key⟩] else [] := by
  rw [duplicateWarning?, quiet, unmarked]
  by_cases again : r.key ∈ earlier <;> simp [again]

/-- A session in the base locale. -/
structure Filling (s : Session) : Prop where
  base : s.isBase = true
  silent : s.lineSuppressed = {}

variable {s : Session}

theorem Filling.moved (f : s.Filling) {t : Session} {line : Nat} {group : Text}
    {keys groups : List Text} {baseline : Baseline} {ws : List Warning}
    (same : t = { s with line, group, seenKeys := keys, seenGroups := groups, baseline }.logAll ws) :
    t.Filling := by
  rw [same]
  exact ⟨f.base, f.silent⟩

/-! ### One file -/

def Placed (r : Record) : Prop := r.key ≠ [] ∧ r.line ≠ 0

theorem learn_filling (base : s.isBase = true) {r : Record} (key_ne : r.key ≠ []) {earlier : List Text}
    (same : ∀ k, k ∈ s.seenKeys ↔ k ∈ earlier) :
    (s.learn r.key r.value).baseline = s.baseline.addRecord s.group earlier r := by
  unfold Baseline.addRecord
  rw [← contains_eq same]
  by_cases seen : r.key ∈ s.seenKeys
  · rw [if_pos (List.contains_iff_mem.mpr seen), s.learn_known (Or.inl seen)]
  · rw [if_neg (by simpa using seen), s.learn_fresh (not_or.mpr ⟨seen, key_ne⟩)]
    exact if_pos base

theorem problems_filling (base : s.isBase = true) (key value : Text) :
    s.problems key value = if s.seenKeys.contains key then [.duplicate] else [] := by
  have nothing : (key.isEmpty || s.isBase) = true := by simp [base]
  rw [problems, if_pos nothing]

theorem findings_filling (f : s.Filling) {r : Record} (line_ne : r.line ≠ 0) {earlier : List Text}
    (same : ∀ k, k ∈ s.seenKeys ↔ k ∈ earlier) :
    (s.findings (.checkRecord r)).filter (fun w =>
        !(s.suppressed.covers w.problem || r.suppressed.covers w.problem)) =
      (duplicateWarning? s.suppressed s.locale s.group earlier r).toList := by
  have warning : (s.atRecord r).finding .duplicate r.key s.group =
      ⟨.duplicate, s.locale, s.group, some r.line, r.key⟩ := by
    rw [finding_string _ (by decide)]
    exact congrArg (Warning.mk _ _ _ · _) (if_neg line_ne)
  unfold findings duplicateWarning?
  dsimp only
  rw [problems_filling f.base, contains_eq same]
  by_cases seen : earlier.contains r.key = true
  · rw [if_pos seen, List.map_singleton, warning, seen, Bool.true_and, List.filter_cons]
    dsimp only
    cases !(s.suppressed.covers .duplicate || r.suppressed.covers .duplicate) <;> rfl
  · rw [if_neg seen, Bool.eq_false_iff.mpr seen]
    rfl

theorem checkRecord_filling (f : s.Filling) {r : Record} (placed : Placed r) {earlier : List Text}
    (same : ∀ k, k ∈ s.seenKeys ↔ k ∈ earlier) :
    ∃ keys, (∀ k, k ∈ keys ↔ k = r.key ∨ k ∈ earlier) ∧
      s.checkRecord r = logAll
        { s with
          line := r.line, seenKeys := keys
          baseline := s.baseline.addRecord s.group earlier r }
        (duplicateWarning? s.suppressed s.locale s.group earlier r).toList := by
  obtain ⟨key_ne, line_ne⟩ := placed
  refine ⟨((s.atRecord r).learn r.key r.value).seenKeys, ?_, ?_⟩
  · intro k
    rw [mem_learn key_ne]
    exact or_congr_right (same k)
  · have learned : ((s.atRecord r).learn r.key r.value).baseline =
        s.baseline.addRecord s.group earlier r :=
      learn_filling (s := s.atRecord r) f.base key_ne same
    have left : s.after (.checkRecord r) =
        { s with
          line := r.line, seenKeys := ((s.atRecord r).learn r.key r.value).seenKeys
          baseline := s.baseline.addRecord s.group earlier r } := by
      change { (s.atRecord r).learn r.key r.value with lineSuppressed := {} } = _
      rw [learn_frame, learned, ← f.silent]
      rfl
    have told := step_eq s f.silent (.checkRecord r)
    change s.checkRecord r = logAll _ ((s.findings (.checkRecord r)).filter fun w =>
      !(s.suppressed.covers w.problem || r.suppressed.covers w.problem)) at told
    rwa [findings_filling f line_ne same, left] at told

theorem foldl_checkRecord_filling (f : s.Filling) {rs : List Record} (placed : ∀ r ∈ rs, Placed r)
    (earlier : List Text) (same : ∀ k, k ∈ s.seenKeys ↔ k ∈ earlier) :
    ∃ line keys, (∀ k, k ∈ keys ↔ k ∈ earlier ∨ k ∈ rs.map (·.key)) ∧
      rs.foldl checkRecord s = logAll
        { s with line, seenKeys := keys, baseline := s.baseline.addRecords s.group earlier rs }
        (duplicateWarnings s.suppressed s.locale s.group earlier rs) := by
  induction rs generalizing s earlier with
  | nil => exact ⟨s.line, s.seenKeys, by simpa using same, s.logAll_nil.symm⟩
  | cons r rs ih =>
    obtain ⟨seen, mem_seen, first⟩ := checkRecord_filling f (placed r List.mem_cons_self) same
    have next : (s.checkRecord r).Filling := f.moved first
    -- The seen keys are those of the earlier records up to order, and only this is kept.
    have mem_next : ∀ k, k ∈ (s.checkRecord r).seenKeys ↔ k ∈ r.key :: earlier := by
      intro k
      rw [first, List.mem_cons]
      exact mem_seen k
    obtain ⟨line, keys, mem_keys, rest⟩ :=
      ih next (fun x later => placed x (List.mem_cons_of_mem _ later)) _ mem_next
    refine ⟨line, keys, ?_, ?_⟩
    · intro k
      rw [mem_keys, List.mem_cons, List.map_cons, List.mem_cons]
      exact or_assoc.trans or_left_comm
    · rw [List.foldl_cons, rest, first]
      exact logAll_logAll { s with line, seenKeys := keys, baseline := _ } _ _

theorem hasBase_filling (f : s.Filling) (group : Text) : s.hasBase group = true := by
  simp [hasBase, f.base]

theorem closeFile_filling (f : s.Filling) (lineCount : Nat) :
    s.closeFile lineCount = { s with line := lineCount } :=
  if_pos f.base

theorem leaveLocale_filling (f : s.Filling) : s.leaveLocale = s := if_pos f.base

/-- A file with its table; one that cannot be read has an empty table. -/
def tableOf (f : Text × Option Table) : Text × Table := (f.1, f.2.getD (.ofText []))

theorem map_tableOf_readable (files : List (Text × Table)) :
    (files.map fun f => (f.1, some f.2)).map tableOf = files := by
  rw [List.map_map]
  exact List.map_id _

theorem checkFound_filling (f : s.Filling) (x : Text × Option Table)
    (placed : ∀ r ∈ (tableOf x).2.records, Placed r) :
    ∃ line keys, s.checkFound x.1 x.2 = logAll
      { s with
        line, group := x.1, seenKeys := keys, seenGroups := x.1 :: s.seenGroups
        baseline := s.baseline.addTable x.1 (tableOf x).2 }
      (duplicateWarnings s.suppressed s.locale x.1 [] (tableOf x).2.records) := by
  obtain ⟨group, table?⟩ := x
  have opened : s.openFile group =
      { s with
        line := 0, group, seenKeys := [], seenGroups := group :: s.seenGroups
        baseline := s.baseline.addGroup group } := by
    rw [openFile, if_pos f.base]
  have next : (s.openFile group).Filling := f.moved (opened.trans (logAll_nil _).symm)
  have known := hasBase_filling f group
  cases table? with
  | none =>
    refine ⟨0, [], ?_⟩
    have only : s.checkFound group none = s.openFile group := if_pos known
    rw [only, opened]
    exact (logAll_nil _).symm
  | some t =>
    have records : ∀ r ∈ t.records, Placed r := placed
    obtain ⟨line, keys, -, read⟩ := foldl_checkRecord_filling next records [] fun _ => Iff.rfl
    have whole : (t.records.foldl checkRecord (s.openFile group)).Filling := next.moved read
    refine ⟨t.lineCount, keys, ?_⟩
    have file : s.checkFound group (some t) = (s.openFile group).checkTable t := if_pos known
    rw [file, checkTable, closeFile_filling whole, read, opened]
    rfl

/-! ### All files -/

theorem foldl_checkFound_filling (f : s.Filling) {files : List (Text × Option Table)}
    (placed : ∀ x ∈ files.map tableOf, ∀ r ∈ x.2.records, Placed r) :
    ∃ line group keys groups, files.foldl (fun s x => s.checkFound x.1 x.2) s = logAll
      { s with
        line, group, seenKeys := keys, seenGroups := groups
        baseline := s.baseline.addTables (files.map tableOf) }
      ((files.map tableOf).flatMap fun x =>
        duplicateWarnings s.suppressed s.locale x.1 [] x.2.records) := by
  induction files generalizing s with
  | nil => exact ⟨s.line, s.group, s.seenKeys, s.seenGroups, s.logAll_nil.symm⟩
  | cons x files ih =>
    obtain ⟨here, later⟩ := List.forall_mem_cons.mp placed
    obtain ⟨line₁, keys₁, first⟩ := checkFound_filling f x here
    have next : (s.checkFound x.1 x.2).Filling := f.moved first
    obtain ⟨line, group, keys, groups, rest⟩ := ih next later
    refine ⟨line, group, keys, groups, ?_⟩
    rw [List.foldl_cons, rest, first]
    exact logAll_logAll
      { s with line, group, seenKeys := keys, seenGroups := groups, baseline := _ } _ _

theorem checkAll_filling (silent : s.lineSuppressed = {}) {files : List (Text × Option Table)}
    (placed : ∀ x ∈ files.map tableOf, ∀ r ∈ x.2.records, Placed r) :
    (s.checkAll s.baseLocale files).baseline = s.baseline.addTables (files.map tableOf) ∧
      (s.checkAll s.baseLocale files).log.toList = s.log.toList ++
        (files.map tableOf).flatMap fun x =>
          duplicateWarnings s.suppressed s.baseLocale x.1 [] x.2.records := by
  have entered : (s.enterLocale s.baseLocale).Filling := ⟨by simp [isBase, enterLocale], silent⟩
  obtain ⟨line, group, keys, groups, checked⟩ := foldl_checkFound_filling entered placed
  have last := leaveLocale_filling (entered.moved checked)
  rw [checkAll, last, checked]
  exact ⟨rfl, by simp [logAll, enterLocale]⟩

theorem checkLocale_filling (silent : s.lineSuppressed = {}) {files : List (Text × Table)}
    (placed : ∀ x ∈ files, ∀ r ∈ x.2.records, Placed r) :
    (s.checkLocale s.baseLocale files).baseline = s.baseline.addTables files ∧
      (s.checkLocale s.baseLocale files).log.toList = s.log.toList ++
        files.flatMap fun x => duplicateWarnings s.suppressed s.baseLocale x.1 [] x.2.records := by
  have readable := map_tableOf_readable files
  have placed' : ∀ x ∈ (files.map fun f => (f.1, some f.2)).map tableOf,
      ∀ r ∈ x.2.records, Placed r := by rwa [readable]
  have whole := checkAll_filling silent placed'
  rwa [readable] at whole

theorem placed_ofText {text : Text} : ∀ r ∈ (Table.ofText text).records, Placed r := by
  intro r inside
  obtain ⟨key_ne, first, -⟩ := Table.record_place inside
  exact ⟨key_ne, by omega⟩

/-- After a pass through the base locale from a fresh start the baseline has the groups of the
files, also of those without records, and in each group the keys of all its tables, both in the
order in which they came up. The entry of a key has the value of the first record with the key in
the last table of the group that has one. The log holds a warning for each record whose key came
earlier in its file, less those that are suppressed. -/
theorem checkLocale_base (s : Session) (files : List (Text × Text)) :
    let tables := files.map fun f => (f.1, Table.ofText f.2)
    let t := s.reset.checkLocale s.baseLocale tables
    t.baseline.groups = (files.map (·.1)).eraseDups ∧
      (∀ group, t.baseline.keys group = (keysOf (tablesOf group tables)).eraseDups) ∧
      (∀ group key, t.baseline.get? group key =
        (decidingRecord? (tablesOf group tables) key).map fun r =>
          ⟨r.value, Placeholder.count r.value⟩) ∧
      t.log.toList = tables.flatMap fun x =>
        duplicateWarnings s.suppressed s.baseLocale x.1 [] x.2.records := by
  intro tables t
  have placed : ∀ x ∈ tables, ∀ r ∈ x.2.records, Placed r := by
    intro x member
    obtain ⟨f, -, rfl⟩ := List.mem_map.mp member
    exact placed_ofText
  obtain ⟨baseline, log⟩ := checkLocale_filling (s := s.reset) rfl placed
  change t.baseline = ({} : Baseline).addTables tables at baseline
  refine ⟨?_, fun group => ?_, fun group key => ?_, log⟩
  · have names : tables.map (·.1) = files.map (·.1) := by simp [tables]
    rw [baseline, Baseline.groups_addTables, names]
    exact Baseline.foldl_noteName _
  · rw [baseline, Baseline.keys_addTables]
    exact Baseline.foldl_noteName _
  · rw [baseline, Baseline.get?_addTables]
    exact Option.or_none

end Session
end LocaleLint
