import LocaleLint.Proofs.Session.Conforming
import LocaleLint.Proofs.Session.Course

/-!
# Locales with the keys of the base files

A locale whose files have the groups and keys of the base files, in the same order, has nothing
extra and lacks no file. A key can still be missing from it: each of its files has to have the keys
of all base files of the group.
-/

namespace LocaleLint

/-- Whether the problem is that one of two locales has what the other lacks. -/
def Problem.isOneSided : Problem → Bool
  | .extra | .extraFile | .missing | .missingFile => true
  | .duplicate | .identical | .substitutionCount => false

def outline (file : Text × Table) : Text × List Text := (file.1, file.2.records.map (·.key))

def keyed (file : Text × Table) : Text × Table :=
  (file.1, { file.2 with records := file.2.records.filter fun r => r.key ≠ [] })

/-- The keys of a group in the order in which its files bring them up. -/
def groupKeys (group : Text) (files : List (Text × Table)) : List Text :=
  ((keysOf (tablesOf group files)).filter fun k => k ≠ []).eraseDups

theorem keysOf_keyed (group : Text) (files : List (Text × Table)) :
    keysOf (tablesOf group (files.map keyed)) =
      (keysOf (tablesOf group files)).filter fun k => k ≠ [] := by
  induction files with
  | nil => rfl
  | cons f files ih =>
    have here : (keyed f).2.records.map (·.key) =
        (f.2.records.map (·.key)).filter fun k => k ≠ [] := by
      rw [List.filter_map]
      rfl
    rw [List.map_cons, Baseline.tablesOf_cons, Baseline.tablesOf_cons]
    change keysOf (if group = f.1 then _ else _) = _
    split
    · rw [keysOf, keysOf, List.flatMap_cons, List.flatMap_cons, List.filter_append, here]
      exact congrArg _ ih
    · exact ih

namespace Session

def oneSided (ws : List Warning) : List Warning := ws.filter fun w => w.problem.isOneSided

/-- One warning for each of the keys that a file lacks, unless missing keys are suppressed. -/
def lackingWarnings (suppressed : Suppression) (locale : Text) (keys : List Text)
    (file : Text × Table) : List Warning :=
  if suppressed.covers .missing then []
  else
    (keys.filter fun k => !(file.2.records.map (·.key)).contains k).map fun k =>
      ⟨.missing, locale, file.1, if file.2.lineCount = 0 then none else some file.2.lineCount, k⟩

variable {s : Session}

/-! ### Records -/

theorem learn_atRecord (s : Session) (r : Record) (key value : Text) :
    (s.atRecord r).learn key value =
      { s.learn key value with line := r.line, lineSuppressed := r.suppressed } := by
  by_cases known : key ∈ s.seenKeys ∨ key = []
  · rw [s.learn_known known]
    exact learn_known (s.atRecord r) known value
  · rw [s.learn_fresh known]
    exact learn_fresh (s.atRecord r) known value

theorem checkRecord_learn (silent : s.lineSuppressed = {}) (r : Record) :
    ∃ ws, (∀ w ∈ ws, w.problem ∈ s.problems r.key r.value) ∧
      s.checkRecord r = { s.learn r.key r.value with line := r.line }.logAll ws := by
  have left : s.after (.checkRecord r) = { s.learn r.key r.value with line := r.line } := by
    change { (s.atRecord r).learn r.key r.value with lineSuppressed := {} } = _
    rw [learn_atRecord, learn_frame, ← silent]
  have told := step_eq s silent (.checkRecord r)
  rw [left] at told
  refine ⟨_, ?_, told⟩
  intro w member
  obtain ⟨p, found, rfl⟩ := List.mem_map.mp (List.mem_filter.mp member).1
  exact found

/-! ### The base files -/

/-- Records without key leave no trace in the baseline. -/
theorem foldl_checkRecord_baseline (f : s.Filling) (earlier : List Text)
    (same : ∀ k, k ∈ s.seenKeys ↔ k ∈ earlier) (rs : List Record) :
    (rs.foldl checkRecord s).baseline =
      s.baseline.addRecords s.group earlier (rs.filter fun r => r.key ≠ []) := by
  induction rs generalizing s earlier with
  | nil => rfl
  | cons r rs ih =>
    obtain ⟨ws, -, first⟩ := checkRecord_learn f.silent r
    have next : (s.checkRecord r).Filling := by
      rw [learn_frame] at first
      exact f.moved first
    by_cases nameless : r.key = []
    · rw [s.learn_known (Or.inr nameless)] at first
      have rest := ih next earlier (by rwa [first])
      rw [List.foldl_cons, rest, first, List.filter_cons_of_neg (by simpa using nameless)]
      rfl
    · have learned := learn_filling f.base nameless same
      have mem_next : ∀ k, k ∈ (s.checkRecord r).seenKeys ↔ k ∈ r.key :: earlier := by
        intro k
        rw [first, List.mem_cons, ← same]
        exact mem_learn nameless r.value k
      rw [List.foldl_cons, ih next _ mem_next, first, List.filter_cons_of_pos (by simpa using nameless),
        Baseline.addRecords, ← learned, learn_frame]
      rfl

theorem checkFile_baseline (f : s.Filling) (file : Text × Table) :
    (s.checkFile file.1 file.2).baseline = s.baseline.addTable file.1 (keyed file).2 := by
  have known : s.hasBase file.1 = true := by simp [hasBase, f.base]
  have opened : (s.openFile file.1).baseline = s.baseline.addGroup file.1 := if_pos f.base
  have next : (s.openFile file.1).Filling := ⟨f.base, f.silent⟩
  have read := foldl_checkRecord_baseline next [] (fun _ => Iff.rfl) file.2.records
  rw [checkFile_of_hasBase known, checkTable, closeFile_eq]
  change (file.2.records.foldl checkRecord (s.openFile file.1)).baseline = _
  rw [read, opened]
  rfl

theorem foldl_checkFile_baseline (f : s.Filling) (files : List (Text × Table)) :
    (files.foldl (fun s f => s.checkFile f.1 f.2) s).baseline =
      s.baseline.addTables (files.map keyed) := by
  induction files generalizing s with
  | nil => rfl
  | cons file files ih =>
    have next : (s.checkFile file.1 file.2).Filling := by
      rw [checkFile_run]
      exact ⟨(run_samePass (s.stays_fileOps _ _)).isBase.trans f.base, run_silent f.silent _⟩
    rw [List.foldl_cons, ih next, checkFile_baseline f]
    rfl

theorem checkLocale_baseline_keyed (silent : s.lineSuppressed = {}) (files : List (Text × Table)) :
    (s.checkLocale s.baseLocale files).baseline = s.baseline.addTables (files.map keyed) := by
  have entered : (s.enterLocale s.baseLocale).Filling := ⟨by simp [isBase, enterLocale], silent⟩
  rw [checkLocale_eq, leaveLocale_eq]
  exact foldl_checkFile_baseline entered files

theorem keys_checkLocale_base (s : Session) (base : List (Text × Table)) (group : Text) :
    (s.reset.checkLocale s.baseLocale base).baseline.keys group = groupKeys group base := by
  have filled := checkLocale_baseline_keyed (s := s.reset) rfl base
  change (s.reset.checkLocale s.baseLocale base).baseline = _ at filled
  rw [filled, Baseline.keys_addTables, keysOf_keyed]
  exact Baseline.foldl_noteName _

theorem mem_groups_checkLocale_base (s : Session) {base : List (Text × Table)} {group : Text} :
    group ∈ (s.reset.checkLocale s.baseLocale base).baseline.groups ↔ group ∈ base.map (·.1) := by
  have filled := checkLocale_baseline_keyed (s := s.reset) rfl base
  change (s.reset.checkLocale s.baseLocale base).baseline = _ at filled
  have names : (base.map keyed).map (·.1) = base.map (·.1) := by simp [keyed]
  rw [filled, ← names]
  exact mem_groups_filled

theorem mem_groupKeys {group key : Text} {files : List (Text × Table)} :
    key ∈ groupKeys group files ↔
      key ≠ [] ∧ ∃ f ∈ files, f.1 = group ∧ key ∈ f.2.records.map (·.key) := by
  unfold groupKeys
  rw [List.mem_eraseDups, List.mem_filter, decide_eq_true_iff, and_comm, keysOf, List.mem_flatMap]
  apply and_congr_right
  intro _
  constructor
  · rintro ⟨t, member, inside⟩
    obtain ⟨f, here, rfl⟩ := List.mem_map.mp member
    obtain ⟨listed, same⟩ := List.mem_filter.mp here
    exact ⟨f, listed, of_decide_eq_true same, inside⟩
  · rintro ⟨f, listed, same, inside⟩
    exact ⟨f.2, List.mem_map.mpr ⟨f, List.mem_filter.mpr ⟨listed, decide_eq_true same⟩, rfl⟩, inside⟩

/-! ### Sessions outside the base locale -/

structure Outside (s : Session) : Prop where
  other : s.isBase = false
  silent : s.lineSuppressed = {}

theorem Outside.moved (o : s.Outside) {t : Session} {line : Nat} {group : Text}
    {keys groups : List Text} {ws : List Warning}
    (same : t = { s with line, group, seenKeys := keys, seenGroups := groups }.logAll ws) :
    t.Outside := by
  rw [same]
  exact ⟨o.other, o.silent⟩

/-- A file in which nothing is extra. -/
structure Covered (b : Baseline) (file : Text × Table) : Prop where
  group : file.1 ∈ b.groups
  keys : ∀ r ∈ file.2.records, r.key ≠ [] → r.key ∈ b.keys file.1

theorem isOneSided_of_mem_problems {r : Record}
    (known : r.key ≠ [] → r.key ∈ s.baseline.keys s.group) {p : Problem}
    (found : p ∈ s.problems r.key r.value) : p.isOneSided = false := by
  have others : ∀ p ∈ stringProblems, p ≠ .extra → p.isOneSided = false := by decide
  apply others p (s.mem_problems found)
  rintro rfl
  unfold problems at found
  split at found
  · simp at found
  · split at found
    · cases found
    · next nameless =>
      have named : r.key ≠ [] := fun empty => nameless (by simp [empty])
      obtain ⟨e, entry⟩ := Option.isSome_iff_exists.mp (Baseline.mem_keys_iff.mp (known named))
      simp [entry, differences] at found

theorem checkRecord_outside (o : s.Outside) {r : Record}
    (known : r.key ≠ [] → r.key ∈ s.baseline.keys s.group) :
    ∃ keys ws, (∀ k ≠ [], k ∈ keys ↔ k = r.key ∨ k ∈ s.seenKeys) ∧ oneSided ws = [] ∧
      s.checkRecord r = { s with line := r.line, seenKeys := keys }.logAll ws := by
  obtain ⟨ws, found, checked⟩ := checkRecord_learn o.silent r
  refine ⟨(s.learn r.key r.value).seenKeys, ws, ?_, ?_, ?_⟩
  · intro k named
    by_cases nameless : r.key = []
    · rw [s.learn_known (Or.inr nameless), nameless]
      exact (or_iff_right named).symm
    · exact mem_learn nameless r.value k
  · rw [oneSided, List.filter_eq_nil_iff]
    intro w member
    simp [isOneSided_of_mem_problems known (found w member)]
  · rw [learn_other o.other] at checked
    exact checked

theorem foldl_checkRecord_outside (o : s.Outside) (rs : List Record)
    (known : ∀ r ∈ rs, r.key ≠ [] → r.key ∈ s.baseline.keys s.group) :
    ∃ line keys ws, (∀ k ≠ [], k ∈ keys ↔ k ∈ s.seenKeys ∨ k ∈ rs.map (·.key)) ∧
      oneSided ws = [] ∧
      rs.foldl checkRecord s = { s with line, seenKeys := keys }.logAll ws := by
  induction rs generalizing s with
  | nil => exact ⟨s.line, s.seenKeys, [], by simp, rfl, s.logAll_nil.symm⟩
  | cons r rs ih =>
    obtain ⟨here, later⟩ := List.forall_mem_cons.mp known
    obtain ⟨seen, ws, mem_seen, none_here, first⟩ := checkRecord_outside o here
    have next : (s.checkRecord r).Outside := o.moved first
    obtain ⟨line, keys, vs, mem_keys, none_later, rest⟩ := ih next (by rwa [first])
    refine ⟨line, keys, ws ++ vs, ?_, ?_, ?_⟩
    · intro k named
      rw [mem_keys k named, first, List.map_cons, List.mem_cons]
      exact (or_congr_left (mem_seen k named)).trans (or_assoc.trans or_left_comm)
    · rw [oneSided, List.filter_append]
      exact List.append_eq_nil_iff.mpr ⟨none_here, none_later⟩
    · rw [List.foldl_cons, rest, first]
      exact logAll_logAll { s with line, seenKeys := keys } _ _

theorem filter_map_problem {p : Problem} {w : Text → Warning} (same : ∀ k, (w k).problem = p)
    (suppressed : Suppression) (keys : List Text) :
    ((keys.map w).filter fun v => !suppressed.covers v.problem) =
      if suppressed.covers p then [] else keys.map w := by
  split
  · next covered =>
    rw [List.filter_eq_nil_iff]
    intro v member
    obtain ⟨k, -, rfl⟩ := List.mem_map.mp member
    simp [same, covered]
  · next told =>
    rw [List.filter_eq_self]
    intro v member
    obtain ⟨k, -, rfl⟩ := List.mem_map.mp member
    simp [same, told]

theorem closeFile_outside (o : s.Outside) (file : Text × Table) (group : s.group = file.1)
    (named : ∀ k ∈ s.baseline.keys file.1, k ≠ [])
    (same : ∀ k ≠ [], k ∈ s.seenKeys ↔ k ∈ file.2.records.map (·.key)) :
    s.closeFile file.2.lineCount = { s with line := file.2.lineCount }.logAll
      (lackingWarnings s.suppressed s.locale (s.baseline.keys file.1) file) := by
  have lacking : ((s.baseline.keys file.1).filter fun k => !s.seenKeys.contains k) =
      (s.baseline.keys file.1).filter fun k => !(file.2.records.map (·.key)).contains k := by
    apply List.filter_congr
    intro k member
    have alike : s.seenKeys.contains k = (file.2.records.map (·.key)).contains k := by
      rw [Bool.eq_iff_iff, List.contains_iff_mem, List.contains_iff_mem]
      exact same k (named k member)
    rw [alike]
  have told : (fun w : Warning => !s.suppresses w.problem) =
      fun w => !s.suppressed.covers w.problem := by
    funext w
    rw [suppresses, o.silent, covers_empty, Bool.or_false]
  have found : (s.missing file.2.lineCount).filter (fun w => !s.suppresses w.problem) =
      lackingWarnings s.suppressed s.locale (s.baseline.keys file.1) file := by
    unfold missing lackingWarnings
    rw [if_neg (by simp [o.other]), group, lacking, told]
    simp only [finding, Problem.isFileLevel, Bool.or_false, decide_eq_true_eq]
    apply filter_map_problem
    intro k
    rfl
  rw [closeFile_eq]
  exact congrArg (logAll { s with line := file.2.lineCount }) found

theorem oneSided_lackingWarnings (suppressed : Suppression) (locale : Text) (keys : List Text)
    (file : Text × Table) :
    oneSided (lackingWarnings suppressed locale keys file) =
      lackingWarnings suppressed locale keys file := by
  rw [oneSided, List.filter_eq_self]
  intro w member
  unfold lackingWarnings at member
  split at member
  · cases member
  · obtain ⟨k, -, rfl⟩ := List.mem_map.mp member
    rfl

theorem checkFile_outside (o : s.Outside) (sound : s.baseline.Sound) {file : Text × Table}
    (covered : Covered s.baseline file) :
    ∃ line keys ws,
      oneSided ws = lackingWarnings s.suppressed s.locale (s.baseline.keys file.1) file ∧
        s.checkFile file.1 file.2 = logAll
          { s with line, group := file.1, seenKeys := keys, seenGroups := file.1 :: s.seenGroups }
          ws := by
  obtain ⟨group, known⟩ := covered
  have opened : s.openFile file.1 =
      { s with line := 0, group := file.1, seenKeys := [], seenGroups := file.1 :: s.seenGroups } := by
    simp [openFile, o.other]
  have next : (s.openFile file.1).Outside := o.moved (opened.trans (logAll_nil _).symm)
  obtain ⟨line, keys, ws, mem_keys, none, read⟩ :=
    foldl_checkRecord_outside next file.2.records (by rwa [opened])
  rw [opened] at read mem_keys
  have last : (file.2.records.foldl checkRecord (s.openFile file.1)).Outside := by
    rw [opened, read]
    exact ⟨o.other, o.silent⟩
  have closed := closeFile_outside last file ?_ ?_ ?_
  · have based : s.hasBase file.1 = true := by
      rw [hasBase, Baseline.hasGroup_iff.mpr group, Bool.or_true]
    refine ⟨file.2.lineCount, keys,
      ws ++ lackingWarnings s.suppressed s.locale (s.baseline.keys file.1) file, ?_, ?_⟩
    · rw [oneSided, List.filter_append]
      exact (congrArg₂ _ none (oneSided_lackingWarnings _ _ _ _)).trans (List.nil_append _)
    · rw [checkFile_of_hasBase based, checkTable, closed, opened, read]
      exact logAll_logAll { s with
        line := file.2.lineCount, group := file.1, seenKeys := keys
        seenGroups := file.1 :: s.seenGroups } _ _
  · rw [opened, read]
    rfl
  · rw [opened, read]
    exact sound.named file.1
  · intro k named
    rw [opened, read]
    exact (mem_keys k named).trans (or_iff_right List.not_mem_nil)

theorem lackingWarnings_eq_nil_iff {suppressed : Suppression} {locale : Text} {keys : List Text}
    {file : Text × Table} :
    lackingWarnings suppressed locale keys file = [] ↔
      suppressed.covers .missing = true ∨ ∀ k ∈ keys, k ∈ file.2.records.map (·.key) := by
  unfold lackingWarnings
  by_cases covered : suppressed.covers .missing = true
  · simp [covered]
  · rw [if_neg covered, List.map_eq_nil_iff, List.filter_eq_nil_iff]
    simp only [covered, Bool.not_eq_true', Bool.not_eq_false, List.contains_iff_mem,
      Bool.false_eq_true, false_or]

/-! ### Passes -/

theorem foldl_checkFile_outside (o : s.Outside) (sound : s.baseline.Sound)
    {files : List (Text × Table)} (covered : ∀ f ∈ files, Covered s.baseline f) :
    ∃ line group keys ws,
      oneSided ws = (files.flatMap fun f =>
        lackingWarnings s.suppressed s.locale (s.baseline.keys f.1) f) ∧
      files.foldl (fun s f => s.checkFile f.1 f.2) s = logAll
        { s with line, group, seenKeys := keys, seenGroups := (files.map (·.1)).reverse ++ s.seenGroups }
        ws := by
  induction files generalizing s with
  | nil => exact ⟨s.line, s.group, s.seenKeys, [], rfl, s.logAll_nil.symm⟩
  | cons f files ih =>
    obtain ⟨here, later⟩ := List.forall_mem_cons.mp covered
    obtain ⟨line₁, keys₁, ws, lacking, first⟩ := checkFile_outside o sound here
    have next : (s.checkFile f.1 f.2).Outside := o.moved first
    obtain ⟨line, group, keys, vs, rest_lacking, rest⟩ :=
      ih next (by rwa [first]) (by rwa [first])
    refine ⟨line, group, keys, ws ++ vs, ?_, ?_⟩
    · rw [oneSided, List.filter_append, List.flatMap_cons]
      refine congrArg₂ _ lacking (rest_lacking.trans ?_)
      rw [first]
      rfl
    · rw [List.foldl_cons, rest, first, List.map_cons, List.reverse_cons, List.append_assoc]
      exact logAll_logAll { s with line, group, seenKeys := keys, seenGroups := _ } _ _

theorem leaveLocale_outside (all : ∀ g ∈ s.baseline.groups, g ∈ s.seenGroups) :
    s.leaveLocale = s := by
  have nothing : s.missingFiles = [] := by
    unfold missingFiles
    split
    · rfl
    · rw [List.map_eq_nil_iff, List.filter_eq_nil_iff]
      intro g member
      simp [all g member]
  rw [leaveLocale_eq, nothing, tell_nil]

theorem checkLocale_outside (sound : s.Sound) {locale : Text} (other : locale ≠ s.baseLocale)
    {files : List (Text × Table)} (covered : ∀ f ∈ files, Covered s.baseline f)
    (all : ∀ g ∈ s.baseline.groups, g ∈ files.map (·.1)) :
    ∃ ws, (s.checkLocale locale files).log.toList = s.log.toList ++ ws ∧
      oneSided ws = files.flatMap fun f =>
        lackingWarnings s.suppressed locale (s.baseline.keys f.1) f := by
  have entered : (s.enterLocale locale).Outside :=
    ⟨by simp [isBase, enterLocale, other], sound.silent⟩
  obtain ⟨line, group, keys, ws, lacking, checked⟩ :=
    foldl_checkFile_outside entered sound.baseline covered
  have left := leaveLocale_outside
    (s := files.foldl (fun s f => s.checkFile f.1 f.2) (s.enterLocale locale)) (by
      intro g member
      rw [checked] at member ⊢
      simpa [logAll, enterLocale] using all g member)
  refine ⟨ws, ?_, lacking⟩
  rw [checkLocale_eq, left, checked]
  simp [logAll, enterLocale]

theorem foldl_checkLocale_other {passes : List (Text × List (Text × Table))}
    (reachable : Reachable s) (others : ∀ p ∈ passes, p.1 ≠ s.baseLocale) :
    let t := passes.foldl (fun s p => s.checkLocale p.1 p.2) s
    Reachable t ∧ SameSettings s t ∧ t.baseline = s.baseline := by
  induction passes generalizing s with
  | nil => exact ⟨reachable, .refl s, rfl⟩
  | cons p passes ih =>
    obtain ⟨here, later⟩ := List.forall_mem_cons.mp others
    have settings := s.checkLocale_settings p.1 p.2
    obtain ⟨reachable', settings', baseline⟩ :=
      ih (reachable_checkLocale reachable p.1 p.2) (by rwa [settings.baseLocale])
    exact ⟨reachable', settings.trans settings', baseline.trans (checkLocale_baseline here p.2)⟩

/-! ### Mirrored files -/

theorem exists_of_mirrored {base files : List (Text × Table)}
    (mirrored : files.map outline = base.map outline) {f : Text × Table} (here : f ∈ files) :
    ∃ g ∈ base, g.1 = f.1 ∧ g.2.records.map (·.key) = f.2.records.map (·.key) := by
  have listed : outline f ∈ base.map outline := mirrored ▸ List.mem_map_of_mem here
  obtain ⟨g, there, same⟩ := List.mem_map.mp listed
  exact ⟨g, there, (Prod.mk.inj same).1, (Prod.mk.inj same).2⟩

theorem covered_of_mirrored (s : Session) {base files : List (Text × Table)}
    (mirrored : files.map outline = base.map outline) {f : Text × Table} (here : f ∈ files) :
    Covered (s.reset.checkLocale s.baseLocale base).baseline f := by
  obtain ⟨g, there, group, keys⟩ := exists_of_mirrored mirrored here
  constructor
  · rw [mem_groups_checkLocale_base]
    exact List.mem_map.mpr ⟨g, there, group⟩
  · intro r inside named
    rw [keys_checkLocale_base, mem_groupKeys]
    exact ⟨named, g, there, group, keys ▸ List.mem_map_of_mem inside⟩

theorem flatMap_lackingWarnings_eq_nil_iff {suppressed : Suppression} {locale : Text}
    {base files : List (Text × Table)} (mirrored : files.map outline = base.map outline) :
    (files.flatMap fun f => lackingWarnings suppressed locale (groupKeys f.1 base) f) = [] ↔
      suppressed.covers .missing = true ∨
        ∀ f ∈ base, ∀ g ∈ base, f.1 = g.1 → ∀ k ∈ f.2.records.map (·.key), k ≠ [] →
          k ∈ g.2.records.map (·.key) := by
  rw [List.flatMap_eq_nil_iff]
  simp only [lackingWarnings_eq_nil_iff, mem_groupKeys]
  constructor
  · intro each
    by_cases covered : suppressed.covers .missing = true
    · exact Or.inl covered
    · refine Or.inr fun f f_base g g_base same k inside named => ?_
      obtain ⟨h, here, group, keys⟩ := exists_of_mirrored mirrored.symm g_base
      have all := (each h here).resolve_left covered k
      rw [keys, group] at all
      exact all ⟨named, f, f_base, same, inside⟩
  · rintro (covered | shared) h here
    · exact Or.inl covered
    · obtain ⟨g, g_base, group, keys⟩ := exists_of_mirrored mirrored here
      rw [← keys, ← group]
      refine Or.inr ?_
      rintro k ⟨named, f, f_base, same, inside⟩
      exact shared f f_base g g_base same k inside named

/-- In a locale whose files have the groups and the keys of the base files, in the same order,
nothing is extra and no file is missing, whatever other locales came before it. Missing is from each
file what it lacks of the keys of its group; so nothing, unless missing keys are suppressed, if and
only if the base files of a group have the same keys. -/
theorem checkLocale_mirrored (s : Session) {locale : Text} (other : locale ≠ s.baseLocale)
    {base files : List (Text × Table)} (mirrored : files.map outline = base.map outline)
    {passes : List (Text × List (Text × Table))} (others : ∀ p ∈ passes, p.1 ≠ s.baseLocale) :
    let filled := s.reset.checkLocale s.baseLocale base
    let t := passes.foldl (fun s p => s.checkLocale p.1 p.2) filled
    ∃ ws, (t.checkLocale locale files).log.toList = t.log.toList ++ ws ∧
      oneSided ws = (files.flatMap fun f =>
        lackingWarnings s.suppressed locale (groupKeys f.1 base) f) ∧
      (oneSided ws = [] ↔ s.suppressed.covers .missing = true ∨
        ∀ f ∈ base, ∀ g ∈ base, f.1 = g.1 → ∀ k ∈ f.2.records.map (·.key), k ≠ [] →
          k ∈ g.2.records.map (·.key)) := by
  intro filled t
  have settings : SameSettings s.reset filled := s.reset.checkLocale_settings s.baseLocale base
  have fresh : Reachable filled := reachable_checkLocale (.new _ _ _) _ _
  have later : Reachable t ∧ SameSettings filled t ∧ t.baseline = filled.baseline := by
    apply foldl_checkLocale_other fresh
    rw [settings.baseLocale]
    exact others
  obtain ⟨reachable, kept, baseline⟩ := later
  obtain ⟨baseLocale, suppressed, -⟩ := settings.trans kept
  have covered : ∀ f ∈ files, Covered t.baseline f := by
    intro f here
    rw [baseline]
    exact covered_of_mirrored s mirrored here
  have all : ∀ g ∈ t.baseline.groups, g ∈ files.map (·.1) := by
    intro g member
    rw [baseline, mem_groups_checkLocale_base] at member
    have names := congrArg (List.map Prod.fst) mirrored
    simp only [List.map_map] at names
    exact names ▸ member
  have elsewhere : locale ≠ t.baseLocale := by
    rw [baseLocale]
    exact other
  obtain ⟨ws, logged, lacking⟩ :=
    checkLocale_outside (s := t) (reachable_sound reachable) elsewhere covered all
  have keys : ∀ group, t.baseline.keys group = groupKeys group base := by
    intro group
    rw [baseline]
    exact keys_checkLocale_base s base group
  have unchanged : t.suppressed = s.suppressed := suppressed
  simp only [keys, unchanged] at lacking
  refine ⟨ws, logged, lacking, ?_⟩
  rw [lacking]
  exact flatMap_lackingWarnings_eq_nil_iff mirrored

theorem checkLocale_mirrored_after_german :
    let s := new "EN".toList {} {}
    let base : List (Text × Table) := [
      ("UI".toList, .ofText "UI\nB = \"b\",\nA = \"a\",\nB = \"b\",\n".toList),
      ("Tip".toList, .ofText "Tip\n".toList), ("UI".toList, .ofText "UI\nA = \"c\",\n".toList)]
    let files : List (Text × Table) := [
      ("UI".toList, .ofText "UI\nB = \"x\",\nA = \"c\",\nB = \"b\",\n".toList),
      ("Tip".toList, .ofText "".toList), ("UI".toList, .ofText "UI\n\nA = \"y\",\n".toList)]
    let passes : List (Text × List (Text × Table)) :=
      [("DE".toList, [("Old".toList, .ofText "Old\n".toList)])]
    let filled := s.reset.checkLocale s.baseLocale base
    let t := passes.foldl (fun s p => s.checkLocale p.1 p.2) filled
    "FR".toList ≠ s.baseLocale ∧ files.map outline = base.map outline ∧
      (∀ p ∈ passes, p.1 ≠ s.baseLocale) ∧ t.log.size = 4 ∧
      (∃ ws, (t.checkLocale "FR".toList files).log.toList = t.log.toList ++ ws ∧
        oneSided ws = [⟨.missing, "FR".toList, "UI".toList, some 3, "B".toList⟩]) ∧
      (t.checkLocale "FR".toList files).log.size = 7 := by
  intro s base files passes filled t
  have other : "FR".toList ≠ s.baseLocale := by decide +kernel
  have mirrored : files.map outline = base.map outline := by decide +kernel
  have others : ∀ p ∈ passes, p.1 ≠ s.baseLocale := by decide +kernel
  refine ⟨other, mirrored, others, by decide +kernel, ?_, by decide +kernel⟩
  obtain ⟨ws, logged, lacking, -⟩ := checkLocale_mirrored s other mirrored others
  have missing : (files.flatMap fun f =>
      lackingWarnings s.suppressed "FR".toList (groupKeys f.1 base) f) =
        [⟨.missing, "FR".toList, "UI".toList, some 3, "B".toList⟩] := by
    decide +kernel
  refine ⟨ws, ?_, lacking.trans missing⟩
  -- Written out, both sides agree at sight; comparing them by evaluation would run the passes.
  dsimp only [t, filled]
  exact logged

/-- Two files that have different keys of one group, in both locales. -/
theorem checkLocale_mirrored_in_halves :
    let s := new "EN".toList {} {}
    let base : List (Text × Table) := [
      ("UI".toList, .ofText "UI\nA = \"a\",\n".toList),
      ("UI".toList, .ofText "UI\nB = \"b\",\n".toList)]
    let files : List (Text × Table) := [
      ("UI".toList, .ofText "UI\nA = \"x\",\n".toList),
      ("UI".toList, .ofText "UI\nB = \"y\",\n".toList)]
    let filled := s.reset.checkLocale s.baseLocale base
    "FR".toList ≠ s.baseLocale ∧ files.map outline = base.map outline ∧ filled.log = #[] ∧
      (filled.checkLocale "FR".toList files).log.toList =
        [⟨.missing, "FR".toList, "UI".toList, some 2, "B".toList⟩,
          ⟨.missing, "FR".toList, "UI".toList, some 2, "A".toList⟩] := by
  decide +kernel

end Session
end LocaleLint
