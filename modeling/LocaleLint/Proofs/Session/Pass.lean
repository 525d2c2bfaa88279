import LocaleLint.Proofs.Session.Operation
import LocaleLint.Proofs.Table.Reading

namespace LocaleLint

/-- The placeholders of a value, each once. -/
def Placeholder.found (value : Text) : List Text := all.filter fun p => p <:+: value

theorem Placeholder.count_eq (value : Text) : count value = (found value).length := by
  unfold count found
  rw [List.countP_eq_length_filter]
  congr 2
  funext p
  exact Bool.eq_iff_iff.mpr (Text.has_iff.trans decide_eq_true_iff.symm)

namespace Session

/-! ### The report -/

/-- What is wrong with a record that follows records with the keys `earlier`. -/
def verdict? (b : Baseline) (group : Text) (earlier : List Text) (r : Record) : Option Problem :=
  if earlier.contains r.key then some .duplicate
  else
    match b.get? group r.key with
    | none => some .extra
    | some base =>
      if base.value = r.value then some .identical
      else if (Placeholder.found base.value).length ≠ (Placeholder.found r.value).length then
        some .substitutionCount
      else none

def recordWarning? (b : Baseline) (locale group : Text) (earlier : List Text) (r : Record) :
    Option Warning :=
  (verdict? b group earlier r).map fun p => ⟨p, locale, group, some r.line, r.key⟩

def recordWarnings (b : Baseline) (locale group : Text) (earlier : List Text) :
    List Record → List Warning
  | [] => []
  | r :: rs =>
    (recordWarning? b locale group earlier r).toList ++
      recordWarnings b locale group (r.key :: earlier) rs

def missingWarnings (b : Baseline) (locale group : Text) (t : Table) : List Warning :=
  ((b.keys group).filter fun k => !(t.records.map (·.key)).contains k).map fun k =>
    ⟨.missing, locale, group, some t.lineCount, k⟩

def fileWarnings (b : Baseline) (locale group : Text) (t : Table) : List Warning :=
  if b.groups.contains group then
    recordWarnings b locale group [] t.records ++ missingWarnings b locale group t
  else [⟨.extraFile, locale, group, none, group ++ '_' :: locale⟩]

def missingFileWarnings (b : Baseline) (locale : Text) (groups : List Text) : List Warning :=
  (b.groups.filter fun g => !groups.contains g).map fun g =>
    ⟨.missingFile, locale, g, none, g ++ '_' :: locale⟩

def passWarnings (b : Baseline) (locale : Text) (files : List (Text × Table)) : List Warning :=
  files.flatMap (fun f => fileWarnings b locale f.1 f.2) ++
    missingFileWarnings b locale (files.map (·.1))

/-- Of a file that cannot be read only the group counts. -/
def foundWarnings (b : Baseline) (locale group : Text) : Option Table → List Warning
  | some t => fileWarnings b locale group t
  | none =>
    if b.groups.contains group then []
    else [⟨.extraFile, locale, group, none, group ++ '_' :: locale⟩]

def allWarnings (b : Baseline) (locale : Text) (files : List (Text × Option Table)) :
    List Warning :=
  files.flatMap (fun f => foundWarnings b locale f.1 f.2) ++
    missingFileWarnings b locale (files.map (·.1))

theorem allWarnings_readable (b : Baseline) (locale : Text) (files : List (Text × Table)) :
    allWarnings b locale (files.map fun f => (f.1, some f.2)) = passWarnings b locale files := by
  rw [allWarnings, passWarnings, List.flatMap_map, List.map_map]
  rfl

/-! ### Sessions that compare -/

structure Comparing (s : Session) : Prop where
  baseline : s.baseline.Sound
  other : s.isBase = false
  quiet : s.suppressed = {}
  silent : s.lineSuppressed = {}

variable {s : Session}

theorem step_comparing (c : s.Comparing) (op : Op) (plain : op.suppressed = {}) :
    s.step op = (s.after op).logAll (s.findings op) :=
  step_quiet c.quiet c.silent plain

/-- Going on with a pass touches nothing that the comparison depends on. -/
theorem Comparing.moved (c : s.Comparing) {t : Session} {line : Nat} {group : Text}
    {keys groups : List Text} {ws : List Warning}
    (same : t = { s with line, group, seenKeys := keys, seenGroups := groups }.logAll ws) :
    t.Comparing := by
  rw [same]
  exact ⟨c.baseline, c.other, c.quiet, c.silent⟩

theorem contains_eq {xs ys : List Text} (same : ∀ k, k ∈ xs ↔ k ∈ ys) (k : Text) :
    xs.contains k = ys.contains k := by
  rw [Bool.eq_iff_iff, List.contains_iff_mem, List.contains_iff_mem, same]

theorem learn_other (other : s.isBase = false) (key value : Text) :
    s.learn key value = { s with seenKeys := (s.learn key value).seenKeys } := by
  by_cases known : key ∈ s.seenKeys ∨ key = []
  · rw [s.learn_known known]
  · rw [s.learn_fresh known, if_neg (by simp [other])]

theorem mem_learn {key : Text} (key_ne : key ≠ []) (value k : Text) :
    k ∈ (s.learn key value).seenKeys ↔ k = key ∨ k ∈ s.seenKeys := by
  by_cases seen : key ∈ s.seenKeys
  · rw [s.learn_known (Or.inl seen)]
    exact ⟨Or.inr, fun h => h.elim (fun same => same ▸ seen) id⟩
  · rw [s.learn_fresh (not_or.mpr ⟨seen, key_ne⟩)]
    exact List.mem_cons

/-- A string has at most one problem: of equal values the counts are equal. -/
theorem problems_comparing (c : s.Comparing) {r : Record} (key_ne : r.key ≠ []) {earlier : List Text}
    (same : ∀ k, k ∈ s.seenKeys ↔ k ∈ earlier) :
    s.problems r.key r.value = (verdict? s.baseline s.group earlier r).toList := by
  unfold problems verdict?
  rw [contains_eq same]
  by_cases seen : earlier.contains r.key = true
  · rw [if_pos seen, if_pos seen]
    rfl
  · rw [if_neg seen, if_neg seen, if_neg (by simp [key_ne, c.other])]
    cases found : s.baseline.get? s.group r.key with
    | none => rfl
    | some base =>
      have counted := congrArg Baseline.Entry.placeholders (c.baseline.counted _ _ _ found)
      simp only [Baseline.Entry.ofValue] at counted
      unfold differences
      dsimp only
      rw [counted, Placeholder.count_eq, Placeholder.count_eq]
      by_cases equal : base.value = r.value
      · simp [equal]
      · by_cases counts : (Placeholder.found base.value).length = (Placeholder.found r.value).length <;>
          simp [equal, counts]

/-! ### One file -/

def Plain (r : Record) : Prop := r.key ≠ [] ∧ r.line ≠ 0 ∧ r.suppressed = {}

def PlainTable (t : Table) : Prop := (∀ r ∈ t.records, Plain r) ∧ t.lineCount ≠ 0

theorem checkRecord_comparing (c : s.Comparing) {r : Record} (plain : Plain r) {earlier : List Text}
    (same : ∀ k, k ∈ s.seenKeys ↔ k ∈ earlier) :
    ∃ keys, (∀ k, k ∈ keys ↔ k = r.key ∨ k ∈ earlier) ∧
      s.checkRecord r = { s with line := r.line, seenKeys := keys }.logAll
        (recordWarning? s.baseline s.locale s.group earlier r).toList := by
  obtain ⟨key_ne, line_ne, unmarked⟩ := plain
  refine ⟨((s.atRecord r).learn r.key r.value).seenKeys, ?_, ?_⟩
  · intro k
    rw [mem_learn key_ne]
    exact or_congr_right (same k)
  · have entered : (s.atRecord r).Comparing := ⟨c.baseline, c.other, c.quiet, unmarked⟩
    have found : s.findings (.checkRecord r) =
        (recordWarning? s.baseline s.locale s.group earlier r).toList := by
      have problems := problems_comparing c key_ne same
      unfold findings recordWarning?
      dsimp only
      rw [problems]
      cases verdict : verdict? s.baseline s.group earlier r with
      | none => rfl
      | some p =>
        have listed : p ∈ stringProblems := s.mem_problems (by rw [problems, verdict]; simp)
        have warning := (s.atRecord r).finding_string listed r.key s.group
        rw [if_neg (show (s.atRecord r).line ≠ 0 from line_ne)] at warning
        exact congrArg (fun w => [w]) warning
    have left : s.after (.checkRecord r) =
        { s with line := r.line, seenKeys := ((s.atRecord r).learn r.key r.value).seenKeys } := by
      change { (s.atRecord r).learn r.key r.value with lineSuppressed := {} } = _
      rw [learn_other entered.other, ← c.silent]
      rfl
    have told := step_comparing c (.checkRecord r) unmarked
    rwa [found, left] at told

theorem foldl_checkRecord (c : s.Comparing) {rs : List Record} (plain : ∀ r ∈ rs, Plain r)
    (earlier : List Text) (same : ∀ k, k ∈ s.seenKeys ↔ k ∈ earlier) :
    ∃ line keys, (∀ k, k ∈ keys ↔ k ∈ earlier ∨ k ∈ rs.map (·.key)) ∧
      rs.foldl checkRecord s = { s with line, seenKeys := keys }.logAll
        (recordWarnings s.baseline s.locale s.group earlier rs) := by
  induction rs generalizing s earlier with
  | nil => exact ⟨s.line, s.seenKeys, by simpa using same, s.logAll_nil.symm⟩
  | cons r rs ih =>
    obtain ⟨seen, mem_seen, first⟩ := checkRecord_comparing c (plain r (by simp)) same
    have next : (s.checkRecord r).Comparing := c.moved first
    have mem_next : ∀ k, k ∈ (s.checkRecord r).seenKeys ↔ k ∈ r.key :: earlier := by
      intro k
      rw [first, List.mem_cons]
      exact mem_seen k
    obtain ⟨line, keys, mem_keys, rest⟩ :=
      ih next (fun x later => plain x (List.mem_cons_of_mem _ later)) _ mem_next
    refine ⟨line, keys, ?_, ?_⟩
    · intro k
      rw [mem_keys, List.mem_cons, List.map_cons, List.mem_cons]
      exact or_assoc.trans or_left_comm
    · rw [List.foldl_cons, rest, first]
      exact logAll_logAll { s with line, seenKeys := keys } _ _

theorem checkTable_comparing (c : s.Comparing) (fresh : s.seenKeys = []) {t : Table}
    (plain : PlainTable t) :
    ∃ line keys, s.checkTable t = { s with line, seenKeys := keys }.logAll
      (recordWarnings s.baseline s.locale s.group [] t.records ++
        missingWarnings s.baseline s.locale s.group t) := by
  obtain ⟨records_ok, count_ne⟩ := plain
  obtain ⟨line, keys, mem_keys, read⟩ := foldl_checkRecord c records_ok [] (by simp [fresh])
  have next : (t.records.foldl checkRecord s).Comparing := c.moved read
  have lacking : ∀ k, keys.contains k = (t.records.map (·.key)).contains k :=
    contains_eq fun k => (mem_keys k).trans (or_iff_right List.not_mem_nil)
  have found : (t.records.foldl checkRecord s).missing t.lineCount =
      missingWarnings s.baseline s.locale s.group t := by
    unfold missing missingWarnings
    simp only [← lacking]
    rw [if_neg (by simp [next.other]), read]
    simp [logAll, finding, count_ne, Problem.isFileLevel]
  refine ⟨t.lineCount, keys, ?_⟩
  have closed := step_comparing next (.closeFile t.lineCount) rfl
  change (t.records.foldl checkRecord s).closeFile t.lineCount = _
  refine closed.trans ?_
  change logAll { t.records.foldl checkRecord s with line := t.lineCount }
    ((t.records.foldl checkRecord s).missing t.lineCount) = _
  rw [found, read]
  exact logAll_logAll { s with line := t.lineCount, seenKeys := keys } _ _

theorem checkFound_comparing (c : s.Comparing) (group : Text) {table? : Option Table}
    (plain : ∀ t ∈ table?, PlainTable t) :
    ∃ line keys, s.checkFound group table? =
      { s with line, group, seenKeys := keys, seenGroups := group :: s.seenGroups }.logAll
        (foundWarnings s.baseline s.locale group table?) := by
  have opened : s.openFile group =
      { s with line := 0, group, seenKeys := [], seenGroups := group :: s.seenGroups } := by
    simp [openFile, c.other]
  have next : (s.openFile group).Comparing := c.moved (opened.trans (logAll_nil _).symm)
  have known : s.hasBase group = s.baseline.groups.contains group := by
    rw [hasBase, c.other, Bool.false_or, Bool.eq_iff_iff, Baseline.hasGroup_iff,
      List.contains_iff_mem]
  have extra := step_comparing next (.warn .extraFile (fileStem group s.locale) (some group)) rfl
  unfold checkFound
  dsimp only
  rw [known]
  by_cases base : s.baseline.groups.contains group = true
  · rw [if_pos base]
    cases table? with
    | some t =>
      obtain ⟨line, keys, checked⟩ := checkTable_comparing next rfl (plain t rfl)
      refine ⟨line, keys, ?_⟩
      rw [foundWarnings, fileWarnings, if_pos base]
      refine checked.trans ?_
      rw [opened]
    | none =>
      refine ⟨0, [], ?_⟩
      rw [foundWarnings, if_pos base, logAll_nil]
      exact opened
  · refine ⟨0, [], ?_⟩
    rw [if_neg base]
    refine extra.trans ?_
    rw [opened]
    cases table? with
    | some t =>
      rw [foundWarnings, fileWarnings, if_neg base]
      rfl
    | none =>
      rw [foundWarnings, if_neg base]
      rfl

/-! ### All files -/

theorem foldl_checkFound (c : s.Comparing) {files : List (Text × Option Table)}
    (plain : ∀ f ∈ files, ∀ t ∈ f.2, PlainTable t) :
    ∃ line group keys, files.foldl (fun s f => s.checkFound f.1 f.2) s = logAll
      { s with line, group, seenKeys := keys, seenGroups := (files.map (·.1)).reverse ++ s.seenGroups }
      (files.flatMap fun f => foundWarnings s.baseline s.locale f.1 f.2) := by
  induction files generalizing s with
  | nil => exact ⟨s.line, s.group, s.seenKeys, s.logAll_nil.symm⟩
  | cons f files ih =>
    obtain ⟨line₁, keys₁, first⟩ := checkFound_comparing c f.1 (plain f List.mem_cons_self)
    have next : (s.checkFound f.1 f.2).Comparing := c.moved first
    obtain ⟨line, group, keys, rest⟩ := ih next fun g later => plain g (List.mem_cons_of_mem _ later)
    refine ⟨line, group, keys, ?_⟩
    rw [List.foldl_cons, rest, first, List.map_cons, List.reverse_cons, List.append_assoc]
    exact logAll_logAll { s with line, group, seenKeys := keys, seenGroups := _ } _ _

theorem leaveLocale_comparing (c : s.Comparing) (groups : List Text)
    (same : ∀ g, g ∈ s.seenGroups ↔ g ∈ groups) :
    s.leaveLocale = s.logAll (missingFileWarnings s.baseline s.locale groups) := by
  have found : s.missingFiles = missingFileWarnings s.baseline s.locale groups := by
    unfold missingFiles missingFileWarnings
    simp only [← contains_eq same]
    rw [if_neg (by simp [c.other])]
    simp [finding, fileStem, Problem.isFileLevel]
  have told := step_comparing c .leaveLocale rfl
  exact told.trans (congrArg (logAll s) found)

theorem checkAll_comparing {s : Session} (sound : s.Sound) (quiet : s.suppressed = {})
    {locale : Text} (other : locale ≠ s.baseLocale) {files : List (Text × Option Table)}
    (plain : ∀ f ∈ files, ∀ t ∈ f.2, PlainTable t) :
    (s.checkAll locale files).log.toList = s.log.toList ++ allWarnings s.baseline locale files := by
  have entered : (s.enterLocale locale).Comparing :=
    ⟨sound.baseline, by simp [isBase, enterLocale, other], quiet, sound.silent⟩
  obtain ⟨line, group, keys, checked⟩ := foldl_checkFound entered plain
  have next : (files.foldl (fun s f => s.checkFound f.1 f.2) (s.enterLocale locale)).Comparing :=
    entered.moved checked
  have left := leaveLocale_comparing next (files.map (·.1)) (by
    intro g
    rw [checked]
    simp [logAll, enterLocale])
  rw [checkAll, left, checked]
  simp [logAll, enterLocale, allWarnings]

theorem checkLocale_comparing {s : Session} (sound : s.Sound) (quiet : s.suppressed = {})
    {locale : Text} (other : locale ≠ s.baseLocale) {files : List (Text × Table)}
    (plain : ∀ f ∈ files, PlainTable f.2) :
    (s.checkLocale locale files).log.toList =
      s.log.toList ++ passWarnings s.baseline locale files := by
  rw [checkLocale, checkAll_comparing sound quiet other, allWarnings_readable]
  intro f member t read
  obtain ⟨file, here, rfl⟩ := List.mem_map.mp member
  obtain rfl : file.2 = t := Option.some.inj read
  exact plain file here

theorem plainTable_ofText {text : Text}
    (unmarked : ∀ r ∈ (Table.ofText text).records, r.suppressed = {}) : PlainTable (.ofText text) := by
  constructor
  · intro r inside
    obtain ⟨key_ne, first, -⟩ := Table.record_place inside
    exact ⟨key_ne, by omega, unmarked r inside⟩
  · rw [Table.lineCount_ofText]
    omega

/-- The log of a locale other than the base locale: for each file its extra file warning, or one
warning at most for each record and then the missing keys; at the end the missing files. The order
of the baseline is that of the missing keys and files, and no key or group comes up twice in it. -/
theorem log_checkLocale {s : Session} (reachable : Reachable s) (quiet : s.suppressed = {})
    {locale : Text} (other : locale ≠ s.baseLocale) {files : List (Text × Text)}
    (plain : ∀ f ∈ files, ∀ r ∈ (Table.ofText f.2).records, r.suppressed = {}) :
    let tables := files.map fun f => (f.1, Table.ofText f.2)
    (s.checkLocale locale tables).log.toList =
        s.log.toList ++ passWarnings s.baseline locale tables ∧
      s.baseline.groups.Nodup ∧ ∀ group, (s.baseline.keys group).Nodup := by
  have sound := reachable_sound reachable
  refine ⟨checkLocale_comparing sound quiet other ?_, sound.baseline.groups, sound.baseline.keys⟩
  intro f member
  obtain ⟨file, here, rfl⟩ := List.mem_map.mp member
  exact plainTable_ofText (plain file here)

theorem log_checkLocale_one_of_each :
    let s := (new "EN".toList {} {}).run [.enterLocale "EN".toList, .openFile "UI".toList,
      .checkString "A".toList "%1".toList, .checkString "B".toList "b".toList,
      .checkString "C".toList "c".toList, .openFile "Tip".toList, .leaveLocale]
    let files := [("UI".toList, "UI_DE\nA = \"a\",\nB = \"b\",\nA = \"%1\",\nD = \"d\",\n".toList),
      ("Old".toList, "Old_DE\nA = \"a\",\n".toList)]
    Reachable s ∧ s.suppressed = {} ∧ "DE".toList ≠ s.baseLocale ∧
      (∀ f ∈ files, ∀ r ∈ (Table.ofText f.2).records, r.suppressed = {}) ∧
      (s.checkLocale "DE".toList (files.map fun f => (f.1, Table.ofText f.2))).log.toList.map
          (fun w => (w.problem, w.line)) =
        [(.substitutionCount, some 2), (.identical, some 3), (.duplicate, some 4),
          (.extra, some 5), (.missing, some 5), (.extraFile, none), (.missingFile, none)] := by
  intro s files
  have reachable : Reachable s := reachable_run (.new _ _ _) _
  have other : "DE".toList ≠ s.baseLocale := by decide +kernel
  have plain : ∀ f ∈ files, ∀ r ∈ (Table.ofText f.2).records, r.suppressed = {} := by decide +kernel
  refine ⟨reachable, rfl, other, plain, ?_⟩
  rw [(log_checkLocale reachable rfl other plain).1]
  decide +kernel

end Session
end LocaleLint
