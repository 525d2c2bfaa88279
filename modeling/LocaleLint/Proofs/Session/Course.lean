import LocaleLint.Proofs.Session.Operation

/-!
# Passes as operations

A pass through the files of a locale is a run of operations that stay in the locale. So whatever
operations keep, passes keep: the settings of the session always, and the baseline outside the base
locale. A missing file is reported at the end of a pass only.
-/

namespace LocaleLint.Session

/-- Whether an operation neither leaves the locale nor forgets anything. -/
def Op.Stays : Op → Prop
  | .enterLocale _ | .reset => False
  | _ => True

/-- Whether an operation belongs to a file. -/
def Op.InFile : Op → Prop
  | .openFile _ | .checkRecord _ | .checkString _ _ | .closeFile _ => True
  | .warn p _ _ => p ≠ .missingFile
  | _ => False

structure SameSettings (s t : Session) : Prop where
  baseLocale : t.baseLocale = s.baseLocale
  suppressed : t.suppressed = s.suppressed
  assignment : t.assignment = s.assignment

/-- What a session still has after a later part of the same pass. -/
structure SamePass (s t : Session) : Prop extends SameSettings s t where
  locale : t.locale = s.locale
  encoding : t.encoding = s.encoding

theorem SameSettings.refl (s : Session) : SameSettings s s := ⟨rfl, rfl, rfl⟩

theorem SameSettings.trans {s t u : Session} (first : SameSettings s t)
    (second : SameSettings t u) : SameSettings s u :=
  ⟨second.baseLocale.trans first.baseLocale, second.suppressed.trans first.suppressed,
    second.assignment.trans first.assignment⟩

theorem SamePass.refl (s : Session) : SamePass s s := ⟨.refl s, rfl, rfl⟩

theorem SamePass.trans {s t u : Session} (first : SamePass s t) (second : SamePass t u) :
    SamePass s u :=
  ⟨first.toSameSettings.trans second.toSameSettings, second.locale.trans first.locale,
    second.encoding.trans first.encoding⟩

theorem SamePass.isBase {s t : Session} (same : SamePass s t) : t.isBase = s.isBase := by
  rw [Session.isBase, Session.isBase, same.locale, same.baseLocale]

variable {s : Session} {op : Op}

theorem Op.InFile.stays (inFile : op.InFile) : op.Stays := by
  cases op with
  | enterLocale | reset => exact inFile.elim
  | _ => trivial

/-! ### One operation -/

theorem checkString_samePass (s : Session) (key value : Text) :
    SamePass s (s.checkString key value) := by
  rw [checkString_eq, learn_frame]
  exact ⟨⟨rfl, rfl, rfl⟩, rfl, rfl⟩

theorem checkString_baseline (other : s.isBase = false) (key value : Text) :
    (s.checkString key value).baseline = s.baseline := by
  rw [checkString_eq]
  change (s.learn key value).baseline = s.baseline
  by_cases known : key ∈ s.seenKeys ∨ key = []
  · rw [s.learn_known known]
  · rw [s.learn_fresh known, if_neg (by simp [other])]

theorem step_samePass (stays : op.Stays) : SamePass s (s.step op) := by
  cases op with
  | enterLocale | reset => exact stays.elim
  | openFile group => exact ⟨⟨rfl, rfl, rfl⟩, rfl, rfl⟩
  | checkRecord r =>
    obtain ⟨⟨baseLocale, suppressed, assignment⟩, locale, encoding⟩ :=
      (s.atRecord r).checkString_samePass r.key r.value
    exact ⟨⟨baseLocale, suppressed, assignment⟩, locale, encoding⟩
  | checkString key value => exact s.checkString_samePass key value
  | closeFile lineCount =>
    change SamePass s (s.closeFile lineCount)
    rw [closeFile_eq]
    exact ⟨⟨rfl, rfl, rfl⟩, rfl, rfl⟩
  | leaveLocale =>
    change SamePass s s.leaveLocale
    rw [leaveLocale_eq]
    exact ⟨⟨rfl, rfl, rfl⟩, rfl, rfl⟩
  | warn p subject group? =>
    change SamePass s (s.warnIn p subject _)
    rw [warnIn_eq]
    exact ⟨⟨rfl, rfl, rfl⟩, rfl, rfl⟩

theorem step_settings (s : Session) (op : Op) : SameSettings s (s.step op) := by
  cases op with
  | enterLocale | reset => exact ⟨rfl, rfl, rfl⟩
  | _ =>
    apply SamePass.toSameSettings
    apply step_samePass
    trivial

theorem step_baseline (other : s.isBase = false) (stays : op.Stays) :
    (s.step op).baseline = s.baseline := by
  cases op with
  | enterLocale | reset => exact stays.elim
  | openFile group =>
    change (if s.isBase then s.baseline.addGroup group else s.baseline) = s.baseline
    rw [if_neg (by simp [other])]
  | checkRecord r => exact checkString_baseline (s := s.atRecord r) other r.key r.value
  | checkString key value => exact checkString_baseline other key value
  | closeFile lineCount =>
    change (s.closeFile lineCount).baseline = s.baseline
    rw [closeFile_eq]
    rfl
  | leaveLocale =>
    change s.leaveLocale.baseline = s.baseline
    rw [leaveLocale_eq]
    rfl
  | warn p subject group? =>
    change (s.warnIn p subject _).baseline = s.baseline
    rw [warnIn_eq]
    rfl

theorem findings_about (s : Session) (op : Op) :
    ∀ w ∈ s.findings op, w.locale = s.locale ∧ (op.InFile → w.problem ≠ .missingFile) := by
  have string : ∀ p ∈ stringProblems, p ≠ .missingFile := by decide
  intro w found
  cases op with
  | enterLocale | openFile | reset => cases found
  | checkRecord r =>
    obtain ⟨p, problem, rfl⟩ := List.mem_map.mp found
    exact ⟨rfl, fun _ => string p (s.mem_problems problem)⟩
  | checkString key value =>
    obtain ⟨p, problem, rfl⟩ := List.mem_map.mp found
    exact ⟨rfl, fun _ => string p (s.mem_problems problem)⟩
  | closeFile lineCount =>
    obtain ⟨-, k, -, rfl⟩ := s.mem_missing found
    exact ⟨rfl, fun _ => Problem.noConfusion⟩
  | leaveLocale =>
    obtain ⟨-, g, -, rfl⟩ := s.mem_missingFiles found
    exact ⟨rfl, False.elim⟩
  | warn p subject group? =>
    rw [List.mem_singleton.mp found]
    exact ⟨rfl, id⟩

/-- What an operation adds to the log of a pass. -/
theorem step_told (silent : s.lineSuppressed = {}) (op : Op) (stays : op.Stays) :
    (s.step op).log.toList = s.log.toList ++ (s.findings op).filter fun w =>
      !(s.suppressed.covers w.problem || op.suppressed.covers w.problem) := by
  have kept : (s.after op).log = s.log := by
    rw [after_log]
    cases op with
    | enterLocale | reset => exact stays.elim
    | _ => rfl
  rw [step_eq s silent, logAll, kept, Array.toList_append]

theorem step_added (silent : s.lineSuppressed = {}) (stays : op.Stays) :
    ∃ ws, (s.step op).log.toList = s.log.toList ++ ws ∧ ∀ w ∈ ws, w.locale = s.locale :=
  ⟨_, step_told silent op stays, fun w told => (s.findings_about op w (List.mem_filter.mp told).1).1⟩

/-! ### Runs -/

theorem run_samePass {ops : List Op} (stays : ∀ op ∈ ops, op.Stays) : SamePass s (s.run ops) := by
  induction ops generalizing s with
  | nil => exact SamePass.refl s
  | cons op ops ih =>
    have first : SamePass s (s.step op) := step_samePass (stays op List.mem_cons_self)
    exact first.trans (ih fun o later => stays o (List.mem_cons_of_mem _ later))

theorem run_baseline {ops : List Op} (other : s.isBase = false) (stays : ∀ op ∈ ops, op.Stays) :
    (s.run ops).baseline = s.baseline := by
  induction ops generalizing s with
  | nil => rfl
  | cons op ops ih =>
    have here := stays op List.mem_cons_self
    have still : (s.step op).isBase = false := (step_samePass here).isBase.trans other
    exact (ih still fun o later => stays o (List.mem_cons_of_mem _ later)).trans
      (step_baseline other here)

theorem run_silent (silent : s.lineSuppressed = {}) (ops : List Op) :
    (s.run ops).lineSuppressed = {} := by
  induction ops generalizing s with
  | nil => exact silent
  | cons op ops ih => exact ih (step_silent s silent op)

/-- What a run adds while it stays in a locale is about that locale. -/
theorem run_added (silent : s.lineSuppressed = {}) {ops : List Op} (stays : ∀ op ∈ ops, op.Stays) :
    ∃ ws, (s.run ops).log.toList = s.log.toList ++ ws ∧ ∀ w ∈ ws, w.locale = s.locale := by
  induction ops generalizing s with
  | nil => exact ⟨[], by simp [run], by simp⟩
  | cons op ops ih =>
    have here := stays op List.mem_cons_self
    obtain ⟨ws, first, about⟩ := step_added silent here
    obtain ⟨vs, rest, about_later⟩ :=
      ih (step_silent s silent op) fun o later => stays o (List.mem_cons_of_mem _ later)
    rw [(step_samePass here).locale] at about_later
    refine ⟨ws ++ vs, ?_, ?_⟩
    · rw [← List.append_assoc, ← first]
      exact rest
    · intro w member
      exact (List.mem_append.mp member).elim (about w) (about_later w)

theorem run_append (s : Session) (ops more : List Op) :
    s.run (ops ++ more) = (s.run ops).run more :=
  List.foldl_append

/-! ### Passes -/

def fileOps (s : Session) (group : Text) (table? : Option Table) : List Op :=
  .openFile group ::
    if s.hasBase group then
      match table? with
      | some t => t.records.map .checkRecord ++ [.closeFile t.lineCount]
      | none => []
    else [.warn .extraFile (fileStem group s.locale) (some group)]

theorem inFile_records (rs : List Record) (lineCount : Nat) :
    ∀ op ∈ rs.map Op.checkRecord ++ [.closeFile lineCount], op.InFile := by
  intro op member
  rcases List.mem_append.mp member with inside | last
  · obtain ⟨r, -, rfl⟩ := List.mem_map.mp inside
    trivial
  · rw [List.mem_singleton.mp last]
    trivial

theorem inFile_fileOps (s : Session) (group : Text) (table? : Option Table) :
    ∀ op ∈ s.fileOps group table?, op.InFile := by
  intro op member
  unfold fileOps at member
  rcases List.mem_cons.mp member with rfl | later
  · trivial
  · split at later
    · cases table? with
      | some t => exact inFile_records t.records t.lineCount op later
      | none => cases later
    · rw [List.mem_singleton.mp later]
      exact Problem.noConfusion

theorem stays_fileOps (s : Session) (group : Text) (table? : Option Table) :
    ∀ op ∈ s.fileOps group table?, op.Stays := fun op member =>
  (s.inFile_fileOps group table? op member).stays

theorem foldl_checkRecord_run (s : Session) (rs : List Record) :
    rs.foldl checkRecord s = s.run (rs.map .checkRecord) := by
  rw [run, List.foldl_map]
  rfl

theorem checkTable_run (s : Session) (t : Table) :
    s.checkTable t = s.run (t.records.map .checkRecord ++ [.closeFile t.lineCount]) := by
  rw [checkTable, foldl_checkRecord_run, run_append]
  rfl

theorem checkFound_run (s : Session) (group : Text) (table? : Option Table) :
    s.checkFound group table? = s.run (s.fileOps group table?) := by
  unfold checkFound fileOps
  split
  · cases table? with
    | some t => exact (s.openFile group).checkTable_run t
    | none => rfl
  · rfl

theorem foldl_checkFound_run (s : Session) (files : List (Text × Option Table)) :
    ∃ ops, (∀ op ∈ ops, op.Stays) ∧
      files.foldl (fun s f => s.checkFound f.1 f.2) s = s.run ops := by
  induction files generalizing s with
  | nil => exact ⟨[], by simp, rfl⟩
  | cons f files ih =>
    obtain ⟨rest, rest_stays, more⟩ := ih (s.checkFound f.1 f.2)
    refine ⟨s.fileOps f.1 f.2 ++ rest, ?_, ?_⟩
    · intro op member
      exact (List.mem_append.mp member).elim (s.stays_fileOps f.1 f.2 op) (rest_stays op)
    · rw [List.foldl_cons, more, checkFound_run, run_append]

theorem checkAll_run (s : Session) (locale : Text) (files : List (Text × Option Table)) :
    ∃ ops, (∀ op ∈ ops, op.Stays) ∧
      s.checkAll locale files = (s.enterLocale locale).run ops := by
  obtain ⟨ops, stays, checked⟩ := (s.enterLocale locale).foldl_checkFound_run files
  refine ⟨ops ++ [.leaveLocale], ?_, ?_⟩
  · intro op member
    rcases List.mem_append.mp member with here | last
    · exact stays op here
    · rw [List.mem_singleton.mp last]
      trivial
  · rw [checkAll, checked, run_append]
    rfl

theorem reachable_checkAll (h : Reachable s) (locale : Text) (files : List (Text × Option Table)) :
    Reachable (s.checkAll locale files) := by
  obtain ⟨ops, -, checked⟩ := s.checkAll_run locale files
  rw [checked]
  exact reachable_run (h.step (.enterLocale locale)) ops

theorem checkAll_samePass (s : Session) (locale : Text) (files : List (Text × Option Table)) :
    SamePass (s.enterLocale locale) (s.checkAll locale files) := by
  obtain ⟨ops, stays, checked⟩ := s.checkAll_run locale files
  rw [checked]
  exact run_samePass stays

theorem checkAll_settings (s : Session) (locale : Text) (files : List (Text × Option Table)) :
    SameSettings s (s.checkAll locale files) := by
  obtain ⟨⟨baseLocale, suppressed, assignment⟩, -, -⟩ := s.checkAll_samePass locale files
  exact ⟨baseLocale, suppressed, assignment⟩

theorem checkAll_added (silent : s.lineSuppressed = {}) (locale : Text)
    (files : List (Text × Option Table)) :
    ∃ ws, (s.checkAll locale files).log.toList = s.log.toList ++ ws ∧
      ∀ w ∈ ws, w.locale = locale := by
  obtain ⟨ops, stays, checked⟩ := s.checkAll_run locale files
  rw [checked]
  exact run_added (s := s.enterLocale locale) silent stays

/-- A pass through another locale than the base locale leaves the baseline alone. -/
theorem checkAll_baseline {locale : Text} (other : locale ≠ s.baseLocale)
    (files : List (Text × Option Table)) : (s.checkAll locale files).baseline = s.baseline := by
  obtain ⟨ops, stays, checked⟩ := s.checkAll_run locale files
  have elsewhere : (s.enterLocale locale).isBase = false := by simp [isBase, enterLocale, other]
  rw [checked]
  exact run_baseline elsewhere stays

/-! ### Passes through readable files -/

theorem checkFile_run (s : Session) (group : Text) (t : Table) :
    s.checkFile group t = s.run (s.fileOps group (some t)) :=
  s.checkFound_run group (some t)

theorem foldl_checkFile_run (s : Session) (files : List (Text × Table)) :
    ∃ ops, (∀ op ∈ ops, op.Stays) ∧
      files.foldl (fun s f => s.checkFile f.1 f.2) s = s.run ops := by
  have whole := s.foldl_checkFound_run (files.map fun f => (f.1, some f.2))
  rwa [List.foldl_map] at whole

theorem reachable_checkLocale (h : Reachable s) (locale : Text) (files : List (Text × Table)) :
    Reachable (s.checkLocale locale files) :=
  reachable_checkAll h locale _

theorem checkLocale_samePass (s : Session) (locale : Text) (files : List (Text × Table)) :
    SamePass (s.enterLocale locale) (s.checkLocale locale files) :=
  s.checkAll_samePass locale _

theorem checkLocale_settings (s : Session) (locale : Text) (files : List (Text × Table)) :
    SameSettings s (s.checkLocale locale files) :=
  s.checkAll_settings locale _

theorem checkLocale_added (silent : s.lineSuppressed = {}) (locale : Text)
    (files : List (Text × Table)) :
    ∃ ws, (s.checkLocale locale files).log.toList = s.log.toList ++ ws ∧
      ∀ w ∈ ws, w.locale = locale :=
  checkAll_added silent locale _

theorem checkLocale_baseline {locale : Text} (other : locale ≠ s.baseLocale)
    (files : List (Text × Table)) : (s.checkLocale locale files).baseline = s.baseline :=
  checkAll_baseline other _

/-! ### Missing files -/

/-- What operations on files leave of a session: they forget no group and report no missing file. -/
structure Going (s t : Session) : Prop where
  groups : s.seenGroups ⊆ t.seenGroups
  told : ∀ w ∈ t.log, w.problem = .missingFile → w ∈ s.log

theorem Going.refl (s : Session) : Going s s := ⟨fun _ => id, fun _ told _ => told⟩

theorem Going.trans {t u : Session} (first : Going s t) (second : Going t u) : Going s u :=
  ⟨fun _ seen => second.groups (first.groups seen), fun w told problem =>
    first.told w (second.told w told problem) problem⟩

end LocaleLint.Session
