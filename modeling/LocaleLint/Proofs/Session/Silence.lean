import LocaleLint.Proofs.Session.Operation
import LocaleLint.Survey

/-!
# Suppression is filtering

A session that suppresses more goes through the same states and logs the same warnings less those
that are suppressed. The same holds for the directives of records, each of which touches only the
warnings of its own record.
-/

namespace LocaleLint

def Suppression.union (a b : Suppression) : Suppression := ⟨a.codes ++ b.codes⟩

theorem Suppression.covers_union (a b : Suppression) (p : Problem) :
    (a.union b).covers p = (a.covers p || b.covers p) := by
  simp [covers, union]

theorem Suppression.not_covers (s : Suppression) (p : Problem) :
    (!s.covers p) = decide (p.code ∉ s.codes) := by
  rw [covers, decide_not, List.contains_eq_mem]

namespace Session

/-! ### More suppressed in the whole session -/

/-- The session as it were if it had suppressed more from its start. -/
def silence (s : Session) (more : Suppression) : Session :=
  { s with
    suppressed := s.suppressed.union more
    log := s.log.filter fun w => !more.covers w.problem }

theorem new_silence (baseLocale : Text) (suppressed : Suppression) (assignment : Assignment) :
    new baseLocale suppressed assignment = (new baseLocale {} assignment).silence suppressed := by
  simp [new, silence, Suppression.union]

variable (s : Session) (more : Suppression)

theorem suppresses_silence (p : Problem) :
    (s.silence more).suppresses p = (s.suppresses p || more.covers p) := by
  simp only [suppresses, silence, Suppression.covers_union, Bool.or_assoc, Bool.or_comm (more.covers p)]

theorem tell_silence (ws : List Warning) :
    (s.silence more).tell ws = (s.tell ws).silence more := by
  have parts : (ws.filter fun w => !(s.silence more).suppresses w.problem) =
      (ws.filter fun w => !s.suppresses w.problem).filter fun w => !more.covers w.problem := by
    rw [List.filter_filter]
    congr 1
    funext w
    rw [suppresses_silence, Bool.not_or, Bool.and_comm]
  unfold tell
  rw [parts]
  simp [logAll, silence]

theorem warnIn_silence (p : Problem) (subject group : Text) :
    (s.silence more).warnIn p subject group = (s.warnIn p subject group).silence more := by
  rw [warnIn_eq, warnIn_eq, ← tell_silence]
  rfl

theorem learn_silence (key value : Text) :
    (s.silence more).learn key value = (s.learn key value).silence more := by
  by_cases known : key ∈ s.seenKeys ∨ key = []
  · rw [s.learn_known known, learn_known (s.silence more) known]
  · rw [s.learn_fresh known, learn_fresh (s.silence more) known]
    rfl

theorem checkString_silence (key value : Text) :
    (s.silence more).checkString key value = (s.checkString key value).silence more := by
  rw [checkString_eq, checkString_eq, learn_silence, tell_silence]
  rfl

theorem checkRecord_silence (r : Record) :
    (s.silence more).checkRecord r = (s.checkRecord r).silence more :=
  congrArg (fun t : Session => { t with lineSuppressed := {} })
    ((s.atRecord r).checkString_silence more r.key r.value)

theorem closeFile_silence (lineCount : Nat) :
    (s.silence more).closeFile lineCount = (s.closeFile lineCount).silence more := by
  rw [closeFile_eq, closeFile_eq, ← tell_silence]
  rfl

theorem leaveLocale_silence : (s.silence more).leaveLocale = s.leaveLocale.silence more := by
  rw [leaveLocale_eq, leaveLocale_eq, ← tell_silence]
  rfl

theorem reset_silence : (s.silence more).reset = s.reset.silence more := by
  simp [reset, silence]

theorem step_silence (op : Op) : (s.silence more).step op = (s.step op).silence more := by
  cases op with
  | enterLocale | openFile => rfl
  | checkRecord r => exact s.checkRecord_silence more r
  | checkString key value => exact s.checkString_silence more key value
  | closeFile lineCount => exact s.closeFile_silence more lineCount
  | leaveLocale => exact s.leaveLocale_silence more
  | warn p subject group? => exact s.warnIn_silence more p subject _
  | reset => exact s.reset_silence more

theorem run_silence (ops : List Op) : (s.silence more).run ops = (s.run ops).silence more :=
  List.foldl_hom (silence · more) fun s op => s.step_silence more op

theorem answers_silence (ops : List Op) : (s.silence more).answers ops = s.answers ops := by
  induction ops generalizing s with
  | nil => rfl
  | cons op ops ih =>
    have same : (s.silence more).answer? op = s.answer? op := by cases op <;> rfl
    rw [answers, answers, same, step_silence, ih]

/-! ### More suppressed in a whole survey -/

theorem checkTable_silence (t : Table) :
    (s.silence more).checkTable t = (s.checkTable t).silence more := by
  have records : t.records.foldl checkRecord (s.silence more) =
      (t.records.foldl checkRecord s).silence more :=
    List.foldl_hom (silence · more) fun s r => s.checkRecord_silence more r
  rw [checkTable, checkTable, records, closeFile_silence]

theorem checkFound_silence (group : Text) (table? : Option Table) :
    (s.silence more).checkFound group table? = (s.checkFound group table?).silence more := by
  have opened : (s.silence more).openFile group = (s.openFile group).silence more := rfl
  have known : (s.silence more).hasBase group = s.hasBase group := rfl
  unfold checkFound
  rw [opened, known]
  split
  · cases table? with
    | some t => exact (s.openFile group).checkTable_silence more t
    | none => rfl
  · exact (s.openFile group).warnIn_silence more _ _ _

theorem checkAll_silence (locale : Text) (files : List (Text × Option Table)) :
    (s.silence more).checkAll locale files = (s.checkAll locale files).silence more := by
  have entered : (s.silence more).enterLocale locale = (s.enterLocale locale).silence more := rfl
  have checked : files.foldl (fun s f => s.checkFound f.1 f.2) ((s.enterLocale locale).silence more) =
      (files.foldl (fun s f => s.checkFound f.1 f.2) (s.enterLocale locale)).silence more :=
    List.foldl_hom (silence · more) fun s f => s.checkFound_silence more f.1 f.2
  rw [checkAll, checkAll, entered, checked, leaveLocale_silence]

end Session

namespace Survey

def silence (v : Survey) (more : Suppression) : Survey :=
  { v with session := v.session.silence more }

variable [MultiByte.Tables] (d : Disk) (s : Session) (more : Suppression)

theorem checkDirectory_silence (dir : Path) :
    checkDirectory d (s.silence more) dir = (checkDirectory d s dir).silence more := by
  have checked : ∀ locale sources, checkSources (s.silence more) locale sources =
      (checkSources s locale sources).silence more := by
    intro locale sources
    unfold checkSources
    rw [Session.checkAll_silence]
    rfl
  unfold checkDirectory
  split
  · dsimp only
    rw [checked]
    rfl
  · rfl

theorem next_silence (v : Survey) (dir : Path) :
    next d (v.silence more) dir = (next d v dir).silence more := by
  unfold next
  have checked := checkDirectory_silence d v.session more dir
  exact congrArg (fun m : Survey => { m with diagnostics := v.diagnostics ++ m.diagnostics }) checked

theorem run_silence (root : Path) : run d root (s.silence more) = (run d root s).silence more := by
  have base : (s.reset.silence more).baseLocale = s.reset.baseLocale := rfl
  have others : ∀ (dirs : List Path) (v : Survey),
      dirs.foldl (next d) (v.silence more) = (dirs.foldl (next d) v).silence more := fun dirs v =>
    List.foldl_hom (silence · more) fun v dir => next_silence d more v dir
  unfold run
  rw [Session.reset_silence]
  dsimp only
  rw [base]
  split
  · rw [checkDirectory_silence, ← others]
    rfl
  · rfl

/-- A survey begins with a reset, so it may as well suppress its codes on top of nothing. -/
theorem run_eq_silence (root : Path) :
    run d root s = (run d root { s with suppressed := {} }).silence s.suppressed := by
  have fresh : ∀ t : Session, run d root t = run d root t.reset := fun _ => rfl
  have again : s.reset = { s with suppressed := {} }.reset.silence s.suppressed :=
    Session.new_silence _ _ _
  calc run d root s
    _ = run d root s.reset := fresh s
    _ = (run d root { s with suppressed := {} }.reset).silence s.suppressed := by
      rw [again, run_silence]
    _ = (run d root { s with suppressed := {} }).silence s.suppressed := by rw [← fresh]

end Survey
end LocaleLint
