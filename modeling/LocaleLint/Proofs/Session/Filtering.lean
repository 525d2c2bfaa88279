import LocaleLint.Proofs.Session.Silence

/-!
# Which warnings are left out

Each warning of a session without suppression is traced to the operation that raised it. What a
session suppresses as a whole and what the directives of its records suppress then leave out
warnings by their problem and their operation, and change nothing else.
-/

namespace LocaleLint.Session

/-- The operation without the directive of its record. -/
def Op.bare : Op → Op
  | .checkRecord r => .checkRecord { r with suppressed := {} }
  | op => op

/-- A warning and the operation that raised it. -/
structure Raised where
  op : Op
  warning : Warning

/-- Whether the directive of the record that raised the warning lets it stand. -/
def Raised.stands (e : Raised) : Bool := !e.op.suppressed.covers e.warning.problem

def raised (s : Session) (op : Op) : List Warning := (s.step op).log.toList.drop s.log.size

structure Traced where
  session : Session
  trail : List Raised := []

def Traced.step (t : Traced) (op : Op) : Traced where
  session := t.session.step op.bare
  trail := op.keep [] t.trail ++ (t.session.raised op.bare).map (Raised.mk op)

/-- The warnings since the last reset when directives are not obeyed. -/
def trail (s : Session) (ops : List Op) : List Raised :=
  (ops.foldl Traced.step { session := s }).trail

/-- A warning of a record is about that record, and about nothing that a whole file can have. -/
def Raised.Own (e : Raised) : Prop :=
  ∀ r, e.op = .checkRecord r →
    e.warning.subject = r.key ∧ e.warning.line = (if r.line = 0 then none else some r.line) ∧
      e.warning.problem ∈ stringProblems

/-- A session with directives beside one without: only the log differs, by the warnings that do not
stand. -/
structure Follows (s : Session) (t : Traced) : Prop where
  same : s = { t.session with log := ((t.trail.filter Raised.stands).map Raised.warning).toArray }
  whole : t.trail.map Raised.warning = t.session.log.toList
  own : ∀ e ∈ t.trail, e.Own
  quiet : t.session.suppressed = {}
  silent : t.session.lineSuppressed = {}

/-! ### One operation -/

theorem suppressed_bare (op : Op) : op.bare.suppressed = {} := by
  cases op <;> rfl

theorem keep_bare {α : Type} (nothing old : α) (op : Op) :
    op.bare.keep nothing old = op.keep nothing old := by
  cases op <;> rfl

/-- What a string changes depends neither on the log nor on a directive. -/
theorem learn_beside (s : Session) (lineSuppressed : Suppression) (log : Array Warning)
    (key value : Text) :
    { s with lineSuppressed, log }.learn key value =
      { s.learn key value with lineSuppressed, log } := by
  by_cases known : key ∈ s.seenKeys ∨ key = []
  · rw [s.learn_known known]
    exact learn_known { s with lineSuppressed, log } known value
  · rw [s.learn_fresh known]
    exact learn_fresh { s with lineSuppressed, log } known value

theorem after_bare (s : Session) (log : Array Warning) (op : Op) :
    { s with log }.after op = { s.after op.bare with log := op.keep #[] log } := by
  cases op with
  | checkRecord r =>
    have beside := learn_beside (s.atRecord { r with suppressed := {} }) r.suppressed log r.key r.value
    exact congrArg (fun t : Session => { t with lineSuppressed := {} }) beside
  | checkString key value =>
    have kept : s.lineSuppressed = (s.learn key value).lineSuppressed := by rw [learn_frame]
    have beside := learn_beside s s.lineSuppressed log key value
    exact beside.trans (congrArg (fun d => ({ s.learn key value with
      lineSuppressed := d, log } : Session)) kept)
  | _ => rfl

theorem findings_bare (s : Session) (log : Array Warning) (op : Op) :
    { s with log }.findings op = s.findings op.bare := by
  cases op <;> rfl

variable {s : Session} {t : Traced}

theorem raised_eq (quiet : s.suppressed = {}) (silent : s.lineSuppressed = {}) (op : Op) :
    s.raised op.bare = s.findings op.bare := by
  unfold raised
  rw [step_quiet quiet silent (suppressed_bare op), logAll, after_log]
  cases op with
  | reset => simp [Op.bare, Op.keep, findings]
  | _ => simp [Op.bare, Op.keep]

theorem step_beside (quiet : s.suppressed = {}) (silent : s.lineSuppressed = {})
    (log : Array Warning) (op : Op) :
    { s with log }.step op = { s.after op.bare with
      log := op.keep #[] log ++
        ((s.findings op.bare).filter fun w => !op.suppressed.covers w.problem).toArray } := by
  have stepped := step_eq { s with log } silent op
  rw [after_bare, findings_bare] at stepped
  have shown : ((s.findings op.bare).filter fun w =>
      !(s.suppressed.covers w.problem || op.suppressed.covers w.problem)) =
      (s.findings op.bare).filter fun w => !op.suppressed.covers w.problem := by
    rw [quiet]
    rfl
  exact stepped.trans (congrArg (logAll _) shown)

theorem findings_own (s : Session) (op : Op) {w : Warning} (h : w ∈ s.findings op.bare) :
    (Raised.mk op w).Own := by
  rintro r rfl
  obtain ⟨p, found, rfl⟩ := List.mem_map.mp h
  have listed := s.mem_problems found
  rw [finding_string _ listed]
  exact ⟨rfl, rfl, listed⟩

theorem filter_stands (op : Op) (ws : List Warning) :
    ((ws.map (Raised.mk op)).filter Raised.stands).map Raised.warning =
      ws.filter fun w => !op.suppressed.covers w.problem := by
  rw [List.filter_map, List.map_map]
  exact List.map_id _

theorem follows_step (h : Follows s t) (op : Op) : Follows (s.step op) (t.step op) := by
  obtain ⟨rfl, whole, own, quiet, silent⟩ := h
  have next : (t.step op).session =
      (t.session.after op.bare).logAll (t.session.findings op.bare) :=
    step_quiet quiet silent (suppressed_bare op)
  have trail : (t.step op).trail =
      op.keep [] t.trail ++ (t.session.findings op.bare).map (Raised.mk op) := by
    rw [Traced.step, raised_eq quiet silent op]
  have old : (((op.keep [] t.trail).filter Raised.stands).map Raised.warning).toArray =
      op.keep #[] ((t.trail.filter Raised.stands).map Raised.warning).toArray :=
    Op.map_keep (fun es : List Raised => ((es.filter Raised.stands).map Raised.warning).toArray) _ _ op
  constructor
  · have log : (((t.step op).trail.filter Raised.stands).map Raised.warning).toArray =
        op.keep #[] ((t.trail.filter Raised.stands).map Raised.warning).toArray ++
          ((t.session.findings op.bare).filter fun w =>
            !op.suppressed.covers w.problem).toArray := by
      rw [trail, List.filter_append, List.map_append, filter_stands, ← old, List.append_toArray]
    rw [step_beside quiet silent, ← log, next]
    rfl
  · have log : (t.session.after op.bare).log.toList = op.keep [] t.session.log.toList := by
      rw [after_log, keep_bare]
      exact Op.map_keep Array.toList _ _ op
    have heard : (op.keep [] t.trail).map Raised.warning = op.keep [] t.session.log.toList := by
      rw [← whole]
      exact Op.map_keep (List.map Raised.warning) _ _ op
    rw [trail, next, List.map_append, List.map_map, heard, logAll, Array.toList_append, log]
    exact congrArg _ (List.map_id _)
  · intro e member
    rw [trail] at member
    rcases List.mem_append.mp member with earlier | now
    · cases op with
      | reset => cases earlier
      | _ => exact own e earlier
    · obtain ⟨w, found, rfl⟩ := List.mem_map.mp now
      exact findings_own t.session op found
  · rw [next]
    exact (after_suppressed _ _).trans quiet
  · rw [next]
    exact after_silent _ silent _

/-! ### All operations -/

theorem follows_run (h : Follows s t) (ops : List Op) :
    Follows (s.run ops) (ops.foldl Traced.step t) := by
  induction ops generalizing s t with
  | nil => exact h
  | cons op ops ih => exact ih (follows_step h op)

theorem session_run (t : Traced) (ops : List Op) :
    (ops.foldl Traced.step t).session = t.session.run (ops.map Op.bare) := by
  induction ops generalizing t with
  | nil => rfl
  | cons op ops ih => exact ih (t.step op)

theorem answers_bare (h : Follows s t) (ops : List Op) :
    s.answers ops = t.session.answers (ops.map Op.bare) := by
  induction ops generalizing s t with
  | nil => rfl
  | cons op ops ih =>
    have same : s.answer? op = t.session.answer? op.bare := by
      rw [h.same]
      cases op <;> rfl
    rw [List.map_cons, answers, answers, same, ih (follows_step h op)]
    rfl

theorem follows_new (baseLocale : Text) (assignment : Assignment) :
    Follows (new baseLocale {} assignment) { session := new baseLocale {} assignment } where
  same := rfl
  whole := rfl
  own _ member := nomatch member
  quiet := rfl
  silent := rfl

variable [MultiByte.Tables]

/-- Suppression is filtering. What operations answer and what they leave in the baseline depends
neither on what the session suppresses nor on directives. Its log is that of the same operations
without any suppression, less the warnings that the session suppresses or that the directive of a
record suppresses among those that were raised for this record; and these are never about another
record or a whole file. A survey that suppresses codes differs from one that suppresses none by the
warnings with these codes. -/
theorem log_suppressed (baseLocale : Text) (suppressed : Suppression) (assignment : Assignment)
    (ops : List Op) (d : Disk) (root : Path) (s : Session) :
    let start := new baseLocale {} assignment
    let plain := start.run (ops.map Op.bare)
    let full := (new baseLocale suppressed assignment).run ops
    let plainSurvey := Survey.run d root { s with suppressed := {} }
    let fullSurvey := Survey.run d root s
    (full.baseline = plain.baseline ∧
      (new baseLocale suppressed assignment).answers ops = start.answers (ops.map Op.bare) ∧
      (start.trail ops).map Raised.warning = plain.log.toList ∧
      full.log.toList = ((start.trail ops).filter fun e =>
        e.warning.problem.code ∉ suppressed.codes ∧
          e.warning.problem.code ∉ e.op.suppressed.codes).map Raised.warning ∧
      ∀ e ∈ start.trail ops, e.Own) ∧
    fullSurvey.outcome = plainSurvey.outcome ∧
      fullSurvey.diagnostics = plainSurvey.diagnostics ∧
      fullSurvey.session.baseline = plainSurvey.session.baseline ∧
      fullSurvey.session.log.toList =
        plainSurvey.session.log.toList.filter fun w => w.problem.code ∉ s.suppressed.codes := by
  intro start plain full plainSurvey fullSurvey
  have begun : new baseLocale suppressed assignment = start.silence suppressed := new_silence _ _ _
  have follows := follows_run (follows_new baseLocale assignment) ops
  have bare : (ops.foldl Traced.step { session := start }).session = plain := session_run _ ops
  have silenced : full = (start.run ops).silence suppressed :=
    (congrArg (run · ops) begun).trans (run_silence _ _ _)
  have surveyed : fullSurvey = plainSurvey.silence s.suppressed := Survey.run_eq_silence d s root
  refine ⟨⟨?_, ?_, ?_, ?_, follows.own⟩, ?_⟩
  · rw [silenced, ← bare]
    change (start.run ops).baseline = _
    rw [follows.same]
  · rw [begun, answers_silence]
    exact answers_bare (follows_new baseLocale assignment) ops
  · exact follows.whole.trans (by rw [bare])
  · rw [silenced]
    change ((start.run ops).log.filter fun w => !suppressed.covers w.problem).toList = _
    rw [follows.same, Array.toList_filter, List.filter_map, List.filter_filter]
    congr 2
    funext e
    rw [Bool.decide_and, ← Suppression.not_covers, ← Suppression.not_covers]
    rfl
  · rw [surveyed]
    refine ⟨rfl, rfl, rfl, Array.toList_filter.trans ?_⟩
    simp only [Suppression.not_covers]

end LocaleLint.Session
