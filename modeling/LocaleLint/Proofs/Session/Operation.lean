import LocaleLint.Proofs.Baseline
import LocaleLint.Session

namespace LocaleLint.Session

inductive Op where
  | enterLocale (locale : Text)
  | openFile (group : Text)
  | checkRecord (r : Record)
  | checkString (key value : Text)
  | closeFile (lineCount : Nat)
  | leaveLocale
  | warn (p : Problem) (subject : Text) (group? : Option Text)
  | reset

def step (s : Session) : Op → Session
  | .enterLocale locale => s.enterLocale locale
  | .openFile group => s.openFile group
  | .checkRecord r => s.checkRecord r
  | .checkString key value => s.checkString key value
  | .closeFile lineCount => s.closeFile lineCount
  | .leaveLocale => s.leaveLocale
  | .warn p subject group? => s.warnIn p subject (group?.getD s.group)
  | .reset => s.reset

/-- Whether the strings of a file that is opened can be checked. -/
def answer? (s : Session) : Op → Option Bool
  | .openFile group => some (s.hasBase group)
  | _ => none

def run (s : Session) (ops : List Op) : Session := ops.foldl step s

def answers (s : Session) : List Op → List Bool
  | [] => []
  | op :: ops => (s.answer? op).toList ++ (s.step op).answers ops

inductive Reachable : Session → Prop where
  | new (baseLocale : Text) (suppressed : Suppression) (assignment : Assignment) :
      Reachable (new baseLocale suppressed assignment)
  | step {s : Session} (h : Reachable s) (op : Op) : Reachable (s.step op)

theorem reachable_run {s : Session} (h : Reachable s) (ops : List Op) : Reachable (s.run ops) := by
  induction ops generalizing s with
  | nil => exact h
  | cons op ops ih => exact ih (h.step op)

/-! ### Logging -/

def finding (s : Session) (p : Problem) (subject group : Text) : Warning :=
  ⟨p, s.locale, group, if s.line = 0 || p.isFileLevel then none else some s.line, subject⟩

def logAll (s : Session) (ws : List Warning) : Session := { s with log := s.log ++ ws.toArray }

/-- Logs those of the warnings that are not suppressed. -/
def tell (s : Session) (ws : List Warning) : Session :=
  s.logAll (ws.filter fun w => !s.suppresses w.problem)

variable {α : Type} (s : Session)

theorem logAll_nil : s.logAll [] = s := by
  simp [logAll]

theorem logAll_logAll (ws vs : List Warning) : (s.logAll ws).logAll vs = s.logAll (ws ++ vs) := by
  simp [logAll]

theorem tell_nil : s.tell [] = s := s.logAll_nil

theorem tell_tell (ws vs : List Warning) : (s.tell ws).tell vs = s.tell (ws ++ vs) := by
  unfold tell
  rw [List.filter_append]
  exact logAll_logAll _ _ _

theorem warnIn_eq (p : Problem) (subject group : Text) :
    s.warnIn p subject group = s.tell [s.finding p subject group] := by
  unfold warnIn tell
  cases covered : s.suppresses p with
  | true => simp [covered, finding, logAll_nil]
  | false => simp [covered, finding, logAll]

/-- Warnings that logging does not influence may be logged at once. -/
theorem foldl_eq_tell {f : Session → α → Session} {w : Session → α → Warning}
    (each : ∀ s a, f s a = s.tell [w s a]) (same : ∀ s ws a, w (tell s ws) a = w s a)
    (as : List α) : as.foldl f s = s.tell (as.map (w s)) := by
  induction as generalizing s with
  | nil => exact s.tell_nil.symm
  | cons a as ih =>
    have still : w (s.tell [w s a]) = w s := funext (same s _)
    rw [List.foldl_cons, each, ih, tell_tell, still, List.map_cons, List.singleton_append]

/-! ### Effects -/

def atRecord (r : Record) : Session := { s with line := r.line, lineSuppressed := r.suppressed }

def learn (key value : Text) : Session :=
  if s.seenKeys.contains key || key.isEmpty then s
  else
    { s with
      seenKeys := key :: s.seenKeys
      baseline := if s.isBase then s.baseline.insert s.group key (.ofValue value) else s.baseline }

def problems (key value : Text) : List Problem :=
  if s.seenKeys.contains key then [.duplicate]
  else if key.isEmpty || s.isBase then []
  else differences (s.baseline.get? s.group key) value

/-- The base keys that the file lacks, as they are found on its last line. -/
def missing (lineCount : Nat) : List Warning :=
  if s.isBase then []
  else
    ((s.baseline.keys s.group).filter fun k => !s.seenKeys.contains k).map fun k =>
      { s with line := lineCount }.finding .missing k s.group

def missingFiles : List Warning :=
  if s.isBase then []
  else
    (s.baseline.groups.filter fun g => !s.seenGroups.contains g).map fun g =>
      s.finding .missingFile (fileStem g s.locale) g

def after : Op → Session
  | .enterLocale locale => s.enterLocale locale
  | .openFile group => s.openFile group
  | .checkRecord r => { (s.atRecord r).learn r.key r.value with lineSuppressed := {} }
  | .checkString key value => s.learn key value
  | .closeFile lineCount => { s with line := lineCount }
  | .leaveLocale => s
  | .warn _ _ _ => s
  | .reset => s.reset

/-- The warnings of an operation when nothing is suppressed. -/
def findings : Op → List Warning
  | .checkRecord r =>
    (s.problems r.key r.value).map fun p => (s.atRecord r).finding p r.key s.group
  | .checkString key value => (s.problems key value).map fun p => s.finding p key s.group
  | .closeFile lineCount => s.missing lineCount
  | .leaveLocale => s.missingFiles
  | .warn p subject group? => [s.finding p subject (group?.getD s.group)]
  | _ => []

/-- What the directive of a record suppresses while the record is checked. -/
def Op.suppressed : Op → Suppression
  | .checkRecord r => r.suppressed
  | _ => {}

/-- What is left of something that only a reset clears. -/
def Op.keep (nothing old : α) : Op → α
  | .reset => nothing
  | _ => old

theorem Op.map_keep {β : Type} (f : α → β) (nothing old : α) (op : Op) :
    f (op.keep nothing old) = op.keep (f nothing) (f old) := by
  cases op <;> rfl

theorem learn_known {key : Text} (h : key ∈ s.seenKeys ∨ key = []) (value : Text) :
    s.learn key value = s :=
  if_pos (by simpa using h)

theorem learn_fresh {key : Text} (h : ¬ (key ∈ s.seenKeys ∨ key = [])) (value : Text) :
    s.learn key value =
      { s with
        seenKeys := key :: s.seenKeys
        baseline :=
          if s.isBase then s.baseline.insert s.group key (.ofValue value) else s.baseline } :=
  if_neg (by simpa using h)

/-- A string changes nothing besides the keys seen and the baseline. -/
theorem learn_frame (key value : Text) :
    s.learn key value =
      { s with
        seenKeys := (s.learn key value).seenKeys
        baseline := (s.learn key value).baseline } := by
  by_cases known : key ∈ s.seenKeys ∨ key = []
  · rw [s.learn_known known]
  · rw [s.learn_fresh known]

theorem checkString_eq (key value : Text) :
    s.checkString key value =
      (s.learn key value).tell ((s.problems key value).map fun p => s.finding p key s.group) := by
  unfold checkString problems
  by_cases seen : s.seenKeys.contains key = true
  · rw [if_pos seen, if_pos seen, s.learn_known (Or.inl (List.contains_iff_mem.mp seen))]
    exact warnIn_eq _ _ _ _
  · rw [if_neg seen, if_neg seen]
    by_cases empty : key.isEmpty = true
    · rw [if_pos empty, if_pos (by simp [empty]), s.learn_known (Or.inr (List.isEmpty_iff.mp empty))]
      exact (tell_nil s).symm
    · have fresh : ¬ (key ∈ s.seenKeys ∨ key = []) := by simpa using And.intro seen empty
      rw [if_neg empty, s.learn_fresh fresh]
      dsimp only
      by_cases base : s.isBase = true
      · have stays : isBase { s with seenKeys := key :: s.seenKeys } = true := base
        rw [if_pos stays, if_pos base, if_pos (by simp [base])]
        exact (tell_nil _).symm
      · have stays : isBase { s with seenKeys := key :: s.seenKeys } ≠ true := base
        rw [if_neg stays, if_neg base, if_neg (by simp [empty, base])]
        exact foldl_eq_tell _ (fun s p => warnIn_eq s p key s.group) (fun _ _ _ => rfl) _

theorem closeFile_eq (lineCount : Nat) :
    s.closeFile lineCount = { s with line := lineCount }.tell (s.missing lineCount) := by
  unfold closeFile missing
  by_cases base : s.isBase = true
  · have stays : isBase { s with line := lineCount } = true := base
    rw [if_pos base]
    exact (if_pos stays).trans (tell_nil _).symm
  · have stays : isBase { s with line := lineCount } ≠ true := base
    rw [if_neg base]
    exact (if_neg stays).trans (foldl_eq_tell _ (fun s k => warnIn_eq s .missing k s.group)
      (fun _ _ _ => rfl) _)

theorem leaveLocale_eq : s.leaveLocale = s.tell s.missingFiles := by
  unfold leaveLocale missingFiles
  split
  · exact s.tell_nil.symm
  · exact foldl_eq_tell _ (fun s g => warnIn_eq s .missingFile (fileStem g s.locale) g)
      (fun _ _ _ => rfl) _

theorem learn_log (key value : Text) : (s.learn key value).log = s.log := by
  rw [learn_frame]

theorem learn_suppresses (key value : Text) (p : Problem) :
    (s.learn key value).suppresses p = s.suppresses p := by
  rw [learn_frame]
  rfl

theorem after_log (op : Op) : (s.after op).log = op.keep #[] s.log := by
  cases op with
  | checkRecord r => exact (s.atRecord r).learn_log r.key r.value
  | checkString key value => exact s.learn_log key value
  | _ => rfl

theorem after_suppressed (op : Op) : (s.after op).suppressed = s.suppressed := by
  cases op with
  | checkRecord r =>
    change ((s.atRecord r).learn r.key r.value).suppressed = _
    rw [learn_frame]
    rfl
  | checkString key value =>
    change (s.learn key value).suppressed = _
    rw [learn_frame]
  | _ => rfl

theorem after_silent (silent : s.lineSuppressed = {}) (op : Op) :
    (s.after op).lineSuppressed = {} := by
  cases op with
  | checkRecord | reset => rfl
  | checkString key value =>
    change (s.learn key value).lineSuppressed = {}
    rw [learn_frame]
    exact silent
  | _ => exact silent

/-- An operation logs what it finds, less what is suppressed for the whole session or by the
directive of the record that is checked. -/
theorem step_eq (silent : s.lineSuppressed = {}) (op : Op) :
    s.step op = (s.after op).logAll ((s.findings op).filter fun w =>
      !(s.suppressed.covers w.problem || op.suppressed.covers w.problem)) := by
  have told : ∀ ws : List Warning, ws.filter (fun w => !s.suppresses w.problem) =
      ws.filter fun w => !(s.suppressed.covers w.problem || ({} : Suppression).covers w.problem) := by
    intro ws
    simp only [suppresses, silent]
  cases op with
  | enterLocale | openFile | reset => exact (logAll_nil _).symm
  | checkRecord r =>
    change { (s.atRecord r).checkString r.key r.value with lineSuppressed := {} } = _
    simp only [checkString_eq, tell, learn_suppresses]
    rfl
  | checkString key value =>
    change s.checkString key value = _
    simp only [checkString_eq, tell, learn_suppresses, told]
    rfl
  | closeFile lineCount =>
    exact (s.closeFile_eq lineCount).trans (congrArg (logAll _) (told _))
  | leaveLocale => exact s.leaveLocale_eq.trans (congrArg (logAll _) (told _))
  | warn p subject group? => exact (s.warnIn_eq _ _ _).trans (congrArg (logAll _) (told _))

theorem step_silent (silent : s.lineSuppressed = {}) (op : Op) :
    (s.step op).lineSuppressed = {} := by
  rw [step_eq s silent]
  exact s.after_silent silent op

def stringProblems : List Problem := [.duplicate, .extra, .identical, .substitutionCount]

theorem mem_problems {key value : Text} {p : Problem} (h : p ∈ s.problems key value) :
    p ∈ stringProblems := by
  unfold problems at h
  split at h
  · rw [List.mem_singleton.mp h]
    decide
  · split at h
    · cases h
    · unfold differences at h
      split at h
      · rw [List.mem_singleton.mp h]
        decide
      · rcases List.mem_append.mp h with same | count
        · split at same
          · rw [List.mem_singleton.mp same]
            decide
          · cases same
        · split at count
          · rw [List.mem_singleton.mp count]
            decide
          · cases count

theorem isFileLevel_string {p : Problem} (h : p ∈ stringProblems) : p.isFileLevel = false := by
  have none : ∀ p ∈ stringProblems, p.isFileLevel = false := by decide
  exact none p h

theorem finding_string {p : Problem} (h : p ∈ stringProblems) (subject group : Text) :
    s.finding p subject group =
      ⟨p, s.locale, group, if s.line = 0 then none else some s.line, subject⟩ := by
  unfold finding
  rw [isFileLevel_string h]
  by_cases none : s.line = 0 <;> simp [none]

theorem mem_missing {lineCount : Nat} {w : Warning} (h : w ∈ s.missing lineCount) :
    s.isBase = false ∧ ∃ k ∈ s.baseline.keys s.group,
      w = { s with line := lineCount }.finding .missing k s.group := by
  unfold missing at h
  split at h
  · cases h
  · next other =>
    obtain ⟨k, lacking, rfl⟩ := List.mem_map.mp h
    exact ⟨Bool.eq_false_iff.mpr other, k, (List.mem_filter.mp lacking).1, rfl⟩

theorem mem_missingFiles {w : Warning} (h : w ∈ s.missingFiles) :
    s.isBase = false ∧ ∃ g, g ∉ s.seenGroups ∧
      w = s.finding .missingFile (fileStem g s.locale) g := by
  unfold missingFiles at h
  split at h
  · cases h
  · next other =>
    obtain ⟨g, lacking, rfl⟩ := List.mem_map.mp h
    have unseen := (List.mem_filter.mp lacking).2
    exact ⟨Bool.eq_false_iff.mpr other, g, by simpa using unseen, rfl⟩

theorem covers_empty (p : Problem) : ({} : Suppression).covers p = false := rfl

variable {s} {op : Op}

theorem step_quiet (quiet : s.suppressed = {}) (silent : s.lineSuppressed = {})
    (plain : op.suppressed = {}) : s.step op = (s.after op).logAll (s.findings op) := by
  rw [step_eq s silent, quiet, plain]
  simp [covers_empty]

/-! ### What holds in every session -/

structure Sound (s : Session) : Prop where
  baseline : s.baseline.Sound
  seen : [] ∉ s.seenKeys
  silent : s.lineSuppressed = {}

theorem learn_baseline (sound : s.baseline.Sound) (key value : Text) :
    (s.learn key value).baseline.Sound := by
  by_cases known : key ∈ s.seenKeys ∨ key = []
  · rw [s.learn_known known]
    exact sound
  · rw [s.learn_fresh known]
    dsimp only
    split
    · exact Baseline.sound_insert sound s.group value (not_or.mp known).2
    · exact sound

theorem learn_seen (h : [] ∉ s.seenKeys) (key value : Text) :
    [] ∉ (s.learn key value).seenKeys := by
  by_cases known : key ∈ s.seenKeys ∨ key = []
  · rw [s.learn_known known]
    exact h
  · rw [s.learn_fresh known]
    exact List.not_mem_cons_of_ne_of_not_mem (Ne.symm (not_or.mp known).2) h

theorem sound_new (baseLocale : Text) (suppressed : Suppression) (assignment : Assignment) :
    (new baseLocale suppressed assignment).Sound :=
  ⟨Baseline.sound_empty, List.not_mem_nil, rfl⟩

theorem after_sound (sound : s.Sound) (op : Op) : (s.after op).Sound := by
  have silent := s.after_silent sound.silent op
  obtain ⟨baseline, seen, -⟩ := sound
  cases op with
  | enterLocale | closeFile | leaveLocale | warn => exact ⟨baseline, seen, silent⟩
  | openFile group =>
    refine ⟨?_, List.not_mem_nil, silent⟩
    change (if s.isBase then s.baseline.addGroup group else s.baseline).Sound
    split
    · exact Baseline.sound_addGroup baseline group
    · exact baseline
  | checkRecord r =>
    exact ⟨learn_baseline (s := s.atRecord r) baseline r.key r.value,
      learn_seen (s := s.atRecord r) seen r.key r.value, silent⟩
  | checkString key value =>
    exact ⟨learn_baseline baseline key value, learn_seen seen key value, silent⟩
  | reset => exact sound_new _ _ _

theorem step_sound (sound : s.Sound) (op : Op) : (s.step op).Sound := by
  obtain ⟨baseline, seen, silent⟩ := after_sound sound op
  rw [step_eq s sound.silent]
  exact ⟨baseline, seen, silent⟩

theorem reachable_sound (h : Reachable s) : s.Sound := by
  induction h with
  | new baseLocale suppressed assignment => exact sound_new _ _ _
  | step _ op ih => exact step_sound ih op

end LocaleLint.Session
