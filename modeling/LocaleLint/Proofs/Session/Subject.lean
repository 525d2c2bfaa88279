import LocaleLint.Proofs.Baseline.Filling
import LocaleLint.Proofs.Session.Course

namespace LocaleLint.Session

/-- Whether all that an operation brings into a session, to be a key or the subject of a warning,
has a property. -/
def Op.Brings (P : Text → Prop) : Op → Prop
  | .checkRecord r => P r.key
  | .checkString key _ => P key
  | .warn p subject _ => p.isFileLevel = false → P subject
  | _ => True

/-- Whether the base keys and the subjects of a session have a property, whole files apart. -/
structure Keyed (P : Text → Prop) (s : Session) : Prop where
  keys : ∀ group, ∀ k ∈ s.baseline.keys group, P k
  subjects : ∀ w ∈ s.log, w.problem.isFileLevel = false → P w.subject

variable {P : Text → Prop} {s : Session} {op : Op}

theorem keyed_new (P : Text → Prop) (baseLocale : Text) (suppressed : Suppression)
    (assignment : Assignment) : (new baseLocale suppressed assignment).Keyed P where
  keys _ _ member := nomatch member
  subjects w member := absurd member (Array.not_mem_empty w)

/-! ### One operation -/

theorem learn_keys (keyed : ∀ group, ∀ k ∈ s.baseline.keys group, P k) {key : Text} (h : P key)
    (value group : Text) : ∀ k ∈ (s.learn key value).baseline.keys group, P k := by
  by_cases known : key ∈ s.seenKeys ∨ key = []
  · rw [s.learn_known known]
    exact keyed group
  · rw [s.learn_fresh known]
    dsimp only
    split
    · intro k member
      rw [Baseline.keys_insert] at member
      split at member
      · rcases Baseline.mem_noteName.mp member with old | rfl
        · exact keyed _ k old
        · exact h
      · exact keyed group k member
    · exact keyed group

theorem after_keys (keyed : s.Keyed P) (brings : op.Brings P) (group : Text) :
    ∀ k ∈ (s.after op).baseline.keys group, P k := by
  cases op with
  | enterLocale | closeFile | leaveLocale | warn => exact keyed.keys group
  | openFile name =>
    change ∀ k ∈ (if s.isBase then s.baseline.addGroup name else s.baseline).keys group, P k
    split
    · rw [Baseline.keys_addGroup]
      exact keyed.keys group
    · exact keyed.keys group
  | checkRecord r => exact learn_keys (s := s.atRecord r) keyed.keys brings r.value group
  | checkString key value => exact learn_keys keyed.keys brings value group
  | reset => exact (keyed_new P _ _ _).keys group

theorem findings_keyed (keyed : s.Keyed P) (brings : op.Brings P) {w : Warning}
    (found : w ∈ s.findings op) (level : w.problem.isFileLevel = false) : P w.subject := by
  cases op with
  | enterLocale | openFile | reset => cases found
  | checkRecord r =>
    obtain ⟨p, -, rfl⟩ := List.mem_map.mp found
    exact brings
  | checkString key value =>
    obtain ⟨p, -, rfl⟩ := List.mem_map.mp found
    exact brings
  | closeFile lineCount =>
    obtain ⟨-, k, known, rfl⟩ := s.mem_missing found
    exact keyed.keys _ k known
  | leaveLocale =>
    obtain ⟨-, g, -, rfl⟩ := s.mem_missingFiles found
    cases level
  | warn p subject group? =>
    obtain rfl := List.mem_singleton.mp found
    exact brings level

theorem step_keyed (silent : s.lineSuppressed = {}) (keyed : s.Keyed P) (brings : op.Brings P) :
    (s.step op).Keyed P := by
  rw [step_eq s silent]
  refine ⟨after_keys keyed brings, fun w told level => ?_⟩
  rw [logAll, Array.mem_append, after_log] at told
  rcases told with earlier | new
  · cases op with
    | reset => exact absurd earlier (Array.not_mem_empty w)
    | _ => exact keyed.subjects w earlier level
  · have found := (List.mem_filter.mp (List.mem_toArray.mp new)).1
    exact findings_keyed keyed brings found level

/-! ### Runs and passes -/

theorem run_keyed (silent : s.lineSuppressed = {}) (keyed : s.Keyed P) {ops : List Op}
    (brings : ∀ op ∈ ops, op.Brings P) : (s.run ops).Keyed P := by
  induction ops generalizing s with
  | nil => exact keyed
  | cons op ops ih =>
    obtain ⟨here, later⟩ := List.forall_mem_cons.mp brings
    exact ih (step_silent s silent op) (step_keyed silent keyed here) later

theorem brings_fileOps (s : Session) (group : Text) {table? : Option Table}
    (h : ∀ t ∈ table?, ∀ r ∈ t.records, P r.key) :
    ∀ op ∈ s.fileOps group table?, op.Brings P := by
  unfold fileOps
  refine List.forall_mem_cons.mpr ⟨trivial, fun op member => ?_⟩
  split at member
  · cases table? with
    | some t =>
      rcases List.mem_append.mp member with inside | last
      · obtain ⟨r, record, rfl⟩ := List.mem_map.mp inside
        exact h t rfl r record
      · obtain rfl := List.mem_singleton.mp last
        trivial
    | none => cases member
  · obtain rfl := List.mem_singleton.mp member
    intro level
    cases level

theorem foldl_checkFound_keyed (silent : s.lineSuppressed = {}) (keyed : s.Keyed P)
    {files : List (Text × Option Table)}
    (h : ∀ f ∈ files, ∀ t ∈ f.2, ∀ r ∈ t.records, P r.key) :
    (files.foldl (fun s f => s.checkFound f.1 f.2) s).Keyed P := by
  induction files generalizing s with
  | nil => exact keyed
  | cons f files ih =>
    obtain ⟨here, later⟩ := List.forall_mem_cons.mp h
    have first : (s.checkFound f.1 f.2).Keyed P := by
      rw [checkFound_run]
      exact run_keyed silent keyed (s.brings_fileOps f.1 here)
    have silent' : (s.checkFound f.1 f.2).lineSuppressed = {} := by
      rw [checkFound_run]
      exact run_silent silent _
    exact ih silent' first later

theorem checkAll_keyed (silent : s.lineSuppressed = {}) (keyed : s.Keyed P) (locale : Text)
    {files : List (Text × Option Table)}
    (h : ∀ f ∈ files, ∀ t ∈ f.2, ∀ r ∈ t.records, P r.key) :
    (s.checkAll locale files).Keyed P := by
  have entered : (s.step (.enterLocale locale)).Keyed P := step_keyed silent keyed trivial
  have silent' := step_silent s silent (.enterLocale locale)
  have checked := foldl_checkFound_keyed silent' entered h
  obtain ⟨ops, -, ran⟩ := (s.enterLocale locale).foldl_checkFound_run files
  have silent'' :
      (files.foldl (fun s f => s.checkFound f.1 f.2) (s.enterLocale locale)).lineSuppressed = {} := by
    rw [ran]
    exact run_silent silent' ops
  have left : Op.leaveLocale.Brings P := trivial
  exact step_keyed silent'' checked left

end LocaleLint.Session
