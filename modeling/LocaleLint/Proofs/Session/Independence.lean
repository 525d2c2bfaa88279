import LocaleLint.Proofs.Session.Course

/-!
# Passes do not influence one another

No operation but a reset reads the log, the opening of a file sets anew what an earlier file left
behind, and the entering of a locale does so for the groups. So outside the base locale a pass logs
what the settings and the baseline say, whatever came before it.
-/

namespace LocaleLint.Session

def onto (s : Session) (earlier : Array Warning) : Session := { s with log := earlier ++ s.log }

/-- The session without its log and without what the opening of a file sets anew. -/
def unopened (s : Session) : Session :=
  { s with group := [], line := 0, seenKeys := [], log := #[] }

/-- What a pass through a locale adds to the log. -/
def block (s : Session) (locale : Text) (files : List (Text × Table)) : List Warning :=
  (s.checkLocale locale files).log.toList.drop s.log.size

variable {s t : Session} {op : Op}

/-! ### The log is not read -/

theorem learn_onto (s : Session) (earlier : Array Warning) (key value : Text) :
    (s.onto earlier).learn key value = (s.learn key value).onto earlier := by
  by_cases known : key ∈ s.seenKeys ∨ key = []
  · rw [s.learn_known known]
    exact learn_known (s.onto earlier) known value
  · rw [s.learn_fresh known]
    exact learn_fresh (s.onto earlier) known value

theorem after_onto (stays : op.Stays) (earlier : Array Warning) :
    (s.onto earlier).after op = (s.after op).onto earlier := by
  cases op with
  | enterLocale | reset => exact stays.elim
  | checkRecord r =>
    exact congrArg (fun t : Session => { t with lineSuppressed := {} })
      ((s.atRecord r).learn_onto earlier r.key r.value)
  | checkString key value => exact s.learn_onto earlier key value
  | _ => rfl

theorem findings_onto (s : Session) (earlier : Array Warning) (op : Op) :
    (s.onto earlier).findings op = s.findings op := by
  cases op <;> rfl

theorem logAll_onto (s : Session) (earlier : Array Warning) (ws : List Warning) :
    (s.onto earlier).logAll ws = (s.logAll ws).onto earlier := by
  simp only [logAll, onto, Array.append_assoc]

theorem step_onto (silent : s.lineSuppressed = {}) (stays : op.Stays) (earlier : Array Warning) :
    (s.onto earlier).step op = (s.step op).onto earlier := by
  rw [step_eq (s.onto earlier) silent, step_eq s silent, after_onto stays, findings_onto,
    logAll_onto]
  rfl

theorem run_onto (silent : s.lineSuppressed = {}) {ops : List Op} (stays : ∀ op ∈ ops, op.Stays)
    (earlier : Array Warning) : (s.onto earlier).run ops = (s.run ops).onto earlier := by
  induction ops generalizing s with
  | nil => rfl
  | cons op ops ih =>
    have first := step_onto silent (stays op List.mem_cons_self) earlier
    have rest := ih (step_silent s silent op) fun o later => stays o (List.mem_cons_of_mem _ later)
    exact (congrArg (run · ops) first).trans rest

/-! ### Files -/

theorem openFile_unopened (s : Session) (group : Text) :
    s.openFile group = (s.unopened.openFile group).onto s.log := by
  have base : s.unopened.isBase = s.isBase := rfl
  simp only [openFile, onto, base]
  simp [unopened]

theorem checkFile_unopened (silent : s.lineSuppressed = {}) (group : Text) (table : Table) :
    s.checkFile group table = (s.unopened.checkFile group table).onto s.log := by
  have stays := s.stays_fileOps group (some table)
  have same : s.unopened.fileOps group (some table) = s.fileOps group (some table) := rfl
  rw [checkFile_run, checkFile_run, same]
  unfold fileOps at stays ⊢
  have later := run_onto (s := s.unopened.openFile group) silent
    (fun op member => stays op (List.mem_cons_of_mem _ member)) s.log
  rw [← openFile_unopened] at later
  exact later

/-- Files add the same warnings to sessions that differ in what the opening of a file sets anew. -/
theorem foldl_checkFile_unopened (silent : s.lineSuppressed = {}) (same : t.unopened = s.unopened)
    (files : List (Text × Table)) :
    ∃ ws : Array Warning,
      (files.foldl (fun s f => s.checkFile f.1 f.2) s).log = s.log ++ ws ∧
        (files.foldl (fun s f => s.checkFile f.1 f.2) t).log = t.log ++ ws ∧
        (files.foldl (fun s f => s.checkFile f.1 f.2) t).unopened =
          (files.foldl (fun s f => s.checkFile f.1 f.2) s).unopened := by
  induction files generalizing s t with
  | nil => exact ⟨#[], by simp, by simp, same⟩
  | cons f files ih =>
    have silent' : t.lineSuppressed = {} :=
      (congrArg Session.lineSuppressed same).trans silent
    have left := checkFile_unopened silent f.1 f.2
    have right := checkFile_unopened silent' f.1 f.2
    rw [same] at right
    have quiet : (s.checkFile f.1 f.2).lineSuppressed = {} := by
      rw [checkFile_run]
      exact run_silent silent _
    have next : (t.checkFile f.1 f.2).unopened = (s.checkFile f.1 f.2).unopened := by
      rw [left, right]
      rfl
    obtain ⟨ws, first, second, rest⟩ := ih quiet next
    refine ⟨(s.unopened.checkFile f.1 f.2).log ++ ws, ?_, ?_, rest⟩
    · rw [List.foldl_cons, first, left]
      exact Array.append_assoc
    · rw [List.foldl_cons, second, right]
      exact Array.append_assoc

/-! ### Passes -/

theorem leaveLocale_unopened (s : Session) :
    s.leaveLocale.log = s.log ++ s.unopened.leaveLocale.log := by
  have found : s.unopened.missingFiles = s.missingFiles := by
    have base : s.unopened.isBase = s.isBase := rfl
    unfold missingFiles
    rw [base]
    simp [finding, unopened, Problem.isFileLevel]
  rw [leaveLocale_eq, leaveLocale_eq, found]
  simp [tell, logAll, unopened, suppresses]

theorem checkLocale_alike (hs : Reachable s) (ht : Reachable t) (settings : SameSettings s t)
    (baseline : t.baseline = s.baseline) (locale : Text) (files : List (Text × Table)) :
    ∃ ws, (s.checkLocale locale files).log.toList = s.log.toList ++ ws ∧
      (t.checkLocale locale files).log.toList = t.log.toList ++ ws := by
  have silent := (reachable_sound hs).silent
  have silent' := (reachable_sound ht).silent
  have same : (t.enterLocale locale).unopened = (s.enterLocale locale).unopened := by
    simp [enterLocale, unopened, settings.baseLocale, settings.suppressed, settings.assignment,
      baseline, silent, silent']
  obtain ⟨ws, first, second, rest⟩ :=
    foldl_checkFile_unopened (s := s.enterLocale locale) silent same files
  refine ⟨ws.toList ++ ((files.foldl (fun s f => s.checkFile f.1 f.2)
    (s.enterLocale locale)).unopened.leaveLocale.log).toList, ?_, ?_⟩
  · rw [checkLocale_eq, leaveLocale_unopened, first]
    simp [enterLocale]
  · rw [checkLocale_eq, leaveLocale_unopened, second, rest]
    simp [enterLocale]

theorem block_eq {locale : Text} {files : List (Text × Table)} {ws : List Warning}
    (logged : (s.checkLocale locale files).log.toList = s.log.toList ++ ws) :
    s.block locale files = ws := by
  rw [block, logged, ← Array.length_toList, List.drop_left]

theorem log_checkLocale_alike (hs : Reachable s) (ht : Reachable t) (settings : SameSettings s t)
    (baseline : t.baseline = s.baseline) (locale : Text) (files : List (Text × Table)) :
    (t.checkLocale locale files).log.toList = t.log.toList ++ s.block locale files := by
  obtain ⟨ws, left, right⟩ := checkLocale_alike hs ht settings baseline locale files
  rw [right, block_eq left]

theorem foldl_checkLocale_log (hs : Reachable s) (ht : Reachable t) (settings : SameSettings s t)
    (baseline : t.baseline = s.baseline) {passes : List (Text × List (Text × Table))}
    (other : ∀ p ∈ passes, p.1 ≠ s.baseLocale) :
    (passes.foldl (fun s p => s.checkLocale p.1 p.2) t).log.toList =
      t.log.toList ++ passes.flatMap fun p => s.block p.1 p.2 := by
  induction passes generalizing t with
  | nil => simp
  | cons p passes ih =>
    have elsewhere : p.1 ≠ t.baseLocale := by
      rw [settings.baseLocale]
      exact other p List.mem_cons_self
    have rest := ih (reachable_checkLocale ht p.1 p.2)
      (settings.trans (t.checkLocale_settings p.1 p.2))
      ((checkLocale_baseline elsewhere p.2).trans baseline)
      fun q later => other q (List.mem_cons_of_mem _ later)
    rw [List.foldl_cons, rest, log_checkLocale_alike hs ht settings baseline, List.flatMap_cons,
      List.append_assoc]

/-- In two sessions with the same settings and baseline a pass through another locale than the base
locale adds the same warnings, comes to the same encoding and leaves the baseline alone. So after a
pass through the base locale each further pass adds its own block to the log, the same in whatever
order the passes come. -/
theorem checkLocale_independent (hs : Reachable s) (ht : Reachable t) (settings : SameSettings s t)
    (baseline : t.baseline = s.baseline) {locale : Text} (other : locale ≠ s.baseLocale)
    (files : List (Text × Table)) :
    ((s.checkLocale locale files).log.toList = s.log.toList ++ s.block locale files ∧
      (t.checkLocale locale files).log.toList = t.log.toList ++ s.block locale files ∧
      (t.checkLocale locale files).encoding = (s.checkLocale locale files).encoding ∧
      (s.checkLocale locale files).baseline = s.baseline ∧
      (t.checkLocale locale files).baseline = t.baseline) ∧
    ∀ base passes order, (∀ p ∈ passes, p.1 ≠ s.baseLocale) → List.Perm order passes →
      let filled := s.checkLocale s.baseLocale base
      let after := fun ps : List (Text × List (Text × Table)) =>
        (ps.foldl (fun s p => s.checkLocale p.1 p.2) filled).log.toList
      after passes = filled.log.toList ++ passes.flatMap (fun p => filled.block p.1 p.2) ∧
        after order = filled.log.toList ++ order.flatMap fun p => filled.block p.1 p.2 := by
  have other' : locale ≠ t.baseLocale := by rwa [settings.baseLocale]
  refine ⟨⟨?_, ?_, ?_, checkLocale_baseline other files, checkLocale_baseline other' files⟩, ?_⟩
  · exact log_checkLocale_alike hs hs (.refl s) rfl locale files
  · exact log_checkLocale_alike hs ht settings baseline locale files
  · rw [(t.checkLocale_samePass locale files).encoding, (s.checkLocale_samePass locale files).encoding,
      enterLocale, settings.assignment]
    rfl
  · intro base passes order elsewhere perm filled after
    have reachable : Reachable filled := reachable_checkLocale hs _ _
    have base_eq : filled.baseLocale = s.baseLocale := (s.checkLocale_settings _ _).baseLocale
    constructor
    · refine foldl_checkLocale_log reachable reachable (.refl _) rfl fun p member => ?_
      rw [base_eq]
      exact elsewhere p member
    · refine foldl_checkLocale_log reachable reachable (.refl _) rfl fun p member => ?_
      rw [base_eq]
      exact elsewhere p (perm.mem_iff.mp member)

theorem checkLocale_independent_of_french :
    let german := [("Old".toList, Table.ofText "Old\n".toList)]
    let french := [("UI".toList, Table.ofText "UI\nA = \"a\",\nA = \"b\",\n".toList)]
    let s := (new "EN".toList {} {}).checkLocale "EN".toList
      [("UI".toList, .ofText "UI\nA = \"a\",\n".toList)]
    let t := s.checkLocale "FR".toList french
    Reachable s ∧ Reachable t ∧ SameSettings s t ∧ t.baseline = s.baseline ∧
      "DE".toList ≠ s.baseLocale ∧
      (t.checkLocale "DE".toList german).log.toList =
        t.log.toList ++ s.block "DE".toList german ∧
      t.log.toList.map (·.problem) = [.identical, .duplicate] ∧
      (s.block "DE".toList german).map (·.problem) = [.extraFile, .missingFile] := by
  intro german french s t
  have hs : Reachable s := reachable_checkLocale (.new _ _ _) _ _
  have ht : Reachable t := reachable_checkLocale hs _ _
  have settings : SameSettings s t := s.checkLocale_settings _ _
  have baseline : t.baseline = s.baseline := checkLocale_baseline (by decide +kernel) french
  have other : "DE".toList ≠ s.baseLocale := by decide +kernel
  refine ⟨hs, ht, settings, baseline, other, ?_, by decide +kernel, by decide +kernel⟩
  exact (checkLocale_independent hs ht settings baseline other german).1.2.1

end LocaleLint.Session
