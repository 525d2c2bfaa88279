import LocaleLint.Proofs.Survey.Ingestion

/-!
# Surveys with a used session

A survey begins with a reset, and nothing that can happen to a session changes its settings. So a
survey comes out as with a new session, whatever operations and surveys there were before.
-/

namespace LocaleLint.Survey

inductive Event where
  | op (op : Session.Op)
  | survey (d : Disk) (root : Path)

section

variable [MultiByte.Tables]

def happen (s : Session) : Event → Session
  | .op op => s.step op
  | .survey d root => (run d root s).session

variable {d : Disk} {root : Path} {s t : Session}

/-! ### Settings are kept -/

theorem run_settings (d : Disk) (root : Path) (s : Session) :
    s.SameSettings (run d root s).session := by
  have begun : s.SameSettings s.reset := s.step_settings .reset
  cases present : d.exists? (root.join ⟨s.baseLocale⟩) with
  | false =>
    rw [session_run_absent present]
    exact begun
  | true =>
    have fresh : s.reset.Reachable := .new _ _ _
    have first := visit_underway (d := d) fresh (root.join ⟨s.baseLocale⟩)
    rw [session_run present]
    have rest := foldl_visit_underway (d := d) first.reachable
      ((entries d root).paths.filter fun dir => dir.fileName? ≠ some s.baseLocale)
    exact (begun.trans first.toSameSettings).trans rest.toSameSettings

theorem happen_settings (s : Session) (e : Event) : s.SameSettings (happen s e) := by
  cases e with
  | op op => exact s.step_settings op
  | survey d root => exact run_settings d root s

theorem foldl_happen_settings (s : Session) (history : List Event) :
    s.SameSettings (history.foldl happen s) := by
  induction history generalizing s with
  | nil => exact .refl s
  | cons e history ih => exact (happen_settings s e).trans (ih (happen s e))

/-! ### Surveys start afresh -/

theorem run_eq_of_settings (same : s.SameSettings t) (d : Disk) (root : Path) :
    run d root t = run d root s := by
  have begun : t.reset = s.reset := by
    rw [t.reset_eq_new, s.reset_eq_new, same.baseLocale, same.suppressed, same.assignment]
  unfold run
  rw [begun]

/-- Whatever happened to a session before, a survey has the outcome, the warnings, the baseline, the
last locale and the diagnostics of a survey with a new session of the same settings. A second survey
of the same disk changes nothing, and a fatal one leaves neither warnings nor base strings. -/
theorem run_of_history (baseLocale : Text) (suppressed : Suppression) (assignment : Assignment)
    (history : List Event) (d : Disk) (root : Path) :
    let fresh := Session.new baseLocale suppressed assignment
    let v := run d root (history.foldl happen fresh)
    v = run d root fresh ∧ run d root v.session = v ∧
      ∀ message, v.outcome = .fatal message → v.session.log = #[] ∧ v.session.baseline = {} := by
  intro fresh v
  have same : v = run d root fresh :=
    run_eq_of_settings (foldl_happen_settings fresh history) d root
  refine ⟨same, ?_, ?_⟩
  · exact run_eq_of_settings (run_settings d root _) d root
  · intro message fatal
    have absent : d.exists? (root.join ⟨fresh.baseLocale⟩) = false := by
      rw [same, outcome_run] at fatal
      by_contra present
      rw [if_pos (by simpa using present)] at fatal
      cases fatal
    rw [same, session_run_absent absent]
    exact ⟨rfl, rfl⟩

end

theorem run_of_history_fatal :
    let _ : MultiByte.Tables := .asciiOnly
    let d : Disk := { nodes := [
      (["EN".toList], .directory), (["FR".toList], .directory),
      (["UI_EN.txt".toList, "EN".toList], .file (Utf8.encode "UI\nA = \"a\",\n".toList)),
      (["UI_FR.txt".toList, "FR".toList], .file (Utf8.encode "UI\nA = \"a\",\n".toList))] }
    let bare : Disk := { nodes := [(["FR".toList], .directory)] }
    let root := Path.ofString "."
    let history : List Event := [.survey d root, .op (.warn .extra "A".toList none)]
    let used := history.foldl happen (.new "EN".toList {} {})
    let v := run bare root used
    used.log.size = 2 ∧ used.baseline ≠ {} ∧ used.locale = "FR".toList ∧
      v.outcome = .fatal "base locale directory ./EN does not exist".toList ∧
      v.session.log = #[] ∧ v.session.baseline = {} ∧ v.session.locale = "EN".toList := by
  intro tables d bare root history used v
  have fatal : v.outcome = .fatal "base locale directory ./EN does not exist".toList := by
    decide +kernel
  have cleared : ∀ message, v.outcome = .fatal message →
      v.session.log = #[] ∧ v.session.baseline = {} := by
    dsimp only [v, used]
    exact (run_of_history "EN".toList {} {} history bare root).2.2
  obtain ⟨log, baseline⟩ := cleared _ fatal
  exact ⟨by decide +kernel, by decide +kernel, by decide +kernel, fatal, log, baseline,
    by decide +kernel⟩

end LocaleLint.Survey
