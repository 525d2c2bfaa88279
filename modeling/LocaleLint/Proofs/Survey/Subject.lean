import LocaleLint.Proofs.Report.Reading
import LocaleLint.Proofs.Session.Subject
import LocaleLint.Proofs.Survey.Ingestion
import LocaleLint.Proofs.Table.Shape

namespace LocaleLint

theorem Problem.isLine_describe {subject : Text} (h : Text.IsLine subject) (p : Problem) :
    Text.IsLine (p.describe subject) := by
  cases p with
  | identical | extraFile | missingFile => exact Text.isLine_append.mpr ⟨h, by decide⟩
  | duplicate | substitutionCount => exact Text.isLine_append.mpr ⟨by decide, h⟩
  | extra | missing =>
    exact Text.isLine_append.mpr ⟨Text.isLine_append.mpr ⟨by decide, h⟩, by decide⟩

namespace Survey

variable [MultiByte.Tables] {d : Disk} {s : Session}

theorem visit_keyed (reachable : s.Reachable) (keyed : s.Keyed Table.IsKey) (dir : Path) :
    (visit d s dir).Keyed Table.IsKey := by
  obtain ⟨locale, -, checked⟩ | ⟨-, same⟩ := visit_cases d s dir
  · rw [checked]
    refine Session.checkAll_keyed (Session.reachable_sound reachable).silent keyed locale ?_
    intro f member t read r inside
    obtain ⟨text, rfl⟩ := mem_filesIn member t read
    exact (Table.record_wellFormed r inside).key
  · rwa [same]

theorem foldl_visit_keyed (reachable : s.Reachable) (keyed : s.Keyed Table.IsKey)
    (dirs : List Path) : (dirs.foldl (visit d) s).Keyed Table.IsKey := by
  induction dirs generalizing s with
  | nil => exact keyed
  | cons dir dirs ih =>
    exact ih (visit_underway reachable dir).reachable (visit_keyed reachable keyed dir)

theorem run_keyed (d : Disk) (root : Path) (s : Session) :
    (run d root s).session.Keyed Table.IsKey := by
  have fresh : s.reset.Reachable := .new _ _ _
  have empty : s.reset.Keyed Table.IsKey := Session.keyed_new _ _ _ _
  by_cases present : d.exists? (root.join ⟨s.baseLocale⟩) = true
  · rw [session_run present]
    exact foldl_visit_keyed fresh empty (root.join ⟨s.baseLocale⟩ :: _)
  · rw [session_run_absent (Bool.eq_false_iff.mpr present)]
    exact empty

/-- The records of any text have keys, values and codes of their proper form, and lie on ascending
lines from 2 to the last one, so that each line ends one record at most. A warning of a survey that
is not about a whole file is about such a key: in words it takes one line, and in the
machine-readable form too unless its locale or group is broken over lines. -/
theorem records_wellFormed :
    (∀ text : Text,
      let t := Table.ofText text
      (∀ r ∈ t.records, r.WellFormed ∧ 2 ≤ r.line ∧ r.line ≤ t.lineCount) ∧
        (t.records.Pairwise fun r x => r.line < x.line) ∧
        ∀ n, (t.records.filter fun r => r.line = n).length ≤ 1) ∧
      ∀ (d : Disk) (root : Path) (s : Session), ∀ w ∈ (run d root s).session.log,
        w.problem.isFileLevel = false →
          Table.IsKey w.subject ∧ Text.IsLine (w.render .human) ∧
            (Text.IsLine w.locale → Text.IsLine w.group → ∀ v, Text.IsLine (w.render v)) := by
  refine ⟨fun text => ⟨fun r inside => ?_, ?_, ?_⟩, fun d root s w told level => ?_⟩
  · exact ⟨Table.record_wellFormed r inside, (Table.record_place inside).2⟩
  · exact Table.records_ascending text
  · exact Table.length_filter_line_le (Table.records_ascending text)
  · have key := (run_keyed d root s).subjects w told level
    have words : Text.IsLine (w.render .human) := w.problem.isLine_describe key.line
    refine ⟨key, words, fun locale group v => ?_⟩
    cases v with
    | human => exact words
    | silent | machine => exact w.isLine_machineLine locale group key.line

end Survey
end LocaleLint
