import LocaleLint.Proofs.Report
import LocaleLint.Proofs.Survey.Ingestion

/-!
# Where the warnings of a survey stand in its report

Each directory adds warnings about its own locale to the log. So the warnings of a locale come in
one piece unless two directories with one stem have another directory between them.
-/

namespace LocaleLint.Survey

/-- The directories of a survey in the order in which they are checked, the base locale first. -/
def visited (d : Disk) (root : Path) (baseLocale : Text) : List Path :=
  root.join ⟨baseLocale⟩ ::
    (entries d root).paths.filter fun dir => dir.fileName? ≠ some baseLocale

def localesOf (d : Disk) (dirs : List Path) : List Text :=
  dirs.filterMap fun dir => if d.isDirectory dir then dir.stem? else none

def told (s : Session) : List Text := s.log.toList.map (·.locale)

variable {d : Disk} {s : Session} {dir : Path}

theorem localesOf_cons (dirs : List Path) {locale : Text} (here : IsDirectoryOf d locale dir) :
    localesOf d (dir :: dirs) = locale :: localesOf d dirs := by
  refine List.filterMap_cons_some ?_
  rw [if_pos here.1, here.2]

theorem localesOf_cons_of_not (dirs : List Path) (h : ∀ locale, ¬ IsDirectoryOf d locale dir) :
    localesOf d (dir :: dirs) = localesOf d dirs := by
  refine List.filterMap_cons_none ?_
  split
  · next directory =>
    exact Option.eq_none_iff_forall_ne_some.mpr fun locale stem => h locale ⟨directory, stem⟩
  · rfl

section

variable [MultiByte.Tables]

/-- A directory adds a block of warnings about its locale. -/
theorem visit_told (reachable : s.Reachable) {locale : Text} (here : IsDirectoryOf d locale dir) :
    ∃ block, told (visit d s dir) = told s ++ block ∧ ∀ l ∈ block, l = locale := by
  obtain ⟨other, there, checked⟩ | ⟨nowhere, -⟩ := visit_cases d s dir
  · obtain rfl : other = locale := Option.some.inj (there.2.symm.trans here.2)
    obtain ⟨ws, log, about⟩ :=
      s.checkAll_added (Session.reachable_sound reachable).silent other
        (filesIn d s.assignment other dir)
    refine ⟨ws.map (·.locale), by rw [told, checked, log, List.map_append]; rfl, ?_⟩
    intro l member
    obtain ⟨w, inside, rfl⟩ := List.mem_map.mp member
    exact about w inside
  · exact absurd here (nowhere locale)

/-- While new directories have new stems, the log stays grouped. -/
theorem foldl_visit_grouped (reachable : s.Reachable) (grouped : Report.Grouped (told s))
    {dirs : List Path} (distinct : (localesOf d dirs).Nodup)
    (fresh : ∀ l ∈ localesOf d dirs, l ∉ told s) :
    Report.Grouped (told (dirs.foldl (visit d) s)) := by
  induction dirs generalizing s with
  | nil => exact grouped
  | cons dir dirs ih =>
    have reachable' := (visit_underway (d := d) reachable dir).reachable
    obtain ⟨locale, here, -⟩ | ⟨nowhere, same⟩ := visit_cases d s dir
    · rw [localesOf_cons dirs here] at distinct fresh
      obtain ⟨new, distinct'⟩ := List.nodup_cons.mp distinct
      obtain ⟨block, added, about⟩ := visit_told reachable here
      have apart : ∀ l ∈ block, l ∉ told s := fun l inside =>
        about l inside ▸ fresh locale List.mem_cons_self
      refine ih reachable' ?_ distinct' fun l later => ?_
      · rw [added]
        exact Report.grouped_append grouped (Report.grouped_of_same about) apart
      · rw [added, List.mem_append]
        rintro (earlier | inside)
        · exact fresh l (List.mem_cons_of_mem _ later) earlier
        · exact new (about l inside ▸ later)
    · rw [localesOf_cons_of_not dirs nowhere] at distinct fresh
      rw [List.foldl_cons, same]
      exact ih reachable grouped distinct fresh

theorem run_grouped {root : Path} (h : d.exists? (root.join ⟨s.baseLocale⟩) = true)
    (distinct : (localesOf d (visited d root s.baseLocale)).Nodup) :
    Report.Grouped (told (run d root s).session) := by
  have whole : (run d root s).session = (visited d root s.baseLocale).foldl (visit d) s.reset :=
    session_run h
  have fresh : s.reset.Reachable := .new _ _ _
  rw [whole]
  exact foldl_visit_grouped fresh Report.grouped_nil distinct fun l _ => List.not_mem_nil

/-- In a report for people each locale has one heading, where it first comes up. So each message
stands under the heading of its locale if and only if the warnings of each locale come in one piece,
and they do so if all directories of the survey have different stems. -/
theorem run_attributed {root : Path} (completed : (run d root s).outcome = .completed) :
    let ws := (run d root s).session.log.toList
    let ps := Report.pieces [] ws
    (ws ≠ [] → Report.ofWarnings false .human ws =
        Report.line "Finished with warnings".toList ++ ps.flatMap (Report.Piece.text false)) ∧
      ps.filterMap Report.Piece.message? = ws ∧
      Report.headings ps = (ws.map (·.locale)).eraseDups ∧
      (Report.Attributed ps ↔ Report.Grouped (ws.map (·.locale))) ∧
      ((localesOf d (visited d root s.baseLocale)).Nodup → Report.Attributed ps) := by
  intro ws ps
  have present := exists_of_completed completed
  exact ⟨Report.ofWarnings_human false, Report.messages_pieces [] ws, Report.headings_pieces ws,
    Report.attributed_iff_grouped ws,
    fun distinct => (Report.attributed_iff_grouped ws).mpr (run_grouped present distinct)⟩

end

theorem run_attributed_two_locales :
    let _ : MultiByte.Tables := .asciiOnly
    let d : Disk := { nodes := [
      (["EN".toList], .directory), (["DE".toList], .directory), (["FR.utf8".toList], .directory),
      (["UI_EN.txt".toList, "EN".toList], .file (Utf8.encode "UI\nA = \"a\",\n".toList))] }
    let root := Path.ofString "."
    let s := Session.new "EN".toList {} {}
    let ws := (run d root s).session.log.toList
    (run d root s).outcome = .completed ∧
      ws.map (·.locale) = ["DE".toList, "FR".toList] ∧
      Report.Attributed (Report.pieces [] ws) := by
  intro tables d root s ws
  have completed : (run d root s).outcome = .completed := by decide +kernel
  have distinct : (localesOf d (visited d root s.baseLocale)).Nodup := by decide +kernel
  exact ⟨completed, by decide +kernel, (run_attributed completed).2.2.2.2 distinct⟩

/-- Two directories with one stem put messages of one locale under the heading of another. -/
theorem returning_locale_misplaced :
    let _ : MultiByte.Tables := .asciiOnly
    let d : Disk := { nodes := [
      (["EN".toList], .directory), (["FR".toList], .directory), (["FR-CA".toList], .directory),
      (["FR.b".toList], .directory),
      (["UI_EN.txt".toList, "EN".toList], .file (Utf8.encode "UI\nA = \"a\",\n".toList))] }
    let root := Path.ofString "."
    let s := Session.new "EN".toList {} {}
    let ws := (run d root s).session.log.toList
    (run d root s).outcome = .completed ∧
      Report.ofWarnings false .human ws =
        ["Finished with warnings", "", "[FR]", "UI_FR file is missing", "", "[FR-CA]",
          "UI_FR-CA file is missing", "UI_FR file is missing"].flatMap
            (fun t => Report.line t.toList) ∧
      ws.map (·.locale) = ["FR".toList, "FR-CA".toList, "FR".toList] ∧
      ¬ Report.Attributed (Report.pieces [] ws) := by
  intro tables d root s ws
  have locales : ws.map (·.locale) = ["FR".toList, "FR-CA".toList, "FR".toList] := by
    decide +kernel
  refine ⟨by decide +kernel, by decide +kernel, locales, fun attributed => ?_⟩
  have grouped := (Report.attributed_iff_grouped ws).mp attributed
  rw [locales] at grouped
  have last := grouped ["FR".toList, "FR-CA".toList] "FR".toList [] rfl (by decide)
  exact absurd last (by decide)

end LocaleLint.Survey
