import LocaleLint.Proofs.Session.Logging
import LocaleLint.Proofs.Survey.Ingestion

namespace LocaleLint.Survey

section

variable [MultiByte.Tables]

/-- The stops in a directory: its string tables, and its end. -/
def stopsIn (d : Disk) (s : Session) (dir : Path) : List Session.Stop :=
  match d.isDirectory dir, dir.stem? with
  | true, some locale =>
    ((tablesIn d s.assignment locale dir).map fun f => .file locale s.baseline f.1 f.2) ++
      [.ending locale]
  | _, _ => []

def stopsAlong (d : Disk) (s : Session) : List Path → List Session.Stop
  | [] => []
  | dir :: dirs => stopsIn d s dir ++ stopsAlong d (visit d s dir) dirs

def stops (d : Disk) (root : Path) (s : Session) : List Session.Stop :=
  let base := root.join ⟨s.baseLocale⟩
  if d.exists? base then
    stopsAlong d s.reset
      (base :: (entries d root).paths.filter fun dir => dir.fileName? ≠ some s.baseLocale)
  else []

variable {d : Disk} {s : Session}

theorem numbered_tablesIn (d : Disk) (assignment : Assignment) (locale : Text) (dir : Path) :
    ∀ f ∈ tablesIn d assignment locale dir, f.2.Numbered := by
  intro f member
  obtain ⟨text, same⟩ := mem_tablesIn member
  rw [same]
  exact Table.numbered_ofText text

theorem visit_logged (reachable : s.Reachable) (dir : Path) :
    s.Logged (visit d s dir) (stopsIn d s dir) := by
  obtain ⟨locale, here, checked⟩ | ⟨nowhere, same⟩ := visit_cases d s dir
  · rw [checked, stopsIn, here.1, here.2]
    exact Session.checkAll_logged reachable locale (numbered_tablesIn d _ locale dir)
  · have nothing : stopsIn d s dir = [] := by
      unfold stopsIn
      split
      · next locale directory stem => exact absurd ⟨directory, stem⟩ (nowhere locale)
      · rfl
    rw [same, nothing]
    exact .refl s

theorem foldl_visit_logged (reachable : s.Reachable) (dirs : List Path) :
    s.Logged (dirs.foldl (visit d) s) (stopsAlong d s dirs) := by
  induction dirs generalizing s with
  | nil => exact .refl s
  | cons dir dirs ih =>
    have first := visit_underway (d := d) reachable dir
    exact (visit_logged reachable dir).trans first.toSameSettings (ih first.reachable)

/-- The log of a survey is made up of what it logs at its stops, in their order. At a file the
warnings of strings lie on ascending lines from 2 to the last line of the file, and the missing
strings, keys of the base group, on the last line; at the end of a directory there are only missing
files. A warning has no line if and only if it is about a whole file, and then names the file; one in
the base locale is a duplicate; and none has a code that the survey suppresses. -/
theorem log_run_wellFormed (d : Disk) (root : Path) (s : Session) :
    let log := (run d root s).session.log.toList
    (∃ blocks : List (List Warning), log = blocks.flatten ∧
        List.Forall₂ Session.Stop.Logs (stops d root s) blocks) ∧
      ∀ w ∈ log, w.WellFormed s.baseLocale s.suppressed := by
  intro log
  have fresh : s.reset.Reachable := .new _ _ _
  have logged : s.reset.Logged (run d root s).session (stops d root s) := by
    unfold stops
    dsimp only
    by_cases present : d.exists? (root.join ⟨s.baseLocale⟩) = true
    · rw [session_run present, if_pos present]
      exact foldl_visit_logged fresh (root.join ⟨s.baseLocale⟩ :: _)
    · rw [session_run_absent (Bool.eq_false_iff.mpr present), if_neg present]
      exact .refl s.reset
  obtain ⟨blocks, told, logs, wellFormed⟩ := logged
  have whole : log = blocks.flatten := told
  refine ⟨⟨blocks, whole, logs⟩, ?_⟩
  rw [whole]
  exact wellFormed

end

theorem log_run_wellFormed_one_of_each :
    let _ : MultiByte.Tables := .asciiOnly
    let d : Disk := { nodes := [
      (["EN".toList], .directory), (["FR".toList], .directory),
      (["Tip_EN.txt".toList, "EN".toList], .file []),
      (["UI_EN.txt".toList, "EN".toList], .file (Utf8.encode
        "UI\nA = \"%1 a\",\nB = \"b\",\nA = \"x\",\nC = \"c\",\n".toList)),
      (["Old_FR.txt".toList, "FR".toList], .file []),
      (["UI_FR.txt".toList, "FR".toList], .file (Utf8.encode
        "UI\nB = \"b\",\nA = \"a\",\nD = \"d\",\nB = \"c\",\n\n".toList))] }
    let root := Path.ofString "."
    let s := Session.new "EN".toList (.ofCodes ["extra".toList]) {}
    let log := (run d root s).session.log.toList
    (∃ blocks : List (List Warning), log = blocks.flatten ∧ blocks.length = 6) ∧
      (∀ w ∈ log, w.WellFormed s.baseLocale s.suppressed) ∧
      log.map (fun w => (w.problem, w.line)) =
        [(.duplicate, some 4), (.extraFile, none), (.identical, some 2), (.substitutionCount, some 3),
          (.duplicate, some 5), (.missing, some 6), (.missingFile, none)] := by
  intro tables d root s log
  obtain ⟨⟨blocks, whole, logs⟩, wellFormed⟩ := log_run_wellFormed d root s
  have count : (stops d root s).length = 6 := by decide +kernel
  exact ⟨⟨blocks, whole, logs.length_eq ▸ count⟩, wellFormed, by decide +kernel⟩

end LocaleLint.Survey
