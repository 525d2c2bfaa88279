import LocaleLint.Proofs.Session.BasePass
import LocaleLint.Proofs.Session.Course

namespace LocaleLint

theorem Problem.isFileLevel_iff {p : Problem} :
    p.isFileLevel = true ↔ p = .extraFile ∨ p = .missingFile := by
  cases p <;> simp [isFileLevel]

structure Warning.WellFormed (baseLocale : Text) (suppressed : Suppression) (w : Warning) :
    Prop where
  lineless : w.line = none ↔ w.problem = .extraFile ∨ w.problem = .missingFile
  named : w.problem = .extraFile ∨ w.problem = .missingFile →
    w.subject = w.group ++ '_' :: w.locale
  base : w.locale = baseLocale → w.problem = .duplicate
  shown : w.problem.code ∉ suppressed.codes

/-- The records of a table lie on different lines after the heading, in their order. -/
structure Table.Numbered (t : Table) : Prop where
  placed : ∀ r ∈ t.records, 2 ≤ r.line ∧ r.line ≤ t.lineCount
  ascending : t.records.Pairwise fun r x => r.line < x.line
  counted : 1 ≤ t.lineCount

theorem Table.numbered_ofText (text : Text) : (ofText text).Numbered where
  placed _ inside := (record_place inside).2
  ascending := records_ascending text
  counted := by
    rw [lineCount_ofText]
    omega

namespace Session

/-- A file that a session comes to, with the baseline of its pass, or the end of a pass. -/
inductive Stop where
  | file (locale : Text) (baseline : Baseline) (group : Text) (t : Table)
  | ending (locale : Text)

/-- What the warnings of a file are like. -/
structure FileLog (locale : Text) (b : Baseline) (group : Text) (t : Table) (ws : List Warning) :
    Prop where
  about : ∀ w ∈ ws, w.locale = locale ∧ w.group = group ∧ w.problem ≠ .missingFile
  placed : ∀ w ∈ ws, w.problem ∈ stringProblems →
    ∃ n, w.line = some n ∧ 2 ≤ n ∧ n ≤ t.lineCount
  ascending : ((ws.filter fun w => w.problem ∈ stringProblems).filterMap (·.line)).Pairwise (· < ·)
  missing : ∀ w ∈ ws, w.problem = .missing →
    w.line = some t.lineCount ∧ 1 ≤ t.lineCount ∧ w.subject ≠ [] ∧ w.subject ∈ b.keys group

def Stop.Logs : Stop → List Warning → Prop
  | .file locale b group t, ws => FileLog locale b group t ws
  | .ending locale, ws => ∀ w ∈ ws, w.locale = locale ∧ w.problem = .missingFile

/-- What the warnings of records are like. Each record has one at most. -/
structure RecordLog (s : Session) (rs : List Record) (ws : List Warning) : Prop where
  lines : (ws.map (·.line)).Sublist (rs.map fun r => some r.line)
  about : ∀ w ∈ ws, w.problem ∈ stringProblems ∧ w.locale = s.locale ∧ w.group = s.group ∧
    w.WellFormed s.baseLocale s.suppressed

variable {s t : Session}

theorem mem_told {op : Op} {w : Warning}
    (member : w ∈ (s.findings op).filter fun w =>
      !(s.suppressed.covers w.problem || op.suppressed.covers w.problem)) :
    w ∈ s.findings op ∧ s.suppressed.covers w.problem = false := by
  obtain ⟨found, visible⟩ := List.mem_filter.mp member
  rw [Bool.not_eq_true', Bool.or_eq_false_iff] at visible
  exact ⟨found, visible.1⟩

theorem finding_wellFormed {p : Problem} {subject group : Text}
    (lined : p.isFileLevel = false → s.line ≠ 0)
    (named : p.isFileLevel = true → subject = fileStem group s.locale)
    (base : s.isBase = true → p = .duplicate) (shown : s.suppressed.covers p = false) :
    (s.finding p subject group).WellFormed s.baseLocale s.suppressed where
  lineless := by
    rw [← Problem.isFileLevel_iff]
    change (if s.line = 0 || p.isFileLevel then none else some s.line) = none ↔
      p.isFileLevel = true
    cases level : p.isFileLevel with
    | true => simp
    | false => simp [lined level]
  named level := named (Problem.isFileLevel_iff.mpr level)
  base same := base (decide_eq_true same)
  shown := by
    rw [← List.contains_iff_mem]
    exact Bool.eq_false_iff.mp shown

/-! ### Records -/

theorem length_differences_le {base? : Option Baseline.Entry}
    (counted : ∀ base ∈ base?, base = .ofValue base.value) (value : Text) :
    (differences base? value).length ≤ 1 := by
  unfold differences
  cases base? with
  | none => exact Nat.le_refl 1
  | some base =>
    have count : base.placeholders = Placeholder.count base.value :=
      congrArg Baseline.Entry.placeholders (counted base rfl)
    -- Equal values have as many placeholders, so the two problems exclude each other.
    by_cases equal : base.value = value
    · have same : base.placeholders = Placeholder.count value := equal ▸ count
      simp [equal, same]
    · dsimp only
      rw [if_neg equal, List.nil_append]
      split <;> simp

theorem length_problems_le (sound : s.baseline.Sound) (key value : Text) :
    (s.problems key value).length ≤ 1 := by
  unfold problems
  split
  · exact Nat.le_refl 1
  · split
    · exact Nat.zero_le 1
    · exact length_differences_le (fun base found => sound.counted _ _ _ found) value

theorem mem_problems_base (base : s.isBase = true) {key value : Text} {p : Problem}
    (h : p ∈ s.problems key value) : p = .duplicate := by
  rw [problems_filling base] at h
  split at h
  · exact List.mem_singleton.mp h
  · cases h

theorem checkRecord_group (s : Session) (r : Record) : (s.checkRecord r).group = s.group := by
  change ((s.atRecord r).checkString r.key r.value).group = s.group
  rw [checkString_eq, learn_frame]
  rfl

theorem checkRecord_told (sound : s.Sound) {r : Record} (line_ne : r.line ≠ 0) :
    ∃ ws, (s.checkRecord r).log.toList = s.log.toList ++ ws ∧ s.RecordLog [r] ws := by
  have told := step_told sound.silent (.checkRecord r) trivial
  refine ⟨_, told, ?_, ?_⟩
  · have lines : (s.findings (.checkRecord r)).map (·.line) =
        List.replicate (s.problems r.key r.value).length (some r.line) := by
      refine List.eq_replicate_iff.mpr ⟨by simp [findings], ?_⟩
      intro line member
      obtain ⟨w, found, rfl⟩ := List.mem_map.mp member
      obtain ⟨p, problem, rfl⟩ := List.mem_map.mp found
      rw [finding_string _ (s.mem_problems problem)]
      exact if_neg line_ne
    refine (List.filter_sublist.map _).trans ?_
    rw [lines]
    exact (List.replicate_sublist_replicate _).mpr (length_problems_le sound.baseline _ _)
  · intro w member
    obtain ⟨found, shown⟩ := mem_told member
    obtain ⟨p, problem, rfl⟩ := List.mem_map.mp found
    have listed := s.mem_problems problem
    have string := isFileLevel_string listed
    exact ⟨listed, rfl, rfl, finding_wellFormed (s := s.atRecord r) (fun _ => line_ne)
      (fun level => nomatch string.symm.trans level)
      (fun base => mem_problems_base base problem) shown⟩

theorem foldl_checkRecord_told (reachable : s.Reachable) {rs : List Record}
    (lined : ∀ r ∈ rs, r.line ≠ 0) :
    ∃ ws, (rs.foldl checkRecord s).log.toList = s.log.toList ++ ws ∧ s.RecordLog rs ws := by
  induction rs generalizing s with
  | nil => exact ⟨[], (List.append_nil _).symm, List.Sublist.refl _, by simp⟩
  | cons r rs ih =>
    obtain ⟨here, later⟩ := List.forall_mem_cons.mp lined
    obtain ⟨ws, first, log⟩ := checkRecord_told (reachable_sound reachable) here
    obtain ⟨vs, rest, log'⟩ := ih (s := s.checkRecord r) (reachable.step (.checkRecord r)) later
    have stays : (Op.checkRecord r).Stays := trivial
    have same : SamePass s (s.checkRecord r) := step_samePass stays
    refine ⟨ws ++ vs, ?_, ?_, ?_⟩
    · rw [List.foldl_cons, rest, first, List.append_assoc]
    · rw [List.map_append]
      exact log.lines.append log'.lines
    · intro w member
      rcases List.mem_append.mp member with told | told
      · exact log.about w told
      · have about := log'.about w told
        rwa [same.locale, s.checkRecord_group, same.baseLocale, same.suppressed] at about

theorem foldl_checkRecord_group (s : Session) (rs : List Record) :
    (rs.foldl checkRecord s).group = s.group := by
  induction rs generalizing s with
  | nil => rfl
  | cons r rs ih => exact (ih (s.checkRecord r)).trans (s.checkRecord_group r)

/-! ### Files -/

theorem closeFile_told (sound : s.Sound) {lineCount : Nat} (counted : 1 ≤ lineCount) :
    ∃ ws, (s.closeFile lineCount).log.toList = s.log.toList ++ ws ∧ ∀ w ∈ ws, s.isBase = false ∧
      w.WellFormed s.baseLocale s.suppressed ∧ ∃ k ∈ s.baseline.keys s.group, k ≠ [] ∧
        w = ⟨.missing, s.locale, s.group, some lineCount, k⟩ := by
  have line_ne : lineCount ≠ 0 := by omega
  refine ⟨_, step_told sound.silent (.closeFile lineCount) trivial, ?_⟩
  intro w member
  obtain ⟨found, shown⟩ := mem_told member
  obtain ⟨other, k, known, rfl⟩ := s.mem_missing found
  refine ⟨other, ?_, k, known, sound.baseline.named _ _ known, ?_⟩
  · exact finding_wellFormed (s := { s with line := lineCount }) (fun _ => line_ne)
      (fun level => nomatch level) (fun base => nomatch base.symm.trans other) shown
  · simp [finding, line_ne, Problem.isFileLevel]

/-- What the records of a table and the keys that it lacks add up to. -/
theorem RecordLog.file {t : Table} (numbered : t.Numbered) {b : Baseline} {ws vs : List Warning}
    (records : s.RecordLog t.records ws) (lacking : ∀ w ∈ vs, ∃ k ∈ b.keys s.group, k ≠ [] ∧
      w = ⟨.missing, s.locale, s.group, some t.lineCount, k⟩) :
    FileLog s.locale b s.group t (ws ++ vs) := by
  -- The keys that are lacking are no strings, so only records count for the order of the lines.
  have others : Problem.missingFile ∉ stringProblems ∧ Problem.missing ∉ stringProblems := by decide
  have strings : (ws ++ vs).filter (fun w => w.problem ∈ stringProblems) = ws := by
    rw [List.filter_append, List.filter_eq_self.mpr, List.filter_eq_nil_iff.mpr, List.append_nil]
    · intro w member
      obtain ⟨k, -, -, rfl⟩ := lacking w member
      exact fun listed => others.2 (of_decide_eq_true listed)
    · intro w member
      exact decide_eq_true (records.about w member).1
  refine ⟨?_, ?_, ?_, ?_⟩
  · intro w member
    rcases List.mem_append.mp member with string | last
    · obtain ⟨listed, locale, group, -⟩ := records.about w string
      exact ⟨locale, group, fun other => others.1 (other ▸ listed)⟩
    · obtain ⟨k, -, -, rfl⟩ := lacking w last
      exact ⟨rfl, rfl, Problem.noConfusion⟩
  · intro w member listed
    have string : w ∈ ws := by
      rw [← strings]
      exact List.mem_filter.mpr ⟨member, decide_eq_true listed⟩
    have line : w.line ∈ t.records.map fun r => some r.line :=
      records.lines.subset (List.mem_map_of_mem string)
    obtain ⟨r, inside, same⟩ := List.mem_map.mp line
    exact ⟨r.line, same.symm, numbered.placed r inside⟩
  · have lines : (ws.filterMap (·.line)).Sublist (t.records.map (·.line)) := by
      have sub := records.lines.filterMap id
      rw [List.filterMap_map, List.filterMap_map] at sub
      change (ws.filterMap (·.line)).Sublist (t.records.filterMap (some ∘ (·.line))) at sub
      rwa [List.filterMap_eq_map] at sub
    rw [strings]
    exact (List.pairwise_map.mpr numbered.ascending).sublist lines
  · intro w member problem
    rcases List.mem_append.mp member with string | last
    · exact absurd (problem ▸ (records.about w string).1) others.2
    · obtain ⟨k, known, key_ne, rfl⟩ := lacking w last
      exact ⟨rfl, numbered.counted, key_ne, known⟩

theorem checkTable_told (reachable : s.Reachable) {t : Table} (numbered : t.Numbered)
    {b : Baseline} (compared : s.isBase = false → s.baseline = b) :
    ∃ ws, (s.checkTable t).log.toList = s.log.toList ++ ws ∧ FileLog s.locale b s.group t ws ∧
      ∀ w ∈ ws, w.WellFormed s.baseLocale s.suppressed := by
  have stays : ∀ op ∈ t.records.map Op.checkRecord, op.Stays := fun op member =>
    (inFile_records t.records t.lineCount op (List.mem_append_left _ member)).stays
  obtain ⟨ws, read, records⟩ := foldl_checkRecord_told reachable fun r inside => by
    have place := numbered.placed r inside
    show r.line ≠ 0
    omega
  have group := s.foldl_checkRecord_group t.records
  have ran := s.foldl_checkRecord_run t.records
  have same : SamePass s (t.records.foldl checkRecord s) := ran ▸ run_samePass stays
  have sound : (t.records.foldl checkRecord s).Sound :=
    reachable_sound (ran ▸ reachable_run reachable _)
  obtain ⟨vs, closed, lacking⟩ := closeFile_told sound numbered.counted
  rw [same.isBase, same.baseLocale, same.suppressed, same.locale, group] at lacking
  refine ⟨ws ++ vs, ?_, records.file numbered ?_, ?_⟩
  · rw [checkTable, closed, read, List.append_assoc]
  · intro w member
    obtain ⟨other, -, key⟩ := lacking w member
    have baseline : (t.records.foldl checkRecord s).baseline = b := by
      rw [ran, run_baseline other stays, compared other]
    rwa [baseline] at key
  · intro w member
    rcases List.mem_append.mp member with string | last
    · exact (records.about w string).2.2.2
    · exact (lacking w last).2.1

theorem fileLog_of_extraFile {locale group : Text} {ws : List Warning}
    (only : ∀ w ∈ ws, w.locale = locale ∧ w.group = group ∧ w.problem = .extraFile)
    (b : Baseline) (t : Table) : FileLog locale b group t ws := by
  have noString : ∀ w ∈ ws, w.problem ∉ stringProblems := by
    intro w member
    rw [(only w member).2.2]
    decide
  refine ⟨?_, ?_, ?_, ?_⟩
  · intro w member
    obtain ⟨locale, group, problem⟩ := only w member
    exact ⟨locale, group, problem ▸ Problem.noConfusion⟩
  · intro w member listed
    exact absurd listed (noString w member)
  · rw [List.filter_eq_nil_iff.mpr fun w member => by simpa using noString w member]
    exact List.Pairwise.nil
  · intro w member problem
    cases (only w member).2.2.symm.trans problem

theorem checkFound_told (reachable : s.Reachable) (x : Text × Option Table)
    (numbered : (tableOf x).2.Numbered) {b : Baseline}
    (compared : s.isBase = false → s.baseline = b) :
    ∃ ws, (s.checkFound x.1 x.2).log.toList = s.log.toList ++ ws ∧
      FileLog s.locale b x.1 (tableOf x).2 ws ∧ ∀ w ∈ ws, w.WellFormed s.baseLocale s.suppressed := by
  obtain ⟨group, table?⟩ := x
  have opened : (s.openFile group).Reachable := reachable.step (.openFile group)
  unfold checkFound
  dsimp only
  split
  · cases table? with
    | some t =>
      refine checkTable_told (s := s.openFile group) opened numbered fun other => ?_
      have kept : (s.step (.openFile group)).baseline = s.baseline := step_baseline other trivial
      exact kept.trans (compared other)
    | none =>
      exact ⟨[], (List.append_nil _).symm, fileLog_of_extraFile (by simp) b _, by simp⟩
  · next unknown =>
    have other : s.isBase ≠ true := fun base => unknown (by rw [hasBase, base, Bool.true_or])
    have told := step_told (reachable_sound opened).silent
      (.warn .extraFile (fileStem group s.locale) (some group)) trivial
    refine ⟨_, told, fileLog_of_extraFile ?_ b _, ?_⟩
    · intro w member
      obtain ⟨found, -⟩ := mem_told member
      rw [List.mem_singleton.mp found]
      exact ⟨rfl, rfl, rfl⟩
    · intro w member
      obtain ⟨found, shown⟩ := mem_told member
      rw [List.mem_singleton.mp found] at shown ⊢
      exact finding_wellFormed (s := s.openFile group) (fun level => absurd level (by decide))
        (fun _ => rfl) (fun base => absurd base other) shown

/-! ### Passes -/

/-- Whether a session goes on past stops and logs at each of them warnings that are like it. -/
def Logged (s t : Session) (stops : List Stop) : Prop :=
  ∃ blocks, t.log.toList = s.log.toList ++ blocks.flatten ∧ List.Forall₂ Stop.Logs stops blocks ∧
    ∀ w ∈ blocks.flatten, w.WellFormed s.baseLocale s.suppressed

theorem Logged.refl (s : Session) : Logged s s [] :=
  ⟨[], (List.append_nil _).symm, .nil, by simp⟩

theorem Logged.trans {u : Session} {stops later : List Stop} (first : Logged s t stops)
    (same : SameSettings s t) (second : Logged t u later) : Logged s u (stops ++ later) := by
  obtain ⟨blocks, told, logs, wellFormed⟩ := first
  obtain ⟨blocks', told', logs', wellFormed'⟩ := second
  rw [same.baseLocale, same.suppressed] at wellFormed'
  refine ⟨blocks ++ blocks', ?_, List.rel_append logs logs', ?_⟩
  · rw [told', told, List.flatten_append, List.append_assoc]
  · intro w member
    rw [List.flatten_append] at member
    exact (List.mem_append.mp member).elim (wellFormed w) (wellFormed' w)

theorem Logged.stop {stop : Stop} {ws : List Warning} (told : t.log.toList = s.log.toList ++ ws)
    (logs : stop.Logs ws) (wellFormed : ∀ w ∈ ws, w.WellFormed s.baseLocale s.suppressed) :
    Logged s t [stop] :=
  ⟨[ws], by simpa using told, .cons logs .nil, by simpa using wellFormed⟩

theorem leaveLocale_logged (reachable : s.Reachable) : Logged s s.leaveLocale [.ending s.locale] := by
  have told := step_told (reachable_sound reachable).silent .leaveLocale trivial
  refine .stop told ?_ ?_
  · intro w member
    obtain ⟨-, g, -, rfl⟩ := s.mem_missingFiles (mem_told member).1
    exact ⟨rfl, rfl⟩
  · intro w member
    obtain ⟨found, shown⟩ := mem_told member
    obtain ⟨other, g, -, rfl⟩ := s.mem_missingFiles found
    exact finding_wellFormed (fun level => nomatch level) (fun _ => rfl)
      (fun base => nomatch base.symm.trans other) shown

theorem foldl_checkFound_logged (reachable : s.Reachable) {files : List (Text × Option Table)}
    (numbered : ∀ f ∈ files.map tableOf, f.2.Numbered) {b : Baseline}
    (compared : s.isBase = false → s.baseline = b) :
    Logged s (files.foldl (fun s f => s.checkFound f.1 f.2) s)
      ((files.map tableOf).map fun f => .file s.locale b f.1 f.2) := by
  induction files generalizing s with
  | nil => exact .refl s
  | cons f files ih =>
    obtain ⟨here, later⟩ := List.forall_mem_cons.mp numbered
    obtain ⟨ws, told, log, wellFormed⟩ := checkFound_told reachable f here compared
    have ran := s.checkFound_run f.1 f.2
    have stays := s.stays_fileOps f.1 f.2
    have same : SamePass s (s.checkFound f.1 f.2) := ran ▸ run_samePass stays
    have rest := ih (s := s.checkFound f.1 f.2) (ran ▸ reachable_run reachable _) later (by
      intro other
      rw [same.isBase] at other
      rw [ran, run_baseline other stays]
      exact compared other)
    rw [same.locale] at rest
    have first : Logged s (s.checkFound f.1 f.2) [.file s.locale b f.1 (tableOf f).2] :=
      .stop told log wellFormed
    exact first.trans same.toSameSettings rest

/-- A pass logs for each of its files warnings that are like the file, and missing files last. -/
theorem checkAll_logged (reachable : s.Reachable) (locale : Text)
    {files : List (Text × Option Table)} (numbered : ∀ f ∈ files.map tableOf, f.2.Numbered) :
    Logged s (s.checkAll locale files)
      (((files.map tableOf).map fun f => .file locale s.baseline f.1 f.2) ++ [.ending locale]) := by
  have entered : (s.enterLocale locale).Reachable := reachable.step (.enterLocale locale)
  obtain ⟨ops, stays, ran⟩ := (s.enterLocale locale).foldl_checkFound_run files
  have same : SamePass (s.enterLocale locale) _ := run_samePass stays
  have checked := foldl_checkFound_logged entered numbered fun _ => rfl
  have left := leaveLocale_logged (ran ▸ reachable_run entered ops)
  rw [← ran] at same
  rw [same.locale] at left
  exact checked.trans same.toSameSettings left

end Session
end LocaleLint
