import LocaleLint.Proofs.Session.BasePass
import LocaleLint.Proofs.Session.Course

namespace LocaleLint.Session

/-- The session in a pass through the base locale after some files and the first records of the next
one. -/
def amid (s : Session) (before : List (Text × Table)) (group : Text) (rs : List Record) : Session :=
  rs.foldl checkRecord
    ((before.foldl (fun s f => s.checkFile f.1 f.2) (s.enterLocale s.baseLocale)).openFile group)

/-- What is known of such a session. -/
structure Amid (s t : Session) (group : Text) (rs : List Record) : Prop
    extends SamePass (s.enterLocale s.baseLocale) t where
  filling : t.Filling
  group : t.group = group
  seen : ∀ k, k ∈ t.seenKeys ↔ k ∈ rs.map (·.key)

variable {s : Session} {group : Text} {rs : List Record}

theorem foldl_checkFile_amid (silent : s.lineSuppressed = {}) (files : List (Text × Table)) :
    let t := files.foldl (fun s f => s.checkFile f.1 f.2) (s.enterLocale s.baseLocale)
    SamePass (s.enterLocale s.baseLocale) t ∧ t.Filling := by
  intro t
  obtain ⟨ops, stays, checked⟩ := (s.enterLocale s.baseLocale).foldl_checkFile_run files
  have base : (s.enterLocale s.baseLocale).isBase = true := decide_eq_true rfl
  dsimp only [t]
  rw [checked]
  have same : SamePass (s.enterLocale s.baseLocale) _ := run_samePass stays
  exact ⟨same, same.isBase.trans base, run_silent (s := s.enterLocale s.baseLocale) silent ops⟩

theorem amid_spec (silent : s.lineSuppressed = {}) (before : List (Text × Table)) (group : Text)
    (placed : ∀ r ∈ rs, Placed r) : Amid s (s.amid before group rs) group rs := by
  obtain ⟨same, filling⟩ := foldl_checkFile_amid silent before
  have opened : (openFile _ group).Filling := ⟨filling.base, filling.silent⟩
  obtain ⟨line, keys, seen, read⟩ := foldl_checkRecord_filling opened placed [] fun _ => Iff.rfl
  rw [amid, read]
  exact ⟨⟨⟨same.baseLocale, same.suppressed, same.assignment⟩, same.locale, same.encoding⟩,
    ⟨opened.base, opened.silent⟩, rfl, fun k => (seen k).trans (or_iff_right List.not_mem_nil)⟩

theorem checkRecord_amid {t : Session} (a : Amid s t group rs) {r : Record} (placed : Placed r)
    (quiet : s.suppressed.covers .duplicate = false)
    (unmarked : r.suppressed.covers .duplicate = false) :
    (t.checkRecord r).log.toList = t.log.toList ++
        (if r.key ∈ rs.map (·.key) then [⟨.duplicate, s.baseLocale, group, some r.line, r.key⟩]
        else []) ∧
      (t.checkRecord r).baseline =
        (if r.key ∈ rs.map (·.key) then t.baseline
        else t.baseline.insert group r.key (.ofValue r.value)) := by
  have quiet' : t.suppressed.covers .duplicate = false :=
    (congrArg (·.covers .duplicate) a.suppressed).trans quiet
  have locale : t.locale = s.baseLocale := a.locale
  obtain ⟨keys, -, checked⟩ := checkRecord_filling a.filling placed a.seen
  rw [checked, duplicateWarning?_eq quiet' unmarked, locale, a.group]
  refine ⟨Array.toList_append, ?_⟩
  simp only [logAll, Baseline.addRecord, List.contains_iff_mem]

theorem checkLocale_amid (silent : s.lineSuppressed = {}) (before after : List (Text × Table))
    (group : Text) {t : Table} {r : Record} {rs' : List Record}
    (records : t.records = rs ++ r :: rs') :
    ∃ ops, (∀ op ∈ ops, op.Stays) ∧
      s.checkLocale s.baseLocale (before ++ (group, t) :: after) =
        ((s.amid before group rs).checkRecord r).run ops := by
  obtain ⟨-, filling⟩ := foldl_checkFile_amid silent before
  have file : (before.foldl (fun s f => s.checkFile f.1 f.2)
      (s.enterLocale s.baseLocale)).checkFile group t =
        ((s.amid before group rs).checkRecord r).run
          (rs'.map .checkRecord ++ [.closeFile t.lineCount]) := by
    rw [checkFile_of_hasBase (hasBase_filling filling group), checkTable, records,
      List.foldl_append, List.foldl_cons, foldl_checkRecord_run _ rs', run_append]
    rfl
  obtain ⟨ops, stays, rest⟩ := foldl_checkFile_run
    (((s.amid before group rs).checkRecord r).run
      (rs'.map .checkRecord ++ [.closeFile t.lineCount])) after
  have ends : ∀ op ∈ rs'.map Op.checkRecord ++ [.closeFile t.lineCount], op.Stays :=
    fun op member => (inFile_records rs' t.lineCount op member).stays
  refine ⟨(rs'.map .checkRecord ++ [.closeFile t.lineCount]) ++ (ops ++ [.leaveLocale]),
    List.forall_mem_append.mpr ⟨ends, List.forall_mem_append.mpr ⟨stays, by simp [Op.Stays]⟩⟩, ?_⟩
  rw [checkLocale_eq, List.foldl_append, List.foldl_cons, file, rest, run_append _ _ (ops ++ _),
    run_append _ ops]
  rfl

/-- In a pass through the base locale a record is a duplicate if and only if its key came earlier in
its file, and then the baseline stays as it is. Any other record is put into the baseline without a
warning, also in place of one from another file of the group. So at the end each key has the value
of the first record with it in the last file of the group that has one. -/
theorem checkLocale_repeated (reachable : Reachable s)
    (quiet : s.suppressed.covers .duplicate = false) (before after : List (Text × Text))
    (group text : Text) {r : Record} {rs' : List Record}
    (records : (Table.ofText text).records = rs ++ r :: rs')
    (unmarked : r.suppressed.covers .duplicate = false) :
    let tables := fun files : List (Text × Text) => files.map fun f => (f.1, Table.ofText f.2)
    let repeated := r.key ∈ rs.map (·.key)
    let here := s.amid (tables before) group rs
    let next := here.checkRecord r
    let t := s.checkLocale s.baseLocale (tables (before ++ (group, text) :: after))
    next.log.toList = here.log.toList ++
        (if repeated then [⟨.duplicate, s.baseLocale, group, some r.line, r.key⟩] else []) ∧
      next.baseline =
        (if repeated then here.baseline
        else here.baseline.insert group r.key (.ofValue r.value)) ∧
      (∃ ws, t.log.toList = next.log.toList ++ ws) ∧
      (¬ repeated → r.key ∉ keysOf (tablesOf group (tables after)) →
        t.baseline.get? group r.key = some (.ofValue r.value)) := by
  intro tables repeated here next t
  have silent := (reachable_sound reachable).silent
  have placed : ∀ x ∈ rs ++ r :: rs', Placed x := records ▸ placed_ofText
  have known : Amid s here group rs := amid_spec silent (tables before) group fun x earlier =>
    placed x (List.mem_append_left _ earlier)
  have pieces : tables (before ++ (group, text) :: after) =
      tables before ++ (group, Table.ofText text) :: tables after := by
    simp [tables]
  obtain ⟨log, baseline⟩ :=
    checkRecord_amid known (placed r (List.mem_append_right _ List.mem_cons_self)) quiet unmarked
  refine ⟨log, baseline, ?_, fun first last => ?_⟩
  · obtain ⟨ops, stays, rest⟩ :=
      checkLocale_amid silent (tables before) (tables after) group records
    have silent' : next.lineSuppressed = {} :=
      step_silent here known.filling.silent (.checkRecord r)
    obtain ⟨ws, added, -⟩ := run_added silent' stays
    refine ⟨ws, ?_⟩
    dsimp only [t]
    rw [pieces, rest]
    exact added
  · have placed_all : ∀ x ∈ tables (before ++ (group, text) :: after), ∀ y ∈ x.2.records,
        Placed y := by
      intro x member
      obtain ⟨f, -, rfl⟩ := List.mem_map.mp member
      exact placed_ofText
    have filled := (checkLocale_filling silent placed_all).1
    dsimp only [t]
    rw [filled, pieces]
    exact Baseline.get?_addTables_last s.baseline records first last

theorem checkLocale_repeated_twice :
    let s := new "EN".toList {} {}
    let before := [("UI".toList, "UI\nA = \"a\",\n".toList)]
    let text := "UI\nB = \"b\",\nA = \"c\",\nA = \"d\",\n".toList
    let b : Record := ⟨"B".toList, "b".toList, 2, {}⟩
    let c : Record := ⟨"A".toList, "c".toList, 3, {}⟩
    let d : Record := ⟨"A".toList, "d".toList, 4, {}⟩
    let after := [("Tip".toList, "Tip\nA = \"e\",\n".toList)]
    let tables := fun files : List (Text × Text) => files.map fun f => (f.1, Table.ofText f.2)
    let here := s.amid (tables before) "UI".toList [b, c]
    let t := s.checkLocale s.baseLocale (tables (before ++ ("UI".toList, text) :: after))
    Reachable s ∧ s.suppressed.covers .duplicate = false ∧
      (Table.ofText text).records = [b, c, d] ∧
      (here.checkRecord d).log.toList = here.log.toList ++
        [⟨.duplicate, "EN".toList, "UI".toList, some 4, "A".toList⟩] ∧
      (here.checkRecord d).baseline = here.baseline ∧
      t.baseline.get? "UI".toList "A".toList = some (.ofValue "c".toList) := by
  intro s before text b c d after tables here t
  have reachable : Reachable s := .new _ _ _
  have quiet : s.suppressed.covers .duplicate = false := rfl
  have records : (Table.ofText text).records = [b, c, d] := by decide +kernel
  have at_d : (Table.ofText text).records = [b, c] ++ d :: [] := records
  have at_c : (Table.ofText text).records = [b] ++ c :: [d] := records
  have again := checkLocale_repeated reachable quiet before after "UI".toList text at_d rfl
  have first := checkLocale_repeated reachable quiet before after "UI".toList text at_c rfl
  have repeated : d.key ∈ [b, c].map (·.key) := by decide +kernel
  refine ⟨reachable, quiet, records, ?_, ?_, first.2.2.2 (by decide +kernel) (by decide +kernel)⟩
  · have log := again.1
    rwa [if_pos repeated] at log
  · have baseline := again.2.1
    rwa [if_pos repeated] at baseline

/-- Another file of the group replaces a string without a word. -/
theorem other_file_replaces :
    let s := new "EN".toList {} {}
    let t := s.checkLocale s.baseLocale [("UI".toList, .ofText "UI\nA = \"a\",\n".toList),
      ("UI".toList, .ofText "UI\nA = \"b\",\n".toList)]
    t.log = #[] ∧ t.baseline.get? "UI".toList "A".toList = some (.ofValue "b".toList) := by
  decide +kernel

end LocaleLint.Session
