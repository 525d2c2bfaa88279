import LocaleLint.Proofs.Baseline
import LocaleLint.Table.Reader

/-!
# Filling the baseline

The baseline that results when tables are put into it one after another, and what it then holds:
groups and keys in the order in which they come up, and for each key the value of its first record
in the last table of the group that has the key.
-/

namespace LocaleLint

/-- The tables of a group among the files of a locale. -/
def tablesOf (group : Text) (files : List (Text × Table)) : List Table :=
  (files.filter fun f => f.1 = group).map (·.2)

/-- The first record with a key in the last table that has one. -/
def decidingRecord? (tables : List Table) (key : Text) : Option Record :=
  tables.reverse.findSome? fun t => t.records.find? fun r => r.key = key

def keysOf (tables : List Table) : List Text := tables.flatMap fun t => t.records.map (·.key)

theorem isSome_decidingRecord?_iff {tables : List Table} {key : Text} :
    (decidingRecord? tables key).isSome = true ↔ key ∈ keysOf tables := by
  simp [decidingRecord?, keysOf]

namespace Baseline

/-- The entry of a record, unless one with the same key came earlier in the file. -/
def addRecord (b : Baseline) (group : Text) (earlier : List Text) (r : Record) : Baseline :=
  if earlier.contains r.key then b else b.insert group r.key (.ofValue r.value)

def addRecords (b : Baseline) (group : Text) (earlier : List Text) : List Record → Baseline
  | [] => b
  | r :: rs => (b.addRecord group earlier r).addRecords group (r.key :: earlier) rs

def addTable (b : Baseline) (group : Text) (t : Table) : Baseline :=
  (b.addGroup group).addRecords group [] t.records

def addTables (b : Baseline) (files : List (Text × Table)) : Baseline :=
  files.foldl (fun b f => b.addTable f.1 f.2) b

/-! ### Names in first-seen order -/

theorem noteName_eraseDups (names : List Text) (name : Text) :
    noteName names.eraseDups name = (names ++ [name]).eraseDups := by
  rw [List.eraseDups_append]
  by_cases known : name ∈ names
  · have old : name ∈ names.eraseDups := List.mem_eraseDups.mpr known
    simp [noteName, old, List.removeAll, known]
  · have fresh : name ∉ names.eraseDups := fun h => known (List.mem_eraseDups.mp h)
    simp [noteName, fresh, List.removeAll, known, List.eraseDups_cons]

theorem foldl_noteName (names : List Text) : names.foldl noteName [] = names.eraseDups := by
  induction names using List.reverseRecOn with
  | nil => rfl
  | append_singleton names name ih =>
    rw [List.foldl_append, ih, List.foldl_cons, List.foldl_nil, noteName_eraseDups]

theorem mem_foldl_noteName {names more : List Text} {a : Text} :
    a ∈ more.foldl noteName names ↔ a ∈ names ∨ a ∈ more := by
  induction more generalizing names with
  | nil => simp
  | cons name more ih => rw [List.foldl_cons, ih, mem_noteName, List.mem_cons, or_assoc]

/-! ### Records of a file -/

variable {b : Baseline} {group : Text} {earlier : List Text}

theorem groups_addRecord (known : group ∈ b.groups) (earlier : List Text) (r : Record) :
    (b.addRecord group earlier r).groups = b.groups := by
  unfold addRecord
  split
  · rfl
  · rw [groups_insert, noteName_known known]

theorem groups_addRecords (known : group ∈ b.groups) (earlier : List Text) (rs : List Record) :
    (b.addRecords group earlier rs).groups = b.groups := by
  induction rs generalizing b earlier with
  | nil => rfl
  | cons r rs ih =>
    have same := groups_addRecord known earlier r
    rw [addRecords, ih (same ▸ known), same]

theorem keys_addRecord (seen : ∀ k ∈ earlier, k ∈ b.keys group) (r : Record) (other : Text) :
    (b.addRecord group earlier r).keys other =
      if other = group then noteName (b.keys group) r.key else b.keys other := by
  unfold addRecord
  split
  · next old =>
    have known : r.key ∈ b.keys group := seen _ (List.contains_iff_mem.mp old)
    split
    · next same => rw [noteName_known known, same]
    · rfl
  · exact keys_insert b group r.key _ other

theorem keys_addRecords (seen : ∀ k ∈ earlier, k ∈ b.keys group) (rs : List Record)
    (other : Text) :
    (b.addRecords group earlier rs).keys other =
      if other = group then (rs.map (·.key)).foldl noteName (b.keys group) else b.keys other := by
  induction rs generalizing b earlier with
  | nil =>
    split
    · next same => rw [addRecords, same, List.map_nil, List.foldl_nil]
    · rfl
  | cons r rs ih =>
    have first := keys_addRecord seen r
    have seen' : ∀ k ∈ r.key :: earlier, k ∈ (b.addRecord group earlier r).keys group := by
      intro k member
      rw [first, if_pos rfl, mem_noteName]
      exact (List.mem_cons.mp member).elim Or.inr fun old => Or.inl (seen k old)
    rw [addRecords, ih seen', first, if_pos rfl, first, List.map_cons, List.foldl_cons]
    split <;> rfl

theorem get?_addRecord (b : Baseline) (group : Text) (earlier : List Text) (r : Record)
    (other key : Text) :
    (b.addRecord group earlier r).get? other key =
      if other = group ∧ key = r.key ∧ key ∉ earlier then some (.ofValue r.value)
      else b.get? other key := by
  unfold addRecord
  by_cases old : r.key ∈ earlier
  · have late : ¬ (other = group ∧ key = r.key ∧ key ∉ earlier) := by
      rintro ⟨-, rfl, fresh⟩
      exact fresh old
    rw [if_pos (List.contains_iff_mem.mpr old), if_neg late]
  · rw [if_neg (by simpa using old), get?_insert]
    by_cases here : other = group ∧ key = r.key
    · rw [if_pos here, if_pos ⟨here.1, here.2, here.2 ▸ old⟩]
    · rw [if_neg here, if_neg fun h => here ⟨h.1, h.2.1⟩]

theorem get?_addRecords (b : Baseline) (group : Text) (earlier : List Text) (rs : List Record)
    (other key : Text) :
    (b.addRecords group earlier rs).get? other key =
      if other = group ∧ key ∉ earlier then
        ((rs.find? fun r => r.key = key).map fun r => .ofValue r.value).or (b.get? other key)
      else b.get? other key := by
  induction rs generalizing b earlier with
  | nil => simp [addRecords]
  | cons r rs ih =>
    rw [addRecords, ih, get?_addRecord]
    by_cases here : other = group ∧ key ∉ earlier
    · by_cases same : key = r.key
      · simp [here, same]
      · simp [here, same, Ne.symm same]
    · have later : ¬ (other = group ∧ key ∉ r.key :: earlier) := fun h =>
        here ⟨h.1, fun old => h.2 (List.mem_cons_of_mem _ old)⟩
      have late : ¬ (other = group ∧ key = r.key ∧ key ∉ earlier) := fun h => here ⟨h.1, h.2.2⟩
      rw [if_neg later, if_neg late, if_neg here]

/-! ### Tables -/

theorem groups_addTable (b : Baseline) (group : Text) (t : Table) :
    (b.addTable group t).groups = noteName b.groups group := by
  have known : group ∈ (b.addGroup group).groups := by
    rw [groups_addGroup, mem_noteName]
    exact Or.inr rfl
  rw [addTable, groups_addRecords known, groups_addGroup]

theorem keys_addTable (b : Baseline) (group : Text) (t : Table) (other : Text) :
    (b.addTable group t).keys other =
      if other = group then (t.records.map (·.key)).foldl noteName (b.keys group)
      else b.keys other := by
  rw [addTable, keys_addRecords (by simp), keys_addGroup, keys_addGroup]

theorem get?_addTable (b : Baseline) (group : Text) (t : Table) (other key : Text) :
    (b.addTable group t).get? other key =
      if other = group then
        ((t.records.find? fun r => r.key = key).map fun r => .ofValue r.value).or (b.get? other key)
      else b.get? other key := by
  rw [addTable, get?_addRecords, get?_addGroup]
  simp

theorem addTables_cons (b : Baseline) (f : Text × Table) (files : List (Text × Table)) :
    b.addTables (f :: files) = (b.addTable f.1 f.2).addTables files :=
  rfl

theorem addTables_append (b : Baseline) (files more : List (Text × Table)) :
    b.addTables (files ++ more) = (b.addTables files).addTables more :=
  List.foldl_append

theorem groups_addTables (b : Baseline) (files : List (Text × Table)) :
    (b.addTables files).groups = (files.map (·.1)).foldl noteName b.groups := by
  induction files generalizing b with
  | nil => rfl
  | cons f files ih =>
    rw [addTables_cons, ih, groups_addTable, List.map_cons, List.foldl_cons]

theorem tablesOf_cons (group : Text) (f : Text × Table) (files : List (Text × Table)) :
    tablesOf group (f :: files) =
      if group = f.1 then f.2 :: tablesOf group files else tablesOf group files := by
  by_cases same : group = f.1
  · simp [tablesOf, same]
  · simp [tablesOf, same, Ne.symm same]

theorem keys_addTables (b : Baseline) (files : List (Text × Table)) (group : Text) :
    (b.addTables files).keys group =
      (keysOf (tablesOf group files)).foldl noteName (b.keys group) := by
  induction files generalizing b with
  | nil => rfl
  | cons f files ih =>
    rw [addTables_cons, ih, keys_addTable, tablesOf_cons]
    split
    · next same => rw [keysOf, keysOf, List.flatMap_cons, List.foldl_append, same]
    · rfl

theorem mem_groups_addTables {t : Table} {files : List (Text × Table)} (h : (group, t) ∈ files)
    (b : Baseline) : group ∈ (b.addTables files).groups := by
  rw [groups_addTables, mem_foldl_noteName]
  exact Or.inr (List.mem_map.mpr ⟨_, h, rfl⟩)

theorem mem_keys_addTables {t : Table} {files : List (Text × Table)} (h : (group, t) ∈ files)
    {r : Record} (inside : r ∈ t.records) (b : Baseline) :
    r.key ∈ (b.addTables files).keys group := by
  have here : t ∈ tablesOf group files :=
    List.mem_map.mpr ⟨(group, t), List.mem_filter.mpr ⟨h, decide_eq_true rfl⟩, rfl⟩
  rw [keys_addTables, mem_foldl_noteName]
  exact Or.inr (List.mem_flatMap.mpr ⟨t, here, List.mem_map.mpr ⟨r, inside, rfl⟩⟩)

theorem get?_addTables (b : Baseline) (files : List (Text × Table)) (group key : Text) :
    (b.addTables files).get? group key =
      ((decidingRecord? (tablesOf group files) key).map fun r => .ofValue r.value).or
        (b.get? group key) := by
  induction files generalizing b with
  | nil => rfl
  | cons f files ih =>
    rw [addTables_cons, ih, get?_addTable, tablesOf_cons]
    split
    · rw [decidingRecord?, decidingRecord?, List.reverse_cons, List.findSome?_append,
        List.findSome?_singleton, Option.map_or, Option.or_assoc]
    · rfl

theorem get?_addTables_last (b : Baseline) {before after : List (Text × Table)} {t : Table}
    {r : Record} {rs rs' : List Record} (records : t.records = rs ++ r :: rs')
    (first : r.key ∉ rs.map (·.key)) (last : r.key ∉ keysOf (tablesOf group after)) :
    (b.addTables (before ++ (group, t) :: after)).get? group r.key = some (.ofValue r.value) := by
  have later : decidingRecord? (tablesOf group after) r.key = none := by
    rw [← Option.not_isSome_iff_eq_none, isSome_decidingRecord?_iff]
    exact last
  have none_before : rs.find? (fun x => x.key = r.key) = none := by
    refine List.find?_eq_none.mpr fun x inside => ?_
    have different : x.key ≠ r.key := fun same => first (List.mem_map.mpr ⟨x, inside, same⟩)
    simpa using different
  rw [addTables_append, addTables_cons, get?_addTables, later, Option.map_none, Option.none_or,
    get?_addTable, if_pos rfl, records, List.find?_append, none_before]
  simp

end Baseline
end LocaleLint
