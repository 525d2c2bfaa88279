import LocaleLint.Proofs.Session.BasePass

namespace LocaleLint

/-- What the files of a locale are beside the base files when nothing is to be reported: they have
the same groups, and those that can be read translate the base strings. -/
structure Conforms (base : List (Text × Table)) (files : List (Text × Option Table)) : Prop where
  groups : ∀ group, group ∈ files.map (·.1) ↔ group ∈ base.map (·.1)
  distinct : ∀ f ∈ files, ∀ t ∈ f.2, (t.records.map (·.key)).Nodup
  keys : ∀ f ∈ files, ∀ t ∈ f.2, ∀ key,
    key ∈ t.records.map (·.key) ↔ key ∈ keysOf (tablesOf f.1 base)
  values : ∀ f ∈ files, ∀ t ∈ f.2, ∀ r ∈ t.records, ∃ b,
    decidingRecord? (tablesOf f.1 base) r.key = some b ∧ b.value ≠ r.value ∧
      (Placeholder.found b.value).length = (Placeholder.found r.value).length

namespace Session

def Fresh (earlier : List Text) (rs : List Record) : Prop :=
  (rs.map (·.key)).Nodup ∧ ∀ r ∈ rs, r.key ∉ earlier

/-- A record with another value than the base string of its key and as many placeholders. -/
def Translates (b : Baseline) (group : Text) (r : Record) : Prop :=
  ∃ e, b.get? group r.key = some e ∧ e.value ≠ r.value ∧
    (Placeholder.found e.value).length = (Placeholder.found r.value).length

variable {b : Baseline} {locale group : Text}

/-! ### Records -/

theorem fresh_cons {earlier : List Text} {r : Record} {rs : List Record} :
    Fresh earlier (r :: rs) ↔ r.key ∉ earlier ∧ Fresh (r.key :: earlier) rs := by
  unfold Fresh
  rw [List.map_cons, List.nodup_cons, List.forall_mem_cons]
  constructor
  · rintro ⟨⟨once, distinct⟩, here, later⟩
    refine ⟨here, distinct, fun q inside old => ?_⟩
    rcases List.mem_cons.mp old with same | older
    · exact once (same ▸ List.mem_map.mpr ⟨q, inside, rfl⟩)
    · exact later q inside older
  · rintro ⟨here, distinct, later⟩
    refine ⟨⟨?_, distinct⟩, here, fun q inside old => ?_⟩
    · intro again
      obtain ⟨q, inside, same⟩ := List.mem_map.mp again
      exact later q inside (same ▸ List.mem_cons_self)
    · exact later q inside (List.mem_cons_of_mem _ old)

theorem fresh_nil_iff {rs : List Record} : Fresh [] rs ↔ (rs.map (·.key)).Nodup := by
  simp [Fresh]

theorem verdict?_eq_none_iff {earlier : List Text} {r : Record} :
    verdict? b group earlier r = none ↔ r.key ∉ earlier ∧ Translates b group r := by
  unfold verdict? Translates
  by_cases seen : r.key ∈ earlier
  · simp [seen]
  · rw [if_neg (by simpa using seen)]
    cases found : b.get? group r.key with
    | none => simp
    | some e =>
      by_cases same : e.value = r.value <;> simp [seen, same]

theorem recordWarnings_eq_nil_iff {earlier : List Text} {rs : List Record} :
    recordWarnings b locale group earlier rs = [] ↔
      Fresh earlier rs ∧ ∀ r ∈ rs, Translates b group r := by
  induction rs generalizing earlier with
  | nil => simp [recordWarnings, Fresh]
  | cons r rs ih =>
    have first : (recordWarning? b locale group earlier r).toList = [] ↔
        r.key ∉ earlier ∧ Translates b group r := by
      rw [← verdict?_eq_none_iff, recordWarning?]
      simp
    rw [recordWarnings, List.append_eq_nil_iff, first, ih, fresh_cons, List.forall_mem_cons]
    exact and_and_and_comm

theorem duplicateWarnings_eq_nil_iff {earlier : List Text} {rs : List Record}
    (unmarked : ∀ r ∈ rs, r.suppressed = {}) :
    duplicateWarnings {} locale group earlier rs = [] ↔ Fresh earlier rs := by
  induction rs generalizing earlier with
  | nil => simp [duplicateWarnings, Fresh]
  | cons r rs ih =>
    obtain ⟨here, later⟩ := List.forall_mem_cons.mp unmarked
    have first : (duplicateWarning? {} locale group earlier r).toList = [] ↔ r.key ∉ earlier := by
      rw [duplicateWarning?, here]
      simp [covers_empty]
    rw [duplicateWarnings, List.append_eq_nil_iff, first, ih later, fresh_cons]

/-! ### Files -/

theorem missingWarnings_eq_nil_iff {t : Table} :
    missingWarnings b locale group t = [] ↔
      ∀ k ∈ b.keys group, k ∈ t.records.map (·.key) := by
  simp [missingWarnings]

theorem missingFileWarnings_eq_nil_iff {groups : List Text} :
    missingFileWarnings b locale groups = [] ↔ ∀ g ∈ b.groups, g ∈ groups := by
  simp [missingFileWarnings]

theorem fileWarnings_eq_nil_iff {t : Table} :
    fileWarnings b locale group t = [] ↔
      group ∈ b.groups ∧ (t.records.map (·.key)).Nodup ∧
        (∀ r ∈ t.records, Translates b group r) ∧
        ∀ k ∈ b.keys group, k ∈ t.records.map (·.key) := by
  unfold fileWarnings
  by_cases known : group ∈ b.groups
  · rw [if_pos (List.contains_iff_mem.mpr known), List.append_eq_nil_iff,
      recordWarnings_eq_nil_iff, missingWarnings_eq_nil_iff, fresh_nil_iff]
    simp only [known, true_and, and_assoc]
  · rw [if_neg (by simpa using known)]
    simp [known]

theorem foundWarnings_eq_nil_iff {table? : Option Table} :
    foundWarnings b locale group table? = [] ↔
      group ∈ b.groups ∧ ∀ t ∈ table?, (t.records.map (·.key)).Nodup ∧
        (∀ r ∈ t.records, Translates b group r) ∧
        ∀ k ∈ b.keys group, k ∈ t.records.map (·.key) := by
  cases table? with
  | some t =>
    rw [foundWarnings, fileWarnings_eq_nil_iff]
    simp
  | none => by_cases known : group ∈ b.groups <;> simp [foundWarnings, known]

/-! ### Passes -/

theorem mem_groups_filled {base : List (Text × Table)} :
    group ∈ (({} : Baseline).addTables base).groups ↔ group ∈ base.map (·.1) := by
  rw [Baseline.groups_addTables, Baseline.mem_foldl_noteName]
  exact or_iff_right List.not_mem_nil

theorem mem_keys_filled {base : List (Text × Table)} {key : Text} :
    key ∈ (({} : Baseline).addTables base).keys group ↔ key ∈ keysOf (tablesOf group base) := by
  rw [Baseline.keys_addTables, Baseline.mem_foldl_noteName]
  exact or_iff_right List.not_mem_nil

theorem translates_filled_iff {base : List (Text × Table)} {r : Record} :
    Translates (({} : Baseline).addTables base) group r ↔
      ∃ b, decidingRecord? (tablesOf group base) r.key = some b ∧ b.value ≠ r.value ∧
        (Placeholder.found b.value).length = (Placeholder.found r.value).length := by
  have nothing : ({} : Baseline).get? group r.key = none := rfl
  unfold Translates
  rw [Baseline.get?_addTables, nothing, Option.or_none]
  constructor
  · rintro ⟨e, entry, differs⟩
    obtain ⟨b, decides, rfl⟩ := Option.map_eq_some_iff.mp entry
    exact ⟨b, decides, differs⟩
  · rintro ⟨b, decides, differs⟩
    exact ⟨_, Option.map_eq_some_iff.mpr ⟨b, decides, rfl⟩, differs⟩

theorem allWarnings_eq_nil_iff {base : List (Text × Table)} {files : List (Text × Option Table)} :
    allWarnings (({} : Baseline).addTables base) locale files = [] ↔ Conforms base files := by
  rw [allWarnings, List.append_eq_nil_iff, List.flatMap_eq_nil_iff,
    missingFileWarnings_eq_nil_iff]
  simp only [foundWarnings_eq_nil_iff, mem_groups_filled, mem_keys_filled, translates_filled_iff]
  constructor
  · rintro ⟨each, whole⟩
    refine ⟨fun g => ⟨?_, whole g⟩, fun f here t read => ((each f here).2 t read).1,
      fun f here t read key => ⟨?_, ?_⟩, fun f here t read => ((each f here).2 t read).2.1⟩
    · intro present
      obtain ⟨f, here, rfl⟩ := List.mem_map.mp present
      exact (each f here).1
    · intro present
      obtain ⟨r, inside, rfl⟩ := List.mem_map.mp present
      obtain ⟨b, decides, -⟩ := ((each f here).2 t read).2.1 r inside
      exact isSome_decidingRecord?_iff.mp (by rw [decides]; rfl)
    · exact ((each f here).2 t read).2.2 key
  · rintro ⟨groups, distinct, keys, values⟩
    refine ⟨fun f here => ⟨?_, fun t read => ⟨distinct f here t read, values f here t read,
      fun k => (keys f here t read k).mpr⟩⟩, fun g => (groups g).mpr⟩
    exact (groups f.1).mp (List.mem_map.mpr ⟨f, here, rfl⟩)

end Session
end LocaleLint
