import LocaleLint.Proofs.Config.Merging

/-!
# Writing lists of encodings

A list is read part by part, and a later part counts more than an earlier one. So two lists behind
one another give the second map over the first, a map that is written entry by entry is read back,
and parts that are no entries might as well not be there.
-/

namespace LocaleLint

namespace Assignment

/-- Whether a text can be the locale or the label of an entry. -/
structure IsPiece (t : Text) : Prop where
  trimmed : Text.trim t = t
  noComma : ',' ∉ t
  noColon : ':' ∉ t

instance (t : Text) : Decidable (IsPiece t) :=
  decidable_of_iff (Text.trim t = t ∧ ',' ∉ t ∧ ':' ∉ t)
    ⟨fun ⟨trimmed, noComma, noColon⟩ => ⟨trimmed, noComma, noColon⟩,
      fun h => ⟨h.trimmed, h.noComma, h.noColon⟩⟩

def IsEntry (part : Text) : Prop := part.count ':' = 1

instance (part : Text) : Decidable (IsEntry part) := inferInstanceAs (Decidable (_ = _))

def IsWritten (e : Text × Text) (part : Text) : Prop :=
  ∃ front back, Text.IsPadded Text.isBlank e.1 front ∧ Text.IsPadded Text.isBlank e.2 back ∧
    part = front ++ ':' :: back

variable {e : Text × Text} {part : Text} {ps : List Text} {es : List (Text × Text)}

/-! ### Parts -/

theorem pair?_eq_none_iff : pair? part = none ↔ ¬ IsEntry part := by
  rw [Option.eq_none_iff_forall_ne_some, iff_not_comm]
  push Not
  constructor
  · intro single
    have colon : ':' ∈ part := List.count_pos_iff.mp (by rw [single]; exact Nat.one_pos)
    obtain ⟨front, back, rfl, free⟩ := List.eq_append_cons_of_mem colon
    have last : ':' ∉ back := by
      rw [IsEntry, List.count_append, List.count_cons_self, List.count_eq_zero.mpr free] at single
      exact List.count_eq_zero.mp (by omega)
    exact ⟨_, pair?_eq_some_iff.mpr ⟨front, back, rfl, free, last, rfl, rfl⟩⟩
  · rintro ⟨⟨locale, label⟩, found⟩
    obtain ⟨front, back, rfl, free, last, -, -⟩ := pair?_eq_some_iff.mp found
    rw [IsEntry, List.count_append, List.count_cons_self, List.count_eq_zero.mpr free,
      List.count_eq_zero.mpr last]

theorem filterMap_pair?_filter (ps : List Text) :
    (ps.filter fun p => IsEntry p).filterMap pair? = ps.filterMap pair? := by
  rw [List.filterMap_filter]
  refine List.filterMap_congr fun p _ => ?_
  split
  · rfl
  · next other => exact (pair?_eq_none_iff.mpr (by simpa using other)).symm

theorem parts_append (a b : Text) : parts (a ++ ',' :: b) = parts a ++ parts b := by
  rw [parts_eq, List.splitOn_append_cons_self, List.filterMap_append]
  rfl

theorem parts_join (noComma : ∀ p ∈ ps, ',' ∉ p) :
    parts (Text.join [','] ps) = ps.filterMap pair? := by
  rw [parts_eq, Text.join]
  by_cases none : ps = []
  · rw [none]
    rfl
  · rw [List.splitOn_intercalate ',' noComma none]

/-! ### Entries -/

theorem pair?_of_written (locale : IsPiece e.1) (label : IsPiece e.2) (written : IsWritten e part) :
    pair? part = some e := by
  obtain ⟨front, back, padded, padded', rfl⟩ := written
  have colon : Text.isBlank ':' = false := by decide
  refine pair?_eq_some_iff.mpr ⟨front, back, rfl, ?_, ?_, Text.trim_padded locale.trimmed padded,
    Text.trim_padded label.trimmed padded'⟩
  · rw [Text.mem_padded_iff colon padded]
    exact locale.noColon
  · rw [Text.mem_padded_iff colon padded']
    exact label.noColon

theorem comma_not_mem_written (locale : IsPiece e.1) (label : IsPiece e.2)
    (written : IsWritten e part) : ',' ∉ part := by
  obtain ⟨front, back, padded, padded', rfl⟩ := written
  have comma : Text.isBlank ',' = false := by decide
  simp [Text.mem_padded_iff comma padded, Text.mem_padded_iff comma padded', locale.noComma,
    label.noComma]

theorem parts_written (pieces : ∀ e ∈ es, IsPiece e.1 ∧ IsPiece e.2)
    (written : List.Forall₂ IsWritten es ps) : parts (Text.join [','] ps) = es := by
  have noComma : ∀ p ∈ ps, ',' ∉ p := by
    intro p member
    induction written with
    | nil => cases member
    | cons first _ ih =>
      obtain ⟨locale, label⟩ := pieces _ List.mem_cons_self
      rcases List.mem_cons.mp member with rfl | later
      · exact comma_not_mem_written locale label first
      · exact ih (fun e inside => pieces e (List.mem_cons_of_mem _ inside)) later
  rw [parts_join noComma]
  clear noComma
  induction written with
  | nil => rfl
  | cons first _ ih =>
    obtain ⟨locale, label⟩ := pieces _ List.mem_cons_self
    rw [List.filterMap_cons_some (pair?_of_written locale label first),
      ih fun e inside => pieces e (List.mem_cons_of_mem _ inside)]

/-- The map of two lists with a comma between them is that of the second over that of the first. A
map whose entries are written in any order, with any blanks around locales and labels, is read back;
and parts that are no entries can be left out of any list. -/
theorem labelsOfList_written :
    (∀ a b : Text, labelsOfList (a ++ ',' :: b) =
        TextMap.insertAll (labelsOfList a) (labelsOfList b) ∧
      ∀ locale, TextMap.get? (labelsOfList (a ++ ',' :: b)) locale =
        (TextMap.get? (labelsOfList b) locale).or (TextMap.get? (labelsOfList a) locale)) ∧
      (∀ m : TextMap Text, TextMap.Ascending m → (∀ e ∈ m, IsPiece e.1 ∧ IsPiece e.2) →
        ∀ es ps, es.Perm m → List.Forall₂ IsWritten es ps →
          labelsOfList (Text.join [','] ps) = m) ∧
      ∀ list : Text,
        labelsOfList (Text.join [','] ((list.splitOn ',').filter fun p => IsEntry p)) =
          labelsOfList list := by
  refine ⟨fun a b => ?_, fun m ascending pieces es ps perm written => ?_, fun list => ?_⟩
  · have whole : labelsOfList (a ++ ',' :: b) =
        TextMap.insertAll (labelsOfList a) (labelsOfList b) := by
      rw [labelsOfList, parts_append]
      exact TextMap.ofList_append _ _
    refine ⟨whole, fun locale => ?_⟩
    rw [whole]
    exact TextMap.get?_insertAll_map (TextMap.ascending_ofList _) _ locale
  · rw [labelsOfList, parts_written (fun e inside => pieces e (perm.subset inside)) written]
    exact TextMap.ofList_perm ascending perm
  · have noComma : ∀ p ∈ (list.splitOn ',').filter fun p => IsEntry p, ',' ∉ p := fun p member =>
      Text.not_mem_of_mem_splitOn (List.mem_of_mem_filter member)
    rw [labelsOfList, parts_join noComma, filterMap_pair?_filter, ← parts_eq]
    rfl

theorem labelsOfList_written_between_others :
    let m : TextMap Text := [([], "utf-8".toList), ("FR".toList, "cp 1252".toList)]
    let es := [("FR".toList, "cp 1252".toList), ([], "utf-8".toList)]
    let ps := ["\tFR\u00a0: cp 1252".toList, ":utf-8 ".toList]
    TextMap.Ascending m ∧ (∀ e ∈ m, IsPiece e.1 ∧ IsPiece e.2) ∧ es.Perm m ∧
      List.Forall₂ IsWritten es ps ∧ labelsOfList (Text.join [','] ps) = m ∧
      labelsOfList "FR,\tFR\u00a0: cp 1252,FR:a:b,,:utf-8 ,".toList = m := by
  intro m es ps
  obtain ⟨-, back, dropped⟩ := labelsOfList_written
  have ascending : TextMap.Ascending m := by decide +kernel
  have pieces : ∀ e ∈ m, IsPiece e.1 ∧ IsPiece e.2 := by decide +kernel
  have perm : es.Perm m := List.Perm.swap _ _ _
  have written : List.Forall₂ IsWritten es ps := by
    refine .cons ⟨"\tFR\u00a0".toList, " cp 1252".toList, ?_, ?_, rfl⟩
      (.cons ⟨[], "utf-8 ".toList, ?_, ?_, rfl⟩ .nil)
    · exact ⟨['\t'], ['\u00a0'], by simp [Text.isBlank], by simp [Text.isBlank], rfl⟩
    · exact ⟨[' '], [], by simp [Text.isBlank], by simp [Text.isBlank], rfl⟩
    · exact ⟨[], [], by simp [Text.isBlank], by simp [Text.isBlank], rfl⟩
    · exact ⟨[], [' '], by simp [Text.isBlank], by simp [Text.isBlank], rfl⟩
  have read := back m ascending pieces es ps perm written
  refine ⟨ascending, pieces, perm, written, read, ?_⟩
  rw [← dropped, ← read]
  exact congrArg labelsOfList (by decide +kernel)

end Assignment
end LocaleLint
