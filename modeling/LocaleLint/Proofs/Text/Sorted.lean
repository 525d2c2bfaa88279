import LocaleLint.Text.Sorted
import Mathlib.Data.List.Sort

namespace LocaleLint

theorem Text.lt_of_not_lt {s t : Text} (h : ¬ s < t) (different : s ≠ t) : t < s := by
  by_contra notBelow
  exact different (List.le_antisymm (List.not_lt.mp notBelow) (List.not_lt.mp h))

namespace TextSet

def Ascending (s : TextSet) : Prop := s.Pairwise (· < ·)

instance (s : TextSet) : Decidable (Ascending s) := inferInstanceAs (Decidable (List.Pairwise _ _))

variable {s u : TextSet}

theorem ascending_insert (h : Ascending s) (t : Text) : Ascending (insert t s) := by
  induction s with
  | nil => exact List.pairwise_singleton _ _
  | cons x xs ih =>
    obtain ⟨least, rest⟩ := List.pairwise_cons.mp h
    unfold insert
    split
    · exact h
    · next different =>
      split
      · next below =>
        refine List.pairwise_cons.mpr ⟨fun y member => ?_, h⟩
        rcases List.mem_cons.mp member with rfl | later
        · exact below
        · exact List.lt_trans below (least y later)
      · next notBelow =>
        refine List.pairwise_cons.mpr ⟨fun y member => ?_, ih rest⟩
        rcases mem_insert.mp member with rfl | later
        · exact Text.lt_of_not_lt notBelow different
        · exact least y later

theorem ascending_foldl_insert (h : Ascending s) (ts : List Text) :
    Ascending (ts.foldl (fun s t => insert t s) s) := by
  induction ts generalizing s with
  | nil => exact h
  | cons t ts ih => exact ih (ascending_insert h t)

theorem ascending_ofList (ts : List Text) : Ascending (ofList ts) :=
  ascending_foldl_insert List.Pairwise.nil ts

theorem eq_of_mem_iff (hs : Ascending s) (hu : Ascending u) (same : ∀ t, t ∈ s ↔ t ∈ u) : s = u :=
  hs.eq_of_mem_iff hu same

theorem ofList_congr {ts us : List Text} (same : ∀ t, t ∈ ts ↔ t ∈ us) : ofList ts = ofList us := by
  refine eq_of_mem_iff (ascending_ofList ts) (ascending_ofList us) fun t => ?_
  rw [mem_ofList, mem_ofList, same]

end TextSet

namespace TextMap

variable {α : Type} {m n : TextMap α}

def Ascending (m : TextMap α) : Prop := TextSet.Ascending (m.map (·.1))

instance (m : TextMap α) : Decidable (Ascending m) :=
  inferInstanceAs (Decidable (TextSet.Ascending _))

theorem map_fst_insert (k : Text) (v : α) (m : TextMap α) :
    (insert k v m).map (·.1) = TextSet.insert k (m.map (·.1)) := by
  induction m with
  | nil => rfl
  | cons e es ih =>
    unfold insert
    rw [List.map_cons, TextSet.insert]
    split
    · next same => rw [← same, List.map_cons]
    · split
      · rfl
      · rw [List.map_cons, ih]

theorem ascending_insertAll (h : Ascending m) (es : List (Text × α)) : Ascending (insertAll m es) := by
  induction es generalizing m with
  | nil => exact h
  | cons e es ih =>
    refine ih ?_
    unfold Ascending
    rw [map_fst_insert]
    exact TextSet.ascending_insert h e.1

/-- A key has the last of the values inserted for it, or else the one it had before. -/
theorem get?_insertAll (m : TextMap α) (es : List (Text × α)) (k : Text) :
    get? (insertAll m es) k = (es.reverse.lookup k).or (get? m k) := by
  induction es generalizing m with
  | nil => rfl
  | cons e es ih =>
    change get? (insertAll (insert e.1 e.2 m) es) k = _
    rw [ih, get?_insert, List.reverse_cons, List.lookup_append, lookup_cons_eq_ite]
    cases es.reverse.lookup k <;> by_cases same : k = e.1 <;> simp [same]

/-! ### Keys that occur once -/

theorem mem_iff_lookup {es : List (Text × α)} (unique : (es.map (·.1)).Nodup) {e : Text × α} :
    e ∈ es ↔ es.lookup e.1 = some e.2 := by
  induction es with
  | nil => simp
  | cons x xs ih =>
    obtain ⟨fresh, rest⟩ : x.1 ∉ xs.map (·.1) ∧ (xs.map (·.1)).Nodup := List.nodup_cons.mp unique
    rw [List.mem_cons, ih rest, lookup_cons_eq_ite]
    by_cases same : e.1 = x.1
    · have absent : xs.lookup e.1 ≠ some e.2 := fun later =>
        fresh (same ▸ List.mem_map_of_mem ((ih rest).mpr later))
      rw [if_pos same, or_iff_left absent, Option.some_inj, Prod.ext_iff]
      exact ⟨fun equal => equal.2.symm, fun equal => ⟨same, equal.symm⟩⟩
    · have other : e ≠ x := fun equal => same (congrArg (·.1) equal)
      rw [if_neg same, or_iff_right other]

theorem lookup_perm {es fs : List (Text × α)} (perm : es.Perm fs) (unique : (fs.map (·.1)).Nodup)
    (k : Text) : es.lookup k = fs.lookup k := by
  have unique' : (es.map (·.1)).Nodup := (perm.map _).nodup_iff.mpr unique
  refine Option.ext fun v => ?_
  exact (mem_iff_lookup unique' (e := (k, v))).symm.trans
    (perm.mem_iff.trans (mem_iff_lookup unique))

theorem nodup_keys (h : Ascending m) : (m.map (·.1)).Nodup := by
  refine h.imp ?_
  rintro k _ below rfl
  exact List.lt_irrefl k below

theorem mem_iff_get? (h : Ascending m) {e : Text × α} : e ∈ m ↔ get? m e.1 = some e.2 :=
  mem_iff_lookup (nodup_keys h)

theorem eq_of_get? (hm : Ascending m) (hn : Ascending n) (same : ∀ k, get? m k = get? n k) :
    m = n := by
  have perm : m.Perm n := by
    refine (List.perm_ext_iff_of_nodup (nodup_keys hm).of_map (nodup_keys hn).of_map).mpr fun e => ?_
    rw [mem_iff_get? hm, mem_iff_get? hn, same]
  refine perm.eq_of_pairwise ?_ (List.pairwise_map.mp hm) (List.pairwise_map.mp hn)
  intro e f _ _ below above
  exact absurd above (List.lt_asymm below)

theorem get?_insertAll_insertAll (m : TextMap α) (es : List (Text × α)) (k : Text) :
    get? (insertAll (insertAll m es) es) k = get? (insertAll m es) k := by
  rw [get?_insertAll, get?_insertAll]
  cases es.reverse.lookup k <;> rfl

/-- Of two maps, one inserted into the other, the one that is inserted comes first. -/
theorem get?_insertAll_map (h : Ascending n) (m : TextMap α) (k : Text) :
    get? (insertAll m n) k = (get? n k).or (get? m k) := by
  rw [get?_insertAll, lookup_perm (List.reverse_perm n) (nodup_keys h)]
  rfl

theorem ascending_ofList (es : List (Text × α)) : Ascending (ofList es) := by
  have empty : Ascending ([] : TextMap α) := List.Pairwise.nil
  exact ascending_insertAll empty es

theorem get?_ofList (es : List (Text × α)) (k : Text) : get? (ofList es) k = es.reverse.lookup k := by
  rw [ofList, get?_insertAll]
  exact Option.or_none

theorem ofList_append (es fs : List (Text × α)) :
    ofList (es ++ fs) = insertAll (ofList es) (ofList fs) := by
  refine eq_of_get? (ascending_ofList _) (ascending_insertAll (ascending_ofList es) _) fun k => ?_
  rw [get?_insertAll_map (ascending_ofList fs), get?_ofList, get?_ofList, get?_ofList,
    List.reverse_append, List.lookup_append]

/-- A map is that of its entries in any order. -/
theorem ofList_perm {es : List (Text × α)} (h : Ascending m) (perm : es.Perm m) : ofList es = m := by
  refine eq_of_get? (ascending_ofList es) h fun k => ?_
  rw [get?_ofList]
  exact lookup_perm ((List.reverse_perm es).trans perm) (nodup_keys h) k

end TextMap
end LocaleLint
