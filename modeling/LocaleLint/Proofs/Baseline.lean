import LocaleLint.Baseline
import Mathlib

/-!
# Order and content of the baseline

Groups and keys keep the order in which they were first seen and none stands twice. The count that
an entry has is that of its value.
-/

namespace LocaleLint.Baseline

/-- Names in the order in which they were first seen, after one more has been seen. -/
def noteName (names : List Text) (name : Text) : List Text :=
  if names.contains name then names else names ++ [name]

theorem nodup_noteName {names : List Text} (h : names.Nodup) (name : Text) :
    (noteName names name).Nodup := by
  unfold noteName
  split
  · exact h
  · next fresh =>
    rw [List.nodup_append]
    refine ⟨h, List.nodup_singleton _, ?_⟩
    rintro a old b new rfl
    exact fresh (List.contains_iff_mem.mpr (List.mem_singleton.mp new ▸ old))

theorem noteName_known {names : List Text} {name : Text} (h : name ∈ names) :
    noteName names name = names :=
  if_pos (List.contains_iff_mem.mpr h)

theorem mem_noteName {names : List Text} {a name : Text} :
    a ∈ noteName names name ↔ a ∈ names ∨ a = name := by
  by_cases known : name ∈ names
  · rw [noteName_known known]
    exact ⟨Or.inl, fun h => h.elim id fun same => same ▸ known⟩
  · simp [noteName, known]

theorem noteName_cons {a name : Text} (h : a ≠ name) (names : List Text) :
    noteName (a :: names) name = a :: noteName names name := by
  unfold noteName
  by_cases old : name ∈ names <;> simp [old, Ne.symm h]

/-! ### Groups and keys after a change -/

theorem map_fst_groupInsert (key : Text) (entry : Entry) (g : Group) :
    (Group.insert key entry g).map (·.1) = noteName (g.map (·.1)) key := by
  induction g with
  | nil => rfl
  | cons e es ih =>
    unfold Group.insert
    by_cases same : e.1 = key
    · simp [same, noteName]
    · rw [if_neg same, List.map_cons, List.map_cons, ih, noteName_cons same]

theorem map_fst_modifyGroup (name : Text) (f : Group → Group) (gs : List (Text × Group)) :
    (modifyGroup name f gs).map (·.1) = noteName (gs.map (·.1)) name := by
  induction gs with
  | nil => rfl
  | cons g gs ih =>
    unfold modifyGroup
    by_cases same : g.1 = name
    · simp [same, noteName]
    · rw [if_neg same, List.map_cons, List.map_cons, ih, noteName_cons same]

variable (b : Baseline) (name key : Text) (entry : Entry)

theorem groups_addGroup : (b.addGroup name).groups = noteName b.groups name :=
  map_fst_modifyGroup _ _ _

theorem groups_insert : (b.insert name key entry).groups = noteName b.groups name :=
  map_fst_modifyGroup _ _ _

theorem keys_addGroup (other : Text) : (b.addGroup name).keys other = b.keys other := by
  unfold keys
  rw [group?_addGroup]
  split
  · next same => rw [same, Option.getD_some]
  · rfl

theorem keys_insert (other : Text) :
    (b.insert name key entry).keys other =
      if other = name then noteName (b.keys name) key else b.keys other := by
  unfold keys group? insert
  rw [lookup_modifyGroup]
  split
  · exact map_fst_groupInsert _ _ _
  · rfl

theorem get?_addGroup (other key : Text) :
    (b.addGroup name).get? other key = b.get? other key := by
  unfold get?
  rw [group?_addGroup]
  split
  · next same =>
    subst same
    cases b.group? other <;> rfl
  · rfl

/-! ### What is known -/

theorem isSome_lookup_iff {α : Type} {a : Text} {es : List (Text × α)} :
    (es.lookup a).isSome = true ↔ a ∈ es.map (·.1) := by
  induction es with
  | nil => simp
  | cons e es ih => by_cases h : a = e.1 <;> simp [lookup_cons_eq_ite, h, ← ih]

variable {b name key}

theorem hasGroup_iff : b.hasGroup name = true ↔ name ∈ b.groups :=
  isSome_lookup_iff

theorem mem_keys_iff : key ∈ b.keys name ↔ (b.get? name key).isSome = true := by
  unfold keys get?
  cases b.group? name with
  | none => simp
  | some g => exact isSome_lookup_iff.symm

/-! ### Soundness -/

structure Sound (b : Baseline) : Prop where
  groups : b.groups.Nodup
  keys : ∀ name, (b.keys name).Nodup
  named : ∀ name key, key ∈ b.keys name → key ≠ []
  counted : ∀ name key entry, b.get? name key = some entry → entry = .ofValue entry.value

theorem sound_empty : ({} : Baseline).Sound where
  groups := List.nodup_nil
  keys _ := List.nodup_nil
  named _ _ member := nomatch member
  counted _ _ _ found := nomatch found

theorem sound_addGroup (sound : b.Sound) (name : Text) : (b.addGroup name).Sound where
  groups := by
    rw [groups_addGroup]
    exact nodup_noteName sound.groups name
  keys other := by
    rw [keys_addGroup]
    exact sound.keys other
  named other key := by
    rw [keys_addGroup]
    exact sound.named other key
  counted other key entry := by
    rw [get?_addGroup]
    exact sound.counted other key entry

theorem sound_insert (sound : b.Sound) (name value : Text) (key_ne : key ≠ []) :
    (b.insert name key (.ofValue value)).Sound where
  groups := by
    rw [groups_insert]
    exact nodup_noteName sound.groups name
  keys other := by
    rw [keys_insert]
    split
    · exact nodup_noteName (sound.keys name) key
    · exact sound.keys other
  named other k member := by
    rw [mem_keys_iff, get?_insert] at member
    split at member
    · next same =>
      rw [same.2]
      exact key_ne
    · exact sound.named other k (mem_keys_iff.mpr member)
  counted other k entry found := by
    rw [get?_insert] at found
    split at found
    · cases found
      rfl
    · exact sound.counted other k entry found

end LocaleLint.Baseline
