import LocaleLint.Proofs.Baseline
import LocaleLint.Text.Sorted

/-!
# The baseline as an index

The baseline with its strings in maps and the order of groups and keys in lists beside them. Map and
list are changed one after the other and never get out of step, and the index shows the same groups,
keys and entries in the same order.
-/

namespace LocaleLint

/-- Values that are found by name in a map, and the names in the order in which they came. -/
structure Register (α : Type) where
  found : TextMap α := []
  order : List Text := []

namespace Register

variable {α : Type}

def get? (r : Register α) (name : Text) : Option α := TextMap.get? r.found name

def set (r : Register α) (name : Text) (a : α) : Register α where
  found := TextMap.insert name a r.found
  order := if (r.get? name).isSome then r.order else r.order ++ [name]

structure InStep (r : Register α) : Prop where
  once : r.order.Nodup
  listed : ∀ name, name ∈ r.order ↔ (r.get? name).isSome = true

theorem inStep_empty : ({} : Register α).InStep where
  once := List.nodup_nil
  listed _ := by simp [get?, TextMap.get?]

variable {r : Register α}

theorem get?_set (r : Register α) (name other : Text) (a : α) :
    (r.set name a).get? other = if other = name then some a else r.get? other :=
  TextMap.get?_insert name other a r.found

theorem order_set (inStep : r.InStep) (name : Text) (a : α) :
    (r.set name a).order = Baseline.noteName r.order name := by
  unfold set Baseline.noteName
  dsimp only
  by_cases old : name ∈ r.order
  · rw [if_pos ((inStep.listed name).mp old), if_pos (List.contains_iff_mem.mpr old)]
  · rw [if_neg (mt (inStep.listed name).mpr old), if_neg (mt List.contains_iff_mem.mp old)]

theorem inStep_set (inStep : r.InStep) (name : Text) (a : α) : (r.set name a).InStep where
  once := by
    rw [order_set inStep]
    exact Baseline.nodup_noteName inStep.once name
  listed other := by
    rw [order_set inStep, Baseline.mem_noteName, get?_set, inStep.listed]
    by_cases same : other = name <;> simp [same]

end Register

namespace Baseline

abbrev Index := Register (Register Entry)

namespace Index

def addGroup (i : Index) (name : Text) : Index :=
  if (i.get? name).isSome then i else i.set name {}

def insert (i : Index) (name key : Text) (entry : Entry) : Index :=
  let i := i.addGroup name
  match i.get? name with
  | none => i
  | some g => i.set name (g.set key entry)

/-- Whether an index is in step at both levels and shows what a baseline holds. -/
structure Shows (i : Index) (b : Baseline) : Prop where
  inStep : i.InStep
  groups : i.order = b.groups
  group : ∀ name g, i.get? name = some g →
    g.InStep ∧ g.order = b.keys name ∧ ∀ key, g.get? key = b.get? name key

variable {i : Index} {b : Baseline} {name : Text}

theorem shows_empty : Shows {} {} where
  inStep := Register.inStep_empty
  groups := rfl
  group _ _ found := nomatch found

theorem Shows.known_iff (shows : i.Shows b) : (i.get? name).isSome = true ↔ name ∈ b.groups := by
  rw [← shows.inStep.listed, shows.groups]

theorem shows_addGroup (shows : i.Shows b) (name : Text) :
    (i.addGroup name).Shows (b.addGroup name) := by
  unfold addGroup
  split
  · next known =>
    refine ⟨shows.inStep, ?_, fun other g found => ?_⟩
    · rw [groups_addGroup, noteName_known (shows.known_iff.mp known), shows.groups]
    · simpa only [keys_addGroup, get?_addGroup] using shows.group other g found
  · next fresh =>
    have unknown : b.group? name = none := by
      simpa [hasGroup] using mt hasGroup_iff.mp (mt shows.known_iff.mpr fresh)
    refine ⟨Register.inStep_set shows.inStep name {}, ?_, fun other g found => ?_⟩
    · rw [Register.order_set shows.inStep, groups_addGroup, shows.groups]
    · simp only [keys_addGroup, get?_addGroup]
      rw [Register.get?_set] at found
      split at found
      · next same =>
        cases found
        refine ⟨Register.inStep_empty, ?_, fun key => ?_⟩
        · rw [same, keys, unknown]
          rfl
        · rw [same, get?, unknown]
          rfl
      · exact shows.group other g found

theorem shows_set (shows : i.Shows b) {g : Register Entry} (found : i.get? name = some g)
    (key : Text) (entry : Entry) :
    Shows (i.set name (g.set key entry)) (b.insert name key entry) := by
  obtain ⟨inStep, order, entries⟩ := shows.group name g found
  refine ⟨Register.inStep_set shows.inStep name _, ?_, fun other h inside => ?_⟩
  · rw [Register.order_set shows.inStep, groups_insert, shows.groups]
  · rw [Register.get?_set] at inside
    simp only [keys_insert, get?_insert]
    split at inside
    · next same =>
      cases inside
      subst same
      refine ⟨Register.inStep_set inStep key entry, ?_, fun k => ?_⟩
      · rw [Register.order_set inStep, order, if_pos rfl]
      · rw [Register.get?_set, entries]
        simp
    · next different =>
      simpa [different] using shows.group other h inside

theorem modifyGroup_modifyGroup (name : Text) (f g : Group → Group) (gs : List (Text × Group)) :
    modifyGroup name g (modifyGroup name f gs) = modifyGroup name (g ∘ f) gs := by
  induction gs with
  | nil => simp [modifyGroup]
  | cons x xs ih =>
    by_cases same : x.1 = name
    · simp [modifyGroup, same]
    · simp [modifyGroup, same, ih]

theorem shows_insert (shows : i.Shows b) (name key : Text) (entry : Entry) :
    (i.insert name key entry).Shows (b.insert name key entry) := by
  have added := shows_addGroup shows name
  -- The group has just become known, so it is there to be changed.
  have known : ((i.addGroup name).get? name).isSome = true := by
    rw [added.known_iff, groups_addGroup, mem_noteName]
    exact Or.inr rfl
  obtain ⟨g, found⟩ := Option.isSome_iff_exists.mp known
  have same : (b.addGroup name).insert name key entry = b.insert name key entry :=
    congrArg Baseline.mk (modifyGroup_modifyGroup name id _ b.entries)
  rw [← same, insert, found]
  exact shows_set added found key entry

end Index
end Baseline
end LocaleLint
