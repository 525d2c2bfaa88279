import LocaleLint.Lookup
import LocaleLint.Placeholder

/-!
# Baseline

The strings of the base locale, by group and key. Groups and keys stand in the order in which they
were first seen, each once.
-/

namespace LocaleLint

namespace Baseline

structure Entry where
  value : Text
  placeholders : Nat
  deriving DecidableEq, Repr

def Entry.ofValue (value : Text) : Entry := ⟨value, Placeholder.count value⟩

abbrev Group := List (Text × Entry)

/-- Sets the entry of a key. A key already there keeps its place and gets the new entry. -/
def Group.insert (key : Text) (entry : Entry) : Group → Group
  | [] => [(key, entry)]
  | e :: es => if e.1 = key then (key, entry) :: es else e :: Group.insert key entry es

end Baseline

structure Baseline where
  entries : List (Text × Baseline.Group) := []
  deriving DecidableEq, Repr

namespace Baseline

/-- Changes the strings of a group, which is added at the end when it is new. -/
def modifyGroup (name : Text) (f : Group → Group) : List (Text × Group) → List (Text × Group)
  | [] => [(name, f [])]
  | g :: gs => if g.1 = name then (name, f g.2) :: gs else g :: modifyGroup name f gs

def group? (b : Baseline) (name : Text) : Option Group := b.entries.lookup name

def hasGroup (b : Baseline) (name : Text) : Bool := (b.group? name).isSome

def groups (b : Baseline) : List Text := b.entries.map (·.1)

def keys (b : Baseline) (name : Text) : List Text := ((b.group? name).getD []).map (·.1)

def get? (b : Baseline) (name key : Text) : Option Entry :=
  (b.group? name).bind fun g => g.lookup key

def addGroup (b : Baseline) (name : Text) : Baseline := ⟨modifyGroup name id b.entries⟩

def insert (b : Baseline) (name key : Text) (entry : Entry) : Baseline :=
  ⟨modifyGroup name (Group.insert key entry) b.entries⟩

/-! ### What the operations do to the view -/

theorem lookup_modifyGroup (name other : Text) (f : Group → Group) (gs : List (Text × Group)) :
    (modifyGroup name f gs).lookup other =
      if other = name then some (f ((gs.lookup name).getD [])) else gs.lookup other := by
  induction gs with
  | nil => simp [modifyGroup, lookup_cons_eq_ite]
  | cons g gs ih =>
    unfold modifyGroup
    split
    · next h => subst h; by_cases h : other = g.1 <;> simp [lookup_cons_eq_ite, h]
    · next hg =>
      by_cases h : other = g.1
      · simp [lookup_cons_eq_ite, h, hg]
      · simp [lookup_cons_eq_ite, h, ih, Ne.symm hg]

theorem lookup_insert (key other : Text) (entry : Entry) (g : Group) :
    (Group.insert key entry g).lookup other =
      if other = key then some entry else g.lookup other := by
  induction g with
  | nil => simp [Group.insert, lookup_cons_eq_ite]
  | cons e es ih =>
    unfold Group.insert
    split
    · next h => subst h; by_cases h : other = e.1 <;> simp [lookup_cons_eq_ite, h]
    · next he =>
      by_cases h : other = e.1
      · simp [lookup_cons_eq_ite, h, he]
      · simp [lookup_cons_eq_ite, h, ih]

theorem group?_addGroup (b : Baseline) (name other : Text) :
    (b.addGroup name).group? other =
      if other = name then some ((b.group? name).getD []) else b.group? other := by
  simp [addGroup, group?, lookup_modifyGroup]

theorem get?_insert (b : Baseline) (name key : Text) (entry : Entry) (name' key' : Text) :
    (b.insert name key entry).get? name' key' =
      if name' = name ∧ key' = key then some entry else b.get? name' key' := by
  unfold get? group? insert
  rw [lookup_modifyGroup]
  by_cases h : name' = name
  · subst h
    cases hg : b.entries.lookup name' <;> by_cases hk : key' = key <;>
      simp [lookup_insert, hk]
  · simp [h]

end Baseline
end LocaleLint
