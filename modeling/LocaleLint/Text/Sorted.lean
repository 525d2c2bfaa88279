import LocaleLint.Lookup
import LocaleLint.Text.Basic

/-!
# Sorted texts

Sets of texts and maps from texts, kept in ascending code point order without repetition, so that
two sets or maps with the same members are the same list.
-/

namespace LocaleLint

/-- Texts in ascending order, each once. -/
abbrev TextSet := List Text

/-- Entries in ascending order of their keys, one for each key. -/
abbrev TextMap (α : Type) := List (Text × α)

namespace TextSet

def insert (t : Text) : TextSet → TextSet
  | [] => [t]
  | u :: us => if t = u then u :: us else if t < u then t :: u :: us else u :: insert t us

def ofList (ts : List Text) : TextSet := ts.foldl (fun s t => insert t s) []

theorem mem_insert {a t : Text} {s : TextSet} : a ∈ insert t s ↔ a = t ∨ a ∈ s := by
  induction s with
  | nil => simp [insert]
  | cons u us ih =>
    unfold insert
    split
    · next h => subst h; simp
    · split
      · simp
      · rw [List.mem_cons, ih, List.mem_cons]
        exact or_left_comm

theorem mem_foldl_insert {a : Text} {ts : List Text} {s : TextSet} :
    a ∈ ts.foldl (fun s t => insert t s) s ↔ a ∈ ts ∨ a ∈ s := by
  induction ts generalizing s with
  | nil => simp
  | cons t ts ih => rw [List.foldl_cons, ih, mem_insert, List.mem_cons, or_left_comm, or_assoc]

theorem mem_ofList {a : Text} {ts : List Text} : a ∈ ofList ts ↔ a ∈ ts := by
  simp [ofList, mem_foldl_insert]

end TextSet

namespace TextMap

def insert {α : Type} (k : Text) (v : α) : TextMap α → TextMap α
  | [] => [(k, v)]
  | e :: es =>
    if k = e.1 then (k, v) :: es else if k < e.1 then (k, v) :: e :: es else e :: insert k v es

def get? {α : Type} (m : TextMap α) (k : Text) : Option α := m.lookup k

/-- Entries inserted in turn, so that of two values for one key the later one stays. -/
def insertAll {α : Type} (m : TextMap α) (es : List (Text × α)) : TextMap α :=
  es.foldl (fun m e => insert e.1 e.2 m) m

def ofList {α : Type} (es : List (Text × α)) : TextMap α := insertAll [] es

theorem get?_insert {α : Type} (k l : Text) (v : α) (m : TextMap α) :
    get? (insert k v m) l = if l = k then some v else get? m l := by
  unfold get?
  induction m with
  | nil => simp [insert, lookup_cons_eq_ite]
  | cons e es ih =>
    unfold insert
    split
    · next h => subst h; by_cases h : l = e.1 <;> simp [lookup_cons_eq_ite, h]
    · next hk =>
      split
      · simp [lookup_cons_eq_ite]
      · by_cases h : l = e.1
        · simp [lookup_cons_eq_ite, h, Ne.symm hk]
        · simp [lookup_cons_eq_ite, h, ih]

end TextMap
end LocaleLint
