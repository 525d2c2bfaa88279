import LocaleLint.Config.File
import LocaleLint.Proofs.Disk.Trail

/-!
# Which configuration file is found

The search goes through the parents of a path, which are a matter of text, and looks into the
directories that these lead to. They are the directories on the way of the path: all directories
above the one that it names, if the path is absolute and has no `..`, and else only those that the
path itself goes through.
-/

namespace LocaleLint.Config

def boundary : Text := ".git".toList

def holds (d : Disk) (name : Text) (l : Location) : Bool := (d.node? (name :: l)).isSome

/-- The first of the directories that has a configuration file, if none before it is the last one
to be looked at. -/
def nearest? (d : Disk) (dirs : List Location) : Option Location :=
  (dirs.find? fun l => holds d fileName l || holds d boundary l).filter (holds d fileName)

def Shows (d : Disk) (p : Path) (l : Location) : Prop :=
  ∀ name ∈ [fileName, boundary], d.resolve (p.join ⟨name⟩) =
    if holds d name l then .ok (name :: l) else .error .notFound

variable {d : Disk} {l o : Location} {p start : Path}

theorem nearest?_cons (d : Disk) (l : Location) (dirs : List Location) :
    nearest? d (l :: dirs) =
      if holds d fileName l then some l
      else if holds d boundary l then none
      else nearest? d dirs := by
  unfold nearest?
  rw [List.find?_cons]
  cases config : holds d fileName l <;> cases last : holds d boundary l <;>
    simp [Option.filter, config]

/-- Looking at a directory again makes no difference. -/
theorem nearest?_again (d : Disk) (l : Location) (dirs : List Location) :
    nearest? d (l :: l :: dirs) = nearest? d (l :: dirs) := by
  rw [nearest?_cons, nearest?_cons]
  split
  · rfl
  · split <;> rfl

/-! ### Looking into directories -/

theorem exists?_of_shows (h : Shows d p l) (name : Text) (looked : name ∈ [fileName, boundary]) :
    d.exists? (p.join ⟨name⟩) = holds d name l := by
  unfold Disk.exists? Disk.lookup?
  rw [h name looked]
  cases there : holds d name l with
  | false => rfl
  | true => exact there

theorem findAmong_eq {dirs : List Path} {ls : List Location} (h : List.Forall₂ (Shows d) dirs ls) :
    (findAmong d dirs).map d.resolve = (nearest? d ls).map fun l => .ok (fileName :: l) := by
  induction h with
  | nil => rfl
  | @cons dir l dirs ls first _ ih =>
    have config := exists?_of_shows first fileName (by simp)
    have last := exists?_of_shows first boundary (by simp)
    have git : d.exists? (dir.join (.ofString ".git")) = holds d boundary l := last
    have at_file := first fileName (by simp)
    rw [findAmong, fileIn, config, git, nearest?_cons]
    cases here : holds d fileName l with
    | true =>
      rw [if_pos here] at at_file
      simp only [if_true, Option.map_some, at_file]
    | false =>
      cases holds d boundary l with
      | true => rfl
      | false => exact ih

theorem isEntry_of_looked {name : Text} (looked : name ∈ [fileName, boundary]) :
    Disk.IsEntry name ∧ Disk.byteLength name ≤ Disk.byteLength fileName := by
  rcases List.mem_pair.mp looked with rfl | rfl
  · exact ⟨⟨by decide, by decide, by decide, by decide⟩, Nat.le_refl _⟩
  · exact ⟨⟨by decide, by decide, by decide, by decide⟩, by decide⟩

/-- In the directories of a path and of its parents entries are found, if the path of the
configuration file of the first is not too long. -/
theorem shows_of_reached (sane : Disk.fault? start = none)
    (fits : Disk.byteLength (fileIn start).text ≤ Disk.pathLimit) (shorter : p.text <+: start.text)
    (reached : d.walk (d.origin p) p.parts = .ok l) (directory : d.node? l = some .directory) :
    Shows d p l := by
  intro name looked
  obtain ⟨entry, le⟩ := isEntry_of_looked looked
  exact Disk.resolve_join directory reached entry
    (Disk.fault?_join shorter sane entry (by decide) le fits)

/-! ### Parents of a path -/

theorem counts_of_moves {rooted : Bool} {part : Text} {before : List Text}
    (moves : part = ['.', '.'] ∨ Disk.isName part) : Path.counts rooted part before = true := by
  rcases moves with rfl | named
  · rfl
  · simp only [Disk.isName, Bool.and_eq_true, decide_eq_true_eq] at named
    simp [Path.counts, named.1.1, named.1.2]

theorem here_trimParts (o : Location) (rooted : Bool) (parts : List Text) :
    Disk.here o (Path.trimParts rooted parts) = Disk.here o parts := by
  induction parts with
  | nil => rfl
  | cons part before ih =>
    unfold Path.trimParts
    split
    · rfl
    · next skipped =>
      rw [ih, Disk.here_cons, Disk.follow_still fun moves => skipped (counts_of_moves moves)]

theorem nearest?_parents (d : Disk) (o : Location) (rooted : Bool) (parts : List Text) :
    nearest? d (Disk.here o parts :: (Path.parentParts rooted parts).map (Disk.here o)) =
      nearest? d (Disk.trail o parts) := by
  induction parts with
  | nil => rfl
  | cons part before ih =>
    by_cases moves : part = ['.', '.'] ∨ Disk.isName part
    · rw [Path.parentParts, if_pos (counts_of_moves moves), List.map_cons, here_trimParts,
        Disk.trail, if_pos moves, nearest?_cons, nearest?_cons d _ (Disk.trail o before), ih]
    · rw [Disk.trail, if_neg moves, Disk.here_cons, Disk.follow_still moves, Path.parentParts]
      -- A leading `.` is a component, so its parent is the same directory once more.
      split
      · rw [List.map_cons, here_trimParts, nearest?_again, ih]
      · exact ih

theorem shows_parent (sane : Disk.fault? start = none)
    (fits : Disk.byteLength (fileIn start).text ≤ Disk.pathLimit)
    (reached : d.walk (d.origin start) start.parts = .ok l)
    (directory : d.node? l = some .directory) {parts : List Text}
    (parent : parts <:+ start.parts.reverse) :
    Shows d (Path.ofParts start.isRooted parts) (Disk.here (d.origin start) parts) := by
  obtain ⟨rest, whole⟩ := parent
  have split : start.parts = parts.reverse ++ rest.reverse := by
    rw [← List.reverse_append, whole, List.reverse_reverse]
  obtain ⟨k, at_k, inside⟩ := Disk.directory_on_way (split ▸ reached) directory
  obtain rfl := Disk.here_of_walk at_k
  have parent : parts <:+ start.parts.reverse := ⟨rest, whole⟩
  refine shows_of_reached sane fits (Path.text_parent parent) ?_ inside
  rw [Disk.origin, Path.isRooted_parent parent, ← Disk.origin, Path.parts_parent parent]
  split
  · next none =>
    rw [none] at inside ⊢
    exact Disk.walk_nil inside
  · exact at_k

/-- The search from the path of a directory. -/
theorem find?_eq (reached : d.resolve start = .ok l) (directory : d.node? l = some .directory)
    (fits : Disk.byteLength (fileIn start).text ≤ Disk.pathLimit) :
    l = Disk.here (d.origin start) start.parts.reverse ∧
      (find? d start).map d.resolve =
        (nearest? d (Disk.trail (d.origin start) start.parts.reverse)).map
          fun k => .ok (fileName :: k) := by
  obtain ⟨sane, walked⟩ := Disk.walk_of_resolve reached
  have at_end : l = Disk.here (d.origin start) start.parts.reverse :=
    Disk.here_of_walk (by rwa [List.reverse_reverse])
  refine ⟨at_end, ?_⟩
  have first : Shows d start l := shows_of_reached sane fits List.prefix_rfl walked directory
  have parents : List.Forall₂ (Shows d)
      ((Path.parentParts start.isRooted start.parts.reverse).map (Path.ofParts start.isRooted))
      ((Path.parentParts start.isRooted start.parts.reverse).map (Disk.here (d.origin start))) := by
    rw [List.forall₂_map_left_iff, List.forall₂_map_right_iff, List.forall₂_same]
    exact fun parts inside =>
      shows_parent sane fits walked directory (Path.suffix_of_mem_parentParts inside)
  rw [find?, Path.ancestors, findAmong_eq (.cons first parents), at_end, nearest?_parents]

/-- The configuration file that is found from the path of a directory is the nearest one on the way
of the path, which begins with the directory. Without `..` this way is up to the root if the path is
absolute, and up to the working directory if it is not. -/
theorem find?_nearest (directory : d.isDirectory start = true)
    (fits : Disk.byteLength (fileIn start).text ≤ Disk.pathLimit) :
    let way := Disk.trail (d.origin start) start.parts.reverse
    ∃ l, d.resolve start = .ok l ∧ way.head? = some l ∧
      (find? d start).map d.resolve = (nearest? d way).map (fun k => .ok (fileName :: k)) ∧
      (['.', '.'] ∉ start.parts →
        way = l.tails.filter (fun k => (d.origin start).isSuffixOf k) ∧
          (start.isRooted = true → way = l.tails)) := by
  intro way
  obtain ⟨l, reached, inside⟩ := Disk.resolve_of_isDirectory directory
  obtain ⟨at_end, found⟩ := find?_eq reached inside fits
  refine ⟨l, reached, at_end ▸ Disk.head?_trail _ _, found, fun plain => ?_⟩
  have descending : ['.', '.'] ∉ start.parts.reverse := by rwa [List.mem_reverse]
  have outer : way = l.tails.filter fun k => (d.origin start).isSuffixOf k :=
    at_end ▸ (Disk.trail_descending descending).2
  refine ⟨outer, fun rooted => ?_⟩
  have origin : d.origin start = [] := by rw [Disk.origin, if_pos rooted]
  rw [outer, origin]
  exact List.filter_eq_self.mpr fun k _ => List.isSuffixOf_iff_suffix.mpr List.nil_suffix

theorem find?_nearest_above :
    let d : Disk := { nodes := [
      ([".git".toList], .directory), (["mods".toList], .directory),
      (["a".toList, "mods".toList], .directory), ([fileName, "mods".toList], .file [])] }
    let start := Path.ofString "/mods//a/."
    d.isDirectory start = true ∧ Disk.byteLength (fileIn start).text ≤ Disk.pathLimit ∧
      d.resolve start = .ok ["a".toList, "mods".toList] ∧
      (find? d start).map d.resolve = some (.ok [fileName, "mods".toList]) := by
  intro d start
  have directory : d.isDirectory start = true := by decide +kernel
  have fits : Disk.byteLength (fileIn start).text ≤ Disk.pathLimit := by decide +kernel
  obtain ⟨l, reached, -, found, plain⟩ := find?_nearest directory fits
  have at_l : d.resolve start = .ok ["a".toList, "mods".toList] := by decide +kernel
  obtain rfl : l = ["a".toList, "mods".toList] := by simpa [at_l, eq_comm] using reached
  refine ⟨directory, fits, at_l, ?_⟩
  rw [found, (plain (by decide +kernel)).2 (by decide +kernel)]
  decide +kernel

/-- With `..` a directory is looked into that is not above the one named, and from a path that is
not absolute no directory above the working directory is. -/
theorem find?_by_spelling :
    let aside : Disk := { nodes := [
      (["a".toList], .directory), ([fileName, "a".toList], .file [])] }
    let above : Disk := { nodes := [
      (["a".toList], .directory), ([fileName], .file [])], cwd := ["a".toList] }
    aside.resolve (.ofString "a/..") = .ok [] ∧
      aside.isDirectory (.ofString "a/..") = true ∧
      nearest? aside (List.tails []) = none ∧
      find? aside (.ofString "a/..") = some (.ofString "a/.transcheckrc.json") ∧
      above.resolve (.ofString ".") = .ok ["a".toList] ∧
      above.isDirectory (.ofString ".") = true ∧
      nearest? above (List.tails ["a".toList]) = some [] ∧
      find? above (.ofString ".") = none := by
  decide +kernel

end LocaleLint.Config
