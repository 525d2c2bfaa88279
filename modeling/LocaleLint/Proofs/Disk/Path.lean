import LocaleLint.Disk.Basic
import LocaleLint.Proofs.Text.Scan

namespace LocaleLint

namespace Path

/-- A name that is its own stem: it has no slash, and no dot but one in front of the rest. -/
structure IsStem (name : Text) : Prop where
  named : name ≠ []
  notDot : name ≠ ['.']
  noSlash : '/' ∉ name
  noDot : '.' ∉ name.tail

variable {name : Text}

theorem parts_slash (front : Text) (noSlash : '/' ∉ name) :
    (Path.mk (front ++ '/' :: name)).parts =
      (if front = [] then [] else (Path.mk front).parts) ++ [name] := by
  have split : (front ++ '/' :: name).splitOn '/' = front.splitOn '/' ++ [name] := by
    rw [List.splitOn_append_cons_self, List.splitOn_eq_singleton noSlash]
  unfold parts
  dsimp only
  rw [split]
  cases front with
  | nil => rfl
  | cons c r =>
    have same : isRooted ⟨c :: r ++ '/' :: name⟩ = isRooted ⟨c :: r⟩ := rfl
    rw [same, if_neg (List.cons_ne_nil c r)]
    split
    · rw [List.tail_append_of_ne_nil (List.splitOn_ne_nil _ _)]
    · rfl

theorem not_isRooted (noSlash : '/' ∉ name) : isRooted ⟨name⟩ = false := by
  cases name with
  | nil => rfl
  | cons c r => simpa [isRooted, eq_comm] using fun h : c = '/' => noSlash (by simp [h])

theorem text_join_eq (p : Path) (noSlash : '/' ∉ name) :
    (p.join ⟨name⟩).text =
      p.text ++ (if p.text.isEmpty || p.text.getLast? = some '/' then [] else ['/']) ++ name := by
  unfold join
  rw [not_isRooted noSlash]
  simp only [Bool.false_eq_true, if_false]
  split <;> simp

theorem text_join (p : Path) (noSlash : '/' ∉ name) : p.text <+: (p.join ⟨name⟩).text := by
  rw [text_join_eq p noSlash, List.append_assoc]
  exact List.prefix_append _ _

theorem isRooted_congr {p q : Path} (named : q.text ≠ []) (h : q.text <+: p.text) :
    q.isRooted = p.isRooted := by
  obtain ⟨rest, whole⟩ := h
  rw [isRooted, isRooted, ← whole, List.head?_append_of_ne_nil _ named]

theorem isRooted_join {p : Path} (named : p.text ≠ []) (noSlash : '/' ∉ name) :
    (p.join ⟨name⟩).isRooted = p.isRooted :=
  (isRooted_congr named (text_join p noSlash)).symm

/-- A name that is joined to a path is its last part. The parts above are those of the path, but for
an empty one behind a slash at its end. -/
theorem parts_join (p : Path) (noSlash : '/' ∉ name) :
    ∃ above, (p.join ⟨name⟩).parts = above ++ [name] ∧
      (p.text ≠ [] → p.parts = above ∨ p.parts = above ++ [[]]) := by
  have unrooted := not_isRooted noSlash
  unfold join
  rw [unrooted]
  simp only [Bool.false_eq_true, if_false]
  split
  · next ends =>
    rcases Bool.or_eq_true_iff.mp ends with empty | slash
    · have nothing := List.isEmpty_iff.mp empty
      refine ⟨[], ?_, fun some => absurd nothing some⟩
      rw [nothing, List.nil_append, parts, unrooted]
      exact List.splitOn_eq_singleton noSlash
    · obtain ⟨front, whole⟩ := List.getLast?_eq_some_iff.mp (of_decide_eq_true slash)
      have self : p = ⟨front ++ ['/']⟩ := by
        obtain ⟨text⟩ := p
        exact congrArg Path.mk whole
      rw [whole, List.append_assoc]
      refine ⟨_, parts_slash front noSlash, fun _ => Or.inr ?_⟩
      rw [self, parts_slash front List.not_mem_nil]
  · next ends =>
    have named : p.text ≠ [] := fun nothing => ends (by simp [nothing])
    refine ⟨_, parts_slash p.text noSlash, fun _ => Or.inl ?_⟩
    rw [if_neg named]

theorem splitName_fst (h : IsStem name) : (splitName name).1 = name := by
  have cut : ∀ c r, Text.beforeLast? '.' name ≠ some (c :: r) := by
    intro c r found
    cases name with
    | nil => cases found
    | cons d rest =>
      have free : '.' ∉ rest := h.noDot
      by_cases dot : d = '.'
      · have front := Text.beforeLast?_append [] free
        rw [dot] at found
        cases front.symm.trans found
      · rw [Text.beforeLast?_of_not_mem (by simp [Ne.symm dot, free])] at found
        cases found
  unfold splitName
  split
  · next c r found => exact absurd found (cut c r)
  · rfl

theorem fileName?_join (p : Path) (named : Disk.isName name = true) (noSlash : '/' ∉ name) :
    (p.join ⟨name⟩).fileName? = some name := by
  obtain ⟨above, last, -⟩ := parts_join p noSlash
  obtain ⟨⟨notEmpty, notDot⟩, notParent⟩ : (name ≠ [] ∧ name ≠ ['.']) ∧ name ≠ ['.', '.'] := by
    simpa [Disk.isName] using named
  have counted : counts (p.join ⟨name⟩).isRooted name above.reverse = true := by
    simp [counts, notEmpty, notDot]
  unfold fileName?
  rw [last, List.reverse_append, List.reverse_singleton, List.singleton_append, trimParts,
    if_pos counted]
  simp [notDot, notParent]

theorem stem?_join (p : Path) (h : IsStem name) : (p.join ⟨name⟩).stem? = some name := by
  have notParent : name ≠ ['.', '.'] := fun same => h.noDot (by simp [same])
  have named : Disk.isName name = true := by simp [Disk.isName, h.named, h.notDot, notParent]
  rw [stem?, fileName?_join p named h.noSlash, Option.map_some, splitName_fst h]

/-! ### What a stem is made of -/

theorem not_mem_of_mem_parts {p : Path} {part : Text} (h : part ∈ p.parts) : '/' ∉ part := by
  unfold parts at h
  apply Text.not_mem_of_mem_splitOn (s := p.text)
  split at h
  · exact List.mem_of_mem_tail h
  · exact h

theorem mem_of_mem_trimParts {rooted : Bool} {ps : List Text} {part : Text}
    (h : part ∈ trimParts rooted ps) : part ∈ ps := by
  induction ps with
  | nil => exact h
  | cons first before ih =>
    unfold trimParts at h
    split at h
    · exact h
    · exact List.mem_cons_of_mem _ (ih h)

theorem mem_parts_of_fileName? {p : Path} (h : p.fileName? = some name) : name ∈ p.parts := by
  unfold fileName? at h
  split at h
  · next first before shape =>
    split at h
    · cases h
    · cases h
      have inside : name ∈ trimParts p.isRooted p.parts.reverse := by simp [shape]
      exact List.mem_reverse.mp (mem_of_mem_trimParts inside)
  · cases h

theorem prefix_of_splitName (name : Text) : (splitName name).1 <+: name := by
  unfold splitName
  split
  · next found => exact Text.prefix_of_beforeLast? found
  · exact List.prefix_rfl

theorem not_mem_of_stem? {p : Path} {stem : Text} (h : p.stem? = some stem) : '/' ∉ stem := by
  obtain ⟨name, last, rfl⟩ := Option.map_eq_some_iff.mp h
  intro slash
  exact not_mem_of_mem_parts (mem_parts_of_fileName? last) ((prefix_of_splitName name).subset slash)

end Path

namespace Disk

variable {d : Disk} {l : Location}

theorem mem_names_iff {name : Text} :
    name ∈ d.names l ↔ (d.node? (name :: l)).isSome = true := by
  have stored : d.node? (name :: l) = d.nodes.lookup (name :: l) := rfl
  rw [stored, List.lookup_isSome_iff, names, TextSet.mem_ofList, List.mem_filterMap]
  constructor
  · rintro ⟨⟨location, node⟩, member, found⟩
    refine ⟨_, member, ?_⟩
    split at found
    · next first above shape =>
      split at found
      · next here =>
        cases found
        simpa [here] using shape.symm
      · cases found
    · cases found
  · rintro ⟨⟨location, node⟩, member, same⟩
    obtain rfl : name :: l = location := by simpa using same
    exact ⟨_, member, by simp⟩

theorem exists?_of_isDirectory {p : Path} (h : d.isDirectory p = true) : d.exists? p = true := by
  rw [exists?, of_decide_eq_true h]
  rfl

theorem resolve_of_isDirectory {p : Path} (h : d.isDirectory p = true) :
    ∃ l, d.resolve p = .ok l ∧ d.node? l = some .directory := by
  have found : d.lookup? p = some .directory := of_decide_eq_true h
  unfold lookup? at found
  split at found
  · next l at_l => exact ⟨l, at_l, found⟩
  · cases found

/-- Whether it can be seen what a directory holds. -/
def isListable (d : Disk) (p : Path) : Bool := (d.list p).isOk

theorem list_of_isListable {p : Path} (h : d.isDirectory p = true) (at_l : d.resolve p = .ok l)
    (open_to_view : d.isListable p = true) :
    d.list p = .ok ((d.names l).map fun n => p.join ⟨n⟩) := by
  obtain ⟨m, at_m, directory⟩ := resolve_of_isDirectory h
  rw [at_l] at at_m
  cases at_m
  unfold isListable list at open_to_view
  unfold list
  rw [at_l] at open_to_view ⊢
  dsimp only [bind, Except.bind] at open_to_view ⊢
  rw [directory] at open_to_view ⊢
  dsimp only at open_to_view ⊢
  cases accessed : d.access l with
  | error f =>
    rw [accessed] at open_to_view
    cases open_to_view
  | ok _ => rfl

/-! ### Above what exists -/

theorem walk_append (d : Disk) (l : Location) (above below : List Text) :
    d.walk l (above ++ below) = d.walk l above >>= fun m => d.walk m below := by
  induction above generalizing l with
  | nil => rfl
  | cons part above ih =>
    rw [List.cons_append, walk, walk]
    cases d.enter l part with
    | error f => rfl
    | ok m =>
      simp only [bind, Except.bind]
      split
      · exact ih m
      · rfl

theorem node?_of_enter {part : Text} {m : Location} (h : d.enter l part = .ok m) :
    d.node? l = some .directory := by
  unfold enter at h
  by_contra other
  rw [if_pos other] at h
  cases h

theorem walk_append_ok {above below : List Text} {m : Location} :
    d.walk l (above ++ below) = .ok m ↔ ∃ k, d.walk l above = .ok k ∧ d.walk k below = .ok m := by
  rw [walk_append]
  cases d.walk l above <;> simp [bind, Except.bind]

theorem walk_cons_ok {part : Text} {rest : List Text} {m : Location} :
    d.walk l (part :: rest) = .ok m ↔
      ∃ j, d.enter l part = .ok j ∧ (d.node? j).isSome = true ∧ d.walk j rest = .ok m := by
  rw [Disk.walk]
  cases d.enter l part with
  | error f => simp [bind, Except.bind]
  | ok j => cases there : (d.node? j).isSome <;> simp [bind, Except.bind, there]

theorem enter_of_walk {part : Text} {m : Location} (h : d.walk l [part] = .ok m) :
    d.enter l part = .ok m := by
  obtain ⟨k, entered, -, last⟩ := walk_cons_ok.mp h
  cases last
  exact entered

theorem directory_of_walk {above : List Text} {name : Text} {m : Location}
    (h : d.walk l (above ++ [name]) = .ok m) :
    ∃ k, d.walk l above = .ok k ∧ d.node? k = some .directory := by
  obtain ⟨k, at_k, last⟩ := walk_append_ok.mp h
  exact ⟨k, at_k, node?_of_enter (enter_of_walk last)⟩

/-- An empty part leads nowhere. -/
theorem walk_nil (h : d.node? l = some .directory) : d.walk l [[]] = .ok l := by
  have entered : d.enter l [] = .ok l := by simp [enter, h, isName]
  simp [walk, entered, h, bind, Except.bind]

theorem fault?_of_shorter {p q : Path} (named : p.text ≠ []) (shorter : p.text <+: q.text)
    (h : fault? q = none) : fault? p = none := by
  obtain ⟨rest, whole⟩ := shorter
  have length : byteLength p.text ≤ byteLength q.text := by
    simp only [byteLength, Utf8.encode, ← whole, List.flatMap_append, List.length_append]
    omega
  have nul : p.text.contains '\x00' = true → q.text.contains '\x00' = true := by
    simp only [List.contains_iff_mem, ← whole]
    exact List.mem_append_left _
  unfold fault? at h ⊢
  split at h
  · cases h
  · next noNul =>
    split at h
    · cases h
    · split at h
      · cases h
      · next short =>
        rw [if_neg fun inside => noNul (nul inside), if_neg (by simpa using named),
          if_neg (by omega)]

theorem walk_of_resolve {p : Path} (h : d.resolve p = .ok l) :
    fault? p = none ∧ d.walk (d.origin p) p.parts = .ok l := by
  unfold resolve at h
  split at h
  · cases h
  · next sane => exact ⟨sane, h⟩

theorem resolve_of_walk {p : Path} (sane : fault? p = none)
    (reached : d.walk (d.origin p) p.parts = .ok l) : d.resolve p = .ok l := by
  rw [resolve, sane]
  exact reached

theorem walk_of_exists {p : Path} (h : d.exists? p = true) :
    fault? p = none ∧ ∃ l, d.walk (d.origin p) p.parts = .ok l := by
  unfold exists? lookup? at h
  split at h
  · next l at_l =>
    obtain ⟨sane, walked⟩ := walk_of_resolve at_l
    exact ⟨sane, l, walked⟩
  · cases h

/-- A path under which something exists is one of a directory. -/
theorem isDirectory_of_join {p : Path} {name : Text} (named : p.text ≠ []) (noSlash : '/' ∉ name)
    (h : d.exists? (p.join ⟨name⟩) = true) : d.isDirectory p = true := by
  obtain ⟨sane, m, walked⟩ := walk_of_exists h
  obtain ⟨above, parts, self⟩ := Path.parts_join p noSlash
  rw [origin, Path.isRooted_join named noSlash, ← origin, parts] at walked
  obtain ⟨l, at_l, directory⟩ := directory_of_walk walked
  have resolved : d.resolve p = .ok l := by
    refine resolve_of_walk (fault?_of_shorter named (Path.text_join p noSlash) sane) ?_
    rcases self named with same | slash
    · rw [same, at_l]
    · rw [slash, walk_append, at_l]
      exact walk_nil directory
  unfold isDirectory lookup?
  rw [resolved]
  exact decide_eq_true directory

end Disk
end LocaleLint
