import LocaleLint.Proofs.Disk.Path

/-!
# The way of a path

Which locations the leading parts of a path lead to. As for the parents of a path, parts are taken
from the end, so the lists of parts here are reversed.
-/

namespace LocaleLint

namespace Path

variable {ps qs : List Text}

/-! ### Parents -/

theorem ofParts_parts (p : Path) : ofParts p.isRooted p.parts.reverse = p := by
  obtain ⟨text⟩ := p
  unfold ofParts parts
  rw [List.reverse_reverse]
  cases text with
  | nil => rfl
  | cons c rest =>
    by_cases slash : c = '/'
    · subst slash
      have split : ('/' :: rest).splitOn '/' = [] :: rest.splitOn '/' :=
        List.splitOn_append_cons_self [] rest
      simp [isRooted, split, Text.join, List.intercalate_splitOn]
    · simp [isRooted, slash, Text.join, List.intercalate_splitOn]

theorem prefix_join_append (first more : List Text) :
    Text.join ['/'] first <+: Text.join ['/'] (first ++ more) := by
  induction first with
  | nil => exact List.nil_prefix
  | cons part first ih =>
    cases first with
    | nil =>
      cases more with
      | nil => exact List.prefix_rfl
      | cons next more =>
        simp only [Text.join, List.singleton_append, List.intercalate_singleton,
          List.intercalate_cons_cons, List.append_assoc]
        exact List.prefix_append _ _
    | cons next first =>
      simp only [Text.join, List.cons_append, List.intercalate_cons_cons] at ih ⊢
      exact (List.prefix_append_right_inj _).mpr ih

theorem text_ofParts_mono (rooted : Bool) (h : ps <:+ qs) :
    (ofParts rooted ps).text <+: (ofParts rooted qs).text := by
  obtain ⟨more, rfl⟩ := h
  have body := prefix_join_append ps.reverse more.reverse
  rw [← List.reverse_append] at body
  cases rooted with
  | false => exact body
  | true => exact List.prefix_cons_inj '/' |>.mpr body

theorem text_parent {p : Path} (h : ps <:+ p.parts.reverse) :
    (ofParts p.isRooted ps).text <+: p.text := by
  have whole := text_ofParts_mono p.isRooted h
  rwa [ofParts_parts] at whole

theorem isRooted_parent {p : Path} (h : ps <:+ p.parts.reverse) :
    (ofParts p.isRooted ps).isRooted = p.isRooted := by
  by_cases named : (ofParts p.isRooted ps).text = []
  · cases rooted : p.isRooted with
    | false =>
      rw [rooted] at named
      rw [isRooted, named]
      rfl
    | true =>
      rw [rooted] at named
      cases named
  · exact isRooted_congr named (text_parent h)

theorem parts_parent {p : Path} (h : ps <:+ p.parts.reverse) :
    (ofParts p.isRooted ps).parts = if ps = [] then [[]] else ps.reverse := by
  have slashless : ∀ part ∈ ps.reverse, '/' ∉ part := fun part inside =>
    not_mem_of_mem_parts (List.mem_reverse.mp (h.subset (List.mem_reverse.mp inside)))
  have body : (Text.join ['/'] ps.reverse).splitOn '/' = if ps = [] then [[]] else ps.reverse := by
    split
    · next none =>
      rw [none]
      rfl
    · next some => exact List.splitOn_intercalate '/' slashless (by simpa using some)
  rw [parts, isRooted_parent h]
  cases p.isRooted with
  | false => exact body
  | true =>
    have split : ('/' :: Text.join ['/'] ps.reverse).splitOn '/' =
        [] :: (Text.join ['/'] ps.reverse).splitOn '/' := List.splitOn_append_cons_self [] _
    simp only [ofParts, if_true, split, List.tail_cons, body]

theorem trimParts_suffix (rooted : Bool) (ps : List Text) : trimParts rooted ps <:+ ps := by
  induction ps with
  | nil => exact List.suffix_rfl
  | cons part before ih =>
    unfold trimParts
    split
    · exact List.suffix_rfl
    · exact ih.trans (List.suffix_cons part before)

theorem suffix_of_mem_parentParts {rooted : Bool} (h : qs ∈ parentParts rooted ps) : qs <:+ ps := by
  induction ps with
  | nil => cases h
  | cons part before ih =>
    have shorter : before <:+ part :: before := List.suffix_cons part before
    unfold parentParts at h
    split at h
    · rcases List.mem_cons.mp h with rfl | later
      · exact (trimParts_suffix rooted before).trans shorter
      · exact (ih later).trans shorter
    · exact (ih h).trans shorter

end Path

namespace Disk

/-! ### Locations on the way -/

def follow (part : Text) (l : Location) : Location :=
  if part = ['.', '.'] then l.tail else if isName part then part :: l else l

def here (l : Location) (parts : List Text) : Location := parts.foldr follow l

/-- The locations on the way, the last one first. -/
def trail (l : Location) : List Text → List Location
  | [] => [l]
  | part :: before =>
    if part = ['.', '.'] ∨ isName part then here l (part :: before) :: trail l before
    else trail l before

variable {d : Disk} {l m : Location} {part : Text}

theorem here_cons (l : Location) (part : Text) (before : List Text) :
    here l (part :: before) = follow part (here l before) := rfl

theorem follow_still (still : ¬ (part = ['.', '.'] ∨ isName part)) : follow part l = l := by
  obtain ⟨notParent, noName⟩ := not_or.mp still
  rw [follow, if_neg notParent, if_neg noName]

theorem follow_of_enter (h : d.enter l part = .ok m) : m = follow part l := by
  unfold enter at h
  unfold follow
  split at h
  · cases h
  · split at h
    · next parent =>
      rw [if_pos parent]
      cases h
      rfl
    · next notParent =>
      rw [if_neg notParent]
      split at h
      · next noName =>
        rw [if_neg (by simpa using noName)]
        cases h
        rfl
      · next named =>
        rw [if_pos (by simpa using named)]
        split at h
        · cases h
        · cases h
          rfl

theorem here_of_walk {parts : List Text} (h : d.walk l parts.reverse = .ok m) :
    m = here l parts := by
  induction parts generalizing m with
  | nil =>
    cases h
    rfl
  | cons part before ih =>
    rw [List.reverse_cons] at h
    obtain ⟨k, at_k, last⟩ := walk_append_ok.mp h
    rw [follow_of_enter (enter_of_walk last), ih at_k, here_cons]

/-- On the way to a directory there are only directories. -/
theorem directory_on_way {above below : List Text} (h : d.walk l (above ++ below) = .ok m)
    (directory : d.node? m = some .directory) :
    ∃ k, d.walk l above = .ok k ∧ d.node? k = some .directory := by
  cases below with
  | nil =>
    rw [List.append_nil] at h
    exact ⟨m, h, directory⟩
  | cons part rest =>
    rw [List.append_cons] at h
    obtain ⟨k, at_k, -⟩ := walk_append_ok.mp h
    exact directory_of_walk at_k

theorem head?_trail (l : Location) (parts : List Text) :
    (trail l parts).head? = some (here l parts) := by
  induction parts with
  | nil => rfl
  | cons part before ih =>
    unfold trail
    split
    · rfl
    · next still => rw [here_cons, follow_still still, ih]

theorem filter_tails_self (l : Location) : l.tails.filter (fun k => l.isSuffixOf k) = [l] := by
  cases l with
  | nil => rfl
  | cons name above =>
    have shorter : above.tails.filter (fun k => (name :: above).isSuffixOf k) = [] := by
      refine List.filter_eq_nil_iff.mpr fun k outer inside => ?_
      have up := ((List.mem_tails k above).mp outer).length_le
      have down := (List.isSuffixOf_iff_suffix.mp inside).length_le
      rw [List.length_cons] at down
      omega
    rw [List.tails_cons, List.filter_cons_of_pos (List.isSuffixOf_iff_suffix.mpr List.suffix_rfl),
      shorter]

/-- Without `..` a path goes down only, through all that is between its start and its end. -/
theorem trail_descending {parts : List Text} (descending : ['.', '.'] ∉ parts) :
    l <:+ here l parts ∧ trail l parts = (here l parts).tails.filter fun k => l.isSuffixOf k := by
  induction parts with
  | nil => exact ⟨List.suffix_rfl, (filter_tails_self l).symm⟩
  | cons part before ih =>
    obtain ⟨inside, way⟩ := ih fun later => descending (List.mem_cons_of_mem _ later)
    have notParent : part ≠ ['.', '.'] := fun same => descending (by simp [same])
    by_cases named : isName part
    · have further : here l (part :: before) = part :: here l before := by
        rw [here_cons, follow, if_neg notParent, if_pos named]
      have longer : l <:+ part :: here l before := inside.trans (List.suffix_cons _ _)
      rw [trail, if_pos (Or.inr named), further, way, List.tails_cons,
        List.filter_cons_of_pos (List.isSuffixOf_iff_suffix.mpr longer)]
      exact ⟨longer, rfl⟩
    · have still : ¬ (part = ['.', '.'] ∨ isName part) := not_or.mpr ⟨notParent, named⟩
      rw [trail, if_neg still, here_cons, follow_still still]
      exact ⟨inside, way⟩

/-! ### Looking for an entry -/

/-- A name that an entry of a directory can have. -/
structure IsEntry (name : Text) : Prop where
  named : isName name = true
  noSlash : '/' ∉ name
  noNul : '\x00' ∉ name
  short : byteLength name ≤ nameLimit

variable {p q : Path} {name : Text}

/-- An empty part at the end leads nowhere else. -/
theorem walk_dropEmpty {above : List Text} (h : d.walk l (above ++ [[]]) = .ok m) :
    d.walk l above = .ok m := by
  obtain ⟨k, at_k, last⟩ := walk_append_ok.mp h
  have still := walk_nil (node?_of_enter (enter_of_walk last))
  have same : k = m := by simpa using still.symm.trans last
  rw [at_k, same]

/-- The parts above a name that is joined to a path lead where the path does. -/
theorem walk_above (named : p.text ≠ []) (reached : d.walk (d.origin p) p.parts = .ok l)
    (noSlash : '/' ∉ name) :
    ∃ above, (p.join ⟨name⟩).parts = above ++ [name] ∧
      d.walk (d.origin (p.join ⟨name⟩)) above = .ok l := by
  obtain ⟨above, parts, self⟩ := Path.parts_join p noSlash
  refine ⟨above, parts, ?_⟩
  rw [origin, Path.isRooted_join named noSlash, ← origin]
  rcases self named with same | slash
  · rw [← same, reached]
  · exact walk_dropEmpty (slash ▸ reached)

theorem walk_join (reached : d.walk (d.origin p) p.parts = .ok l) (noSlash : '/' ∉ name) :
    d.walk (d.origin (p.join ⟨name⟩)) (p.join ⟨name⟩).parts = d.walk l [name] := by
  -- Nothing is put between the empty path and a name, so it has to be looked at by itself.
  by_cases named : p.text = []
  · obtain rfl : p = ⟨[]⟩ := congrArg Path.mk named
    have unrooted := Path.not_isRooted noSlash
    have alone : Path.join ⟨[]⟩ ⟨name⟩ = ⟨name⟩ := by simp [Path.join, unrooted]
    have single : Path.parts ⟨name⟩ = [name] := by
      rw [Path.parts, unrooted]
      exact List.splitOn_eq_singleton noSlash
    have start : d.walk d.cwd ([] ++ [[]]) = .ok l := reached
    obtain rfl : d.cwd = l := by simpa [walk] using walk_dropEmpty start
    rw [alone, origin, unrooted, single]
    rfl
  · obtain ⟨above, parts, up_to⟩ := walk_above named reached noSlash
    rw [parts, walk_append, up_to]
    rfl

theorem enter_entry (directory : d.node? l = some .directory) (h : IsEntry name) :
    d.enter l name = .ok (name :: l) := by
  have notParent : name ≠ ['.', '.'] := by
    rintro rfl
    exact absurd h.named (by decide)
  rw [enter, if_neg (not_not.mpr directory), if_neg notParent, if_neg (by simp [h.named]),
    if_neg (Nat.not_lt.mpr h.short)]

theorem walk_entry (directory : d.node? l = some .directory) (h : IsEntry name) :
    d.walk l [name] =
      if (d.node? (name :: l)).isSome then .ok (name :: l) else .error .notFound := by
  simp only [walk, enter_entry directory h, bind, Except.bind]

theorem resolve_join (directory : d.node? l = some .directory)
    (reached : d.walk (d.origin p) p.parts = .ok l) (h : IsEntry name)
    (sane : fault? (p.join ⟨name⟩) = none) :
    d.resolve (p.join ⟨name⟩) =
      if (d.node? (name :: l)).isSome then .ok (name :: l) else .error .notFound := by
  rw [resolve, sane]
  dsimp only
  rw [walk_join reached h.noSlash, walk_entry directory h]

theorem byteLength_append (s t : Text) : byteLength (s ++ t) = byteLength s + byteLength t := by
  simp [byteLength, Utf8.encode]

theorem byteLength_pos {t : Text} (h : t ≠ []) : 0 < byteLength t := by
  obtain ⟨c, rest, rfl⟩ := List.exists_cons_of_ne_nil h
  have first := Char.utf8Size_pos c
  simp only [byteLength, Utf8.encode, List.flatMap_cons, List.length_append,
    String.length_utf8EncodeChar]
  omega

/-- Neither an earlier end of the path nor a shorter name makes the path of an entry longer. -/
theorem byteLength_join_le {other : Text} (shorter : q.text <+: p.text) (noSlash : '/' ∉ name)
    (noSlash' : '/' ∉ other) (le : byteLength name ≤ byteLength other) :
    byteLength (q.join ⟨name⟩).text ≤ byteLength (p.join ⟨other⟩).text := by
  obtain ⟨rest, whole⟩ := shorter
  rw [Path.text_join_eq q noSlash, Path.text_join_eq p noSlash']
  simp only [byteLength_append]
  -- A slash more after the earlier end is made up for by what is left out.
  by_cases same : rest = []
  · rw [← whole, same, List.append_nil]
    omega
  · have more := byteLength_pos same
    have separator (b : Bool) : byteLength (if b then [] else ['/']) ≤ 1 := by
      cases b <;> decide
    have slash := separator (q.text.isEmpty || q.text.getLast? = some '/')
    rw [← whole, byteLength_append]
    omega

theorem fault?_join {other : Text} (shorter : q.text <+: p.text) (sane : fault? p = none)
    (h : IsEntry name) (noSlash : '/' ∉ other) (le : byteLength name ≤ byteLength other)
    (fits : byteLength (p.join ⟨other⟩).text ≤ pathLimit) : fault? (q.join ⟨name⟩) = none := by
  have noNul : '\x00' ∉ p.text := by
    intro nul
    rw [fault?, if_pos (List.contains_iff_mem.mpr nul)] at sane
    cases sane
  have text := Path.text_join_eq q h.noSlash
  have length := byteLength_join_le shorter h.noSlash noSlash le
  have named : name ≠ [] := by
    rintro rfl
    exact absurd h.named (by decide)
  have clean : '\x00' ∉ (q.join ⟨name⟩).text := by
    rw [text, List.mem_append, List.mem_append]
    rintro ((front | slash) | entry)
    · exact noNul (shorter.subset front)
    · split at slash <;> simp at slash
    · exact h.noNul entry
  rw [fault?, if_neg (by simpa using clean), if_neg (by simp [text, named]), if_neg (by omega)]

end Disk
end LocaleLint
