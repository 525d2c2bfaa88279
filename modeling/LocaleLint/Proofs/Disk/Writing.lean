import LocaleLint.Proofs.Disk.Trail

/-!
# Writing new files

A file that is written where nothing was leaves all else on the disk as it is, and its path leads to
it from then on, also if only its beginning could be written.
-/

namespace LocaleLint

namespace Disk

variable {d d' : Disk} {k l m : Location} {p : Path} {bytes : List UInt8}

/-- Whether a disk is another one with a file more. -/
structure Adds (d d' : Disk) (l : Location) (bytes : List UInt8) : Prop where
  absent : d.node? l = none
  stored : d'.node? l = some (.file bytes)
  others : ∀ m ≠ l, d'.node? m = d.node? m
  cwd : d'.cwd = d.cwd
  locked : d'.locked = d.locked
  quota : d'.quota = d.quota

theorem adds_put (absent : d.node? l = none) (bytes : List UInt8) :
    Adds d (d.put l (.file bytes)) l bytes := by
  have inside : l ≠ [] := by
    rintro rfl
    cases absent
  refine ⟨absent, ?_, fun m other => ?_, rfl, rfl, rfl⟩
  · rw [node?_put d l _ inside, if_pos rfl]
  · rw [node?_put d m _ inside, if_neg other]

theorem Adds.kept (h : Adds d d' l bytes) (there : (d.node? k).isSome = true) :
    d'.node? k = d.node? k :=
  h.others k fun same => by simp [same, h.absent] at there

theorem Adds.enter (h : Adds d d' l bytes) {part : Text} (entered : d.enter k part = .ok m) :
    d'.enter k part = .ok m := by
  have directory := node?_of_enter entered
  unfold Disk.enter at entered ⊢
  rwa [h.kept (by rw [directory]; rfl)]

/-- A path that leads somewhere still leads there when there is a file more. -/
theorem Adds.walk (h : Adds d d' l bytes) {parts : List Text} (reached : d.walk k parts = .ok m) :
    d'.walk k parts = .ok m := by
  induction parts generalizing k with
  | nil => exact reached
  | cons part rest ih =>
    obtain ⟨j, entered, there, later⟩ := walk_cons_ok.mp reached
    exact walk_cons_ok.mpr ⟨j, h.enter entered, by rwa [h.kept there], ih later⟩

theorem place_ok (h : d.place p = .ok l) :
    ∃ above name k, fault? p = none ∧ p.parts = above ++ [name] ∧
      d.walk (d.origin p) above = .ok k ∧ d.enter k name = .ok l := by
  unfold place at h
  split at h
  · cases h
  · cases h
  · next name sane last =>
    obtain ⟨above, parts⟩ := List.getLast?_eq_some_iff.mp last
    rw [parts, List.dropLast_concat] at h
    cases reached : d.walk (d.origin p) above with
    | error f =>
      rw [reached] at h
      cases h
    | ok k =>
      simp only [reached, bind, Except.bind] at h
      split at h
      · exact ⟨above, name, k, sane, parts, reached, h⟩
      · cases h

theorem exists?_of_resolve (at_l : d.resolve p = .ok l) (there : (d.node? l).isSome = true) :
    d.exists? p = true := by
  rw [exists?, lookup?, at_l]
  exact there

theorem node?_of_absent (absent : d.exists? p = false)
    (leads : (d.node? l).isSome = true → d.resolve p = .ok l) : d.node? l = none := by
  by_contra taken
  have there := Option.isSome_iff_ne_none.mpr taken
  rw [exists?_of_resolve (leads there) there] at absent
  cases absent

theorem resolve_of_enter {above : List Text} {name : Text} (sane : fault? p = none)
    (parts : p.parts = above ++ [name]) (reached : d.walk (d.origin p) above = .ok k)
    (entered : d.enter k name = .ok l) (there : (d.node? l).isSome = true) :
    d.resolve p = .ok l := by
  refine resolve_of_walk sane ?_
  rw [parts]
  exact walk_append_ok.mpr ⟨k, reached, walk_cons_ok.mpr ⟨l, entered, there, rfl⟩⟩

theorem access_eq_ok_iff : d.access l = .ok () ↔ d.lock? l = none := by
  unfold access
  cases d.lock? l <;> simp

theorem target_ok (h : d.target p = .ok l) : d.place p = .ok l ∧ d.access l = .ok () := by
  unfold target at h
  cases placed : d.place p with
  | error f =>
    rw [placed] at h
    cases h
  | ok m =>
    simp only [placed, bind, Except.bind] at h
    split at h
    · cases h
    · cases accessed : d.access m with
      | error f =>
        rw [accessed] at h
        cases h
      | ok _ =>
        rw [accessed] at h
        cases h
        exact ⟨rfl, accessed⟩

theorem written_cases (d : Disk) (bytes : List UInt8) :
    d.written bytes = (bytes, .ok ()) ∨
      ∃ q, d.quota = some q ∧ q.bytes < bytes.length ∧
        d.written bytes = (bytes.take q.bytes, .error q.fault) := by
  unfold written
  cases quota : d.quota with
  | none => exact .inl rfl
  | some q =>
    dsimp only
    split
    · next short => exact .inr ⟨q, rfl, short, rfl⟩
    · exact .inl rfl

/-- Where a path leads nowhere, writing to it fails without a trace, or adds the file that it leads
to from then on, with as much of the bytes as could be written. -/
theorem write_absent (absent : d.exists? p = false) (bytes : List UInt8) :
    (∃ f, d.write p bytes = (.error f, d)) ∨
      ∃ l d', d.write p bytes = ((d.written bytes).2, d') ∧ Adds d d' l (d.written bytes).1 ∧
        d'.resolve p = .ok l ∧ d'.access l = .ok () := by
  unfold write
  cases opened : d.target p with
  | error f => exact .inl ⟨f, rfl⟩
  | ok l =>
    obtain ⟨placed, accessed⟩ := target_ok opened
    obtain ⟨above, name, k, sane, parts, reached, entered⟩ := place_ok placed
    have nothing := node?_of_absent absent (resolve_of_enter sane parts reached entered)
    have adds := adds_put nothing (d.written bytes).1
    exact .inr ⟨l, _, rfl, adds, resolve_of_enter sane parts (adds.walk reached)
      (adds.enter entered) (by rw [adds.stored]; rfl), accessed⟩

theorem place_join {dir : Path} {name : Text} (reached : d.resolve dir = .ok l)
    (directory : d.node? l = some .directory) (entry : IsEntry name)
    (fits : byteLength (dir.join ⟨name⟩).text ≤ pathLimit) :
    d.place (dir.join ⟨name⟩) = .ok (name :: l) := by
  obtain ⟨sane, walked⟩ := walk_of_resolve reached
  have named : dir.text ≠ [] := by
    intro empty
    rw [fault?] at sane
    simp [empty] at sane
  obtain ⟨above, parts, up_to⟩ := walk_above named walked entry.noSlash
  rw [place, fault?_join List.prefix_rfl sane entry entry.noSlash le_rfl fits, parts,
    List.getLast?_concat, List.dropLast_concat]
  simp only [up_to, bind, Except.bind, entry.named, if_true, enter_entry directory entry]

/-- In a directory a file can be opened for writing under a name that is not taken. -/
theorem target_join {dir : Path} {name : Text} (reached : d.resolve dir = .ok l)
    (directory : d.node? l = some .directory) (entry : IsEntry name)
    (fits : byteLength (dir.join ⟨name⟩).text ≤ pathLimit)
    (absent : d.exists? (dir.join ⟨name⟩) = false) (accessed : d.access (name :: l) = .ok ()) :
    d.target (dir.join ⟨name⟩) = .ok (name :: l) := by
  obtain ⟨sane, walked⟩ := walk_of_resolve reached
  have at_name := resolve_join directory walked entry
    (fault?_join List.prefix_rfl sane entry entry.noSlash le_rfl fits)
  have free := node?_of_absent absent fun there => at_name.trans (if_pos there)
  simp [target, place_join reached directory entry fits, free, accessed, bind, Except.bind]

theorem readText_of_file {t : Text} (at_l : d.resolve p = .ok l) (accessed : d.access l = .ok ())
    (stored : d.node? l = some (.file bytes)) (text : Utf8.text? bytes = some t) :
    d.readText p = .ok t := by
  simp [readText, read, at_l, accessed, stored, text, bind, Except.bind]

end Disk
end LocaleLint
