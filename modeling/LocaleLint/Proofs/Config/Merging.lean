import LocaleLint.Command.Check
import LocaleLint.Proofs.Text.Scan
import LocaleLint.Proofs.Text.Sorted

namespace LocaleLint

namespace Assignment

/-- Whether a part of a list of encodings gives a label to a locale. -/
def Assigns (part locale label : Text) : Prop :=
  ∃ front back, part = front ++ ':' :: back ∧ ':' ∉ front ∧ ':' ∉ back ∧
    Text.trim front = locale ∧ Text.trim back = label

def pair? (part : Text) : Option (Text × Text) :=
  match part.splitOn ':' with
  | [locale, label] => some (Text.trim locale, Text.trim label)
  | _ => none

theorem parts_eq (list : Text) : parts list = (list.splitOn ',').filterMap pair? := rfl

variable {part locale label : Text} {ps before after : List Text}

theorem pair?_eq_some_iff : pair? part = some (locale, label) ↔ Assigns part locale label := by
  constructor
  · intro found
    unfold pair? at found
    split at found
    · next front back pieces =>
      have whole : [':'].intercalate (part.splitOn ':') = part := List.intercalate_splitOn ':'
      have free : ∀ p ∈ [front, back], ':' ∉ p := fun p member =>
        Text.not_mem_of_mem_splitOn (pieces ▸ member)
      rw [pieces, List.intercalate_cons_cons, List.intercalate_singleton, List.append_assoc,
        List.singleton_append] at whole
      cases found
      exact ⟨front, back, whole.symm, free front (by simp), free back (by simp), rfl, rfl⟩
    · cases found
  · rintro ⟨front, back, rfl, noColon, noColon', rfl, rfl⟩
    unfold pair?
    rw [List.splitOn_append_cons_self, List.splitOn_eq_singleton noColon,
      List.splitOn_eq_singleton noColon']
    rfl

theorem not_assigns (other : (pair? part).map (·.1) ≠ some locale) (label : Text) :
    ¬ Assigns part locale label := by
  intro assigns
  rw [pair?_eq_some_iff.mpr assigns] at other
  exact other rfl

theorem lookup_pairs_eq_none (none : ∀ p ∈ ps, ∀ l, ¬ Assigns p locale l) :
    (ps.filterMap pair?).reverse.lookup locale = Option.none := by
  rw [List.lookup_eq_none_iff]
  intro e member
  obtain ⟨p, here, found⟩ := List.mem_filterMap.mp (List.mem_reverse.mp member)
  rw [bne_iff_ne]
  rintro rfl
  exact none p here e.2 (pair?_eq_some_iff.mp found)

/-- Of several parts for a locale the last one counts. -/
theorem lookup_pairs_last (assigns : Assigns part locale label)
    (last : ∀ p ∈ after, ∀ l, ¬ Assigns p locale l) :
    ((before ++ part :: after).filterMap pair?).reverse.lookup locale = some label := by
  rw [List.filterMap_append, List.filterMap_cons_some (pair?_eq_some_iff.mpr assigns),
    List.reverse_append, List.reverse_cons, List.lookup_append, List.lookup_append,
    lookup_pairs_eq_none last, lookup_cons_eq_ite, if_pos rfl]
  rfl

end Assignment

/-! ### Codes -/

namespace Suppression

def codesOf (pieces : List Text) : List Text :=
  (pieces.map Text.trim).filter fun t => !t.isEmpty

theorem ofCodes_eq (pieces : List Text) : ofCodes pieces = ⟨.ofList (codesOf pieces)⟩ := rfl

theorem codesOf_append (pieces more : List Text) :
    codesOf (pieces ++ more) = codesOf pieces ++ codesOf more := by
  rw [codesOf, List.map_append, List.filter_append]
  rfl

theorem codesOf_codesOf (pieces : List Text) : codesOf (codesOf pieces) = codesOf pieces := by
  have trimmed : ∀ t ∈ codesOf pieces, Text.trim t = id t := by
    intro t member
    obtain ⟨piece, -, rfl⟩ := List.mem_map.mp (List.mem_filter.mp member).1
    exact Text.trim_trim piece
  have named : ∀ t ∈ codesOf pieces, (!t.isEmpty) = true := fun t member =>
    (List.mem_filter.mp member).2
  calc codesOf (codesOf pieces)
      = (codesOf pieces).filter fun t => !t.isEmpty := by
        rw [codesOf, List.map_congr_left trimmed, List.map_id]
    _ = codesOf pieces := List.filter_eq_self.mpr named

end Suppression

/-! ### All options -/

namespace CheckCommand

def pieces (given : Option Text) : List Text := (given.map fun list => list.splitOn ',').getD []

variable (c : CheckCommand) (file : Config)

theorem ignored_apply :
    (c.apply file).ignored = file.ignored ++ Suppression.codesOf (pieces c.ignored) := rfl

theorem encodings_apply :
    (c.apply file).encodings =
      TextMap.insertAll file.encodings ((pieces c.encodings).filterMap Assignment.pair?) := by
  unfold apply pieces
  cases c.encodings with
  | none => rfl
  | some list =>
    change TextMap.insertAll file.encodings (Assignment.parts list) = _
    rw [Assignment.parts_eq]
    rfl

theorem get?_encodings_apply (locale : Text) :
    TextMap.get? (c.apply file).encodings locale =
      (((pieces c.encodings).filterMap Assignment.pair?).reverse.lookup locale).or
        (TextMap.get? file.encodings locale) := by
  rw [encodings_apply, TextMap.get?_insertAll]

theorem suppressed_apply :
    (c.apply file).suppressed =
      Suppression.ofCodes (file.ignored ++ pieces c.ignored) := by
  rw [Config.suppressed, ignored_apply, Suppression.ofCodes_eq, Suppression.ofCodes_eq,
    Suppression.codesOf_append, Suppression.codesOf_append, Suppression.codesOf_codesOf]

theorem mem_suppressed_apply (code : Text) :
    code ∈ (c.apply file).suppressed.codes ↔
      code ∈ file.suppressed.codes ∨ code ∈ (Suppression.ofCodes (pieces c.ignored)).codes := by
  rw [suppressed_apply, Config.suppressed]
  simp only [Suppression.ofCodes_eq, Suppression.codesOf_append, TextSet.mem_ofList,
    List.mem_append]

theorem suppressed_apply_apply :
    (c.apply (c.apply file)).suppressed = (c.apply file).suppressed := by
  simp only [Config.suppressed, ignored_apply, Suppression.ofCodes_eq, Suppression.codesOf_append]
  congr 1
  refine TextSet.ofList_congr fun t => ?_
  simp only [List.mem_append]
  tauto

/-- With the arguments applied, what is suppressed is what the file or the option suppresses, as if
the file listed the codes of the option; a locale has the label of the last part of the option that
gives it one, or else that of the file; a base locale or directory that is given replaces the one of
the file; and the check is strict if one of the two says so. Applied again, the arguments change
nothing. -/
theorem apply_merges (c : CheckCommand) (file : Config) :
    let merged := c.apply file
    let again := c.apply merged
    (∀ code, code ∈ merged.suppressed.codes ↔
        code ∈ file.suppressed.codes ∨ code ∈ (Suppression.ofCodes (pieces c.ignored)).codes) ∧
      merged.suppressed =
        ({ file with ignored := file.ignored ++ pieces c.ignored } : Config).suppressed ∧
      (∀ before part after locale label, pieces c.encodings = before ++ part :: after →
        Assignment.Assigns part locale label →
        (∀ p ∈ after, ∀ l, ¬ Assignment.Assigns p locale l) →
        TextMap.get? merged.encodings locale = some label) ∧
      (∀ locale, (∀ p ∈ pieces c.encodings, ∀ l, ¬ Assignment.Assigns p locale l) →
        TextMap.get? merged.encodings locale = TextMap.get? file.encodings locale) ∧
      merged.baseLocale = c.base.getD file.baseLocale ∧
      merged.stringSubdir = c.stringSubdir.getD file.stringSubdir ∧
      merged.strict = (file.strict || c.strict) ∧
      again.baseLocale = merged.baseLocale ∧ again.stringSubdir = merged.stringSubdir ∧
      again.strict = merged.strict ∧ again.suppressed = merged.suppressed ∧
      (∀ locale, TextMap.get? again.encodings locale = TextMap.get? merged.encodings locale) ∧
      (TextMap.Ascending file.encodings → again.encodings = merged.encodings) := by
  intro merged again
  have same (locale : Text) :
      TextMap.get? again.encodings locale = TextMap.get? merged.encodings locale := by
    rw [encodings_apply, encodings_apply]
    exact TextMap.get?_insertAll_insertAll _ _ locale
  refine ⟨c.mem_suppressed_apply file, c.suppressed_apply file, ?_, ?_, rfl, rfl, rfl, ?_, ?_, ?_,
    c.suppressed_apply_apply file, same, ?_⟩
  · intro before part after locale label split assigns last
    rw [get?_encodings_apply, split, Assignment.lookup_pairs_last assigns last, Option.some_or]
  · intro locale none
    rw [get?_encodings_apply, Assignment.lookup_pairs_eq_none none, Option.none_or]
  · change c.base.getD (c.base.getD file.baseLocale) = c.base.getD file.baseLocale
    cases c.base <;> rfl
  · change c.stringSubdir.getD (c.stringSubdir.getD file.stringSubdir) =
      c.stringSubdir.getD file.stringSubdir
    cases c.stringSubdir <;> rfl
  · change ((file.strict || c.strict) || c.strict) = (file.strict || c.strict)
    rw [Bool.or_assoc, Bool.or_self]
  · intro ascending
    have ordered : TextMap.Ascending merged.encodings := by
      rw [encodings_apply]
      exact TextMap.ascending_insertAll ascending _
    refine TextMap.eq_of_get? ?_ ordered same
    rw [encodings_apply]
    exact TextMap.ascending_insertAll ordered _

theorem apply_merges_repeated_locale :
    let c : CheckCommand := {
      path := .ofString "."
      encodings := "FR:utf-8,FR:a:b, FR :\tlatin1 ,DE,:".toList
      ignored := " extra,,typo , extra".toList }
    let file : Config := {
      ignored := ["missing ".toList, "typo".toList]
      encodings := [("FR".toList, "cp1250".toList), ("RU".toList, "cp1251".toList)] }
    let merged := c.apply file
    (∀ code ∈ ["extra".toList, "missing".toList, "typo".toList], code ∈ merged.suppressed.codes) ∧
      TextMap.get? merged.encodings "FR".toList = some "latin1".toList ∧
      TextMap.get? merged.encodings "RU".toList = some "cp1251".toList ∧
      (c.apply merged).encodings = merged.encodings := by
  intro c file merged
  obtain ⟨codes, -, last, others, -, -, -, -, -, -, -, -, again⟩ := apply_merges c file
  have behind : ∀ p ∈ ["DE".toList, ":".toList],
      (Assignment.pair? p).map (·.1) ≠ some "FR".toList := by
    decide +kernel
  have russian : ∀ p ∈ pieces c.encodings,
      (Assignment.pair? p).map (·.1) ≠ some "RU".toList := by
    decide +kernel
  refine ⟨?_, ?_, ?_, again (by decide +kernel)⟩
  · intro code member
    rw [codes]
    revert code
    decide +kernel
  · refine last ["FR:utf-8".toList, "FR:a:b".toList] " FR :\tlatin1 ".toList
      ["DE".toList, ":".toList] _ _ (by decide +kernel)
      ⟨" FR ".toList, "\tlatin1 ".toList, by decide +kernel, by decide, by decide,
        by decide +kernel, by decide +kernel⟩
      fun p member => Assignment.not_assigns (behind p member)
  · exact (others _ fun p member => Assignment.not_assigns (russian p member)).trans
      (by decide +kernel)

end CheckCommand
end LocaleLint
