import LocaleLint.Proofs.Table.Reading

namespace LocaleLint.Table

/-- Whether the record that the line `t` starts is still open after the lines `later`, the last of
the text. -/
@[mk_iff]
structure IsUnfinished (t : Text) (later : List Text) : Prop where
  start : IsStart t
  named : keyOf t ≠ []
  isOpen : IsOpen t
  free : ¬ IsReserved (keyOf t)
  more : ∀ l ∈ later, extends? l = true

instance (t : Text) (later : List Text) : Decidable (IsUnfinished t later) :=
  decidable_of_iff' _ (isUnfinished_iff t later)

/-- Key and value so far of the record that is open behind the last line. -/
def unfinished? : List Text → Option (Text × Text)
  | [] => none
  | t :: later =>
    if IsUnfinished t later then some (keyOf t, valueOf t ++ later.flatMap quotedSpan)
    else unfinished? later

/-! ### Blank lines behind the last line -/

theorem isTerminator_nil : IsTerminator [] := by decide

theorem closing_append_blank {later : List Text} (more : ∀ l ∈ later, extends? l = true)
    (key value : Text) (n : Nat) (rest : List Text) :
    closing key value n (later ++ [] :: rest) =
      some ⟨key, value ++ later.flatMap quotedSpan, n + later.length, {}⟩ := by
  have blank : ¬ extends? [] = true := by decide
  unfold closing
  rw [List.takeWhile_append_of_pos more, List.dropWhile_append_of_pos more,
    List.takeWhile_cons_of_neg blank, List.dropWhile_cons_of_neg blank, List.append_nil]
  dsimp only
  rw [if_neg isTerminator_nil.1, if_pos isTerminator_nil]
  rfl

theorem recordOf_append_blank (n : Nat) (t : Text) (later rest : List Text) :
    recordOf n t (later ++ [] :: rest) =
      if IsUnfinished t later then
        some ⟨keyOf t, valueOf t ++ later.flatMap quotedSpan, n + 1 + later.length, {}⟩
      else recordOf n t later := by
  unfold recordOf
  by_cases other : ¬ IsStart t ∨ keyOf t = []
  · have finished : ¬ IsUnfinished t later := fun u => other.elim (· u.start) u.named
    rw [if_pos other, if_pos other, if_neg finished]
  · rw [if_neg other, if_neg other]
    by_cases single : ¬ IsOpen t ∨ IsReserved (keyOf t)
    · have finished : ¬ IsUnfinished t later := fun u => single.elim (· u.isOpen) u.free
      rw [if_pos single, if_pos single, if_neg finished]
    · rw [if_neg single, if_neg single]
      obtain ⟨start, named⟩ := not_or.mp other
      obtain ⟨isOpen, free⟩ := not_or.mp single
      by_cases more : ∀ l ∈ later, extends? l = true
      · have unfinished : IsUnfinished t later :=
          ⟨not_not.mp start, named, not_not.mp isOpen, free, more⟩
        rw [if_pos unfinished, closing_append_blank more]
      · rw [if_neg fun u => more u.more, closing_append_of_shut more]

theorem recordOf_of_unfinished {t : Text} {later : List Text} (u : IsUnfinished t later) (n : Nat) :
    recordOf n t later = none := by
  have other : ¬ (¬ IsStart t ∨ keyOf t = []) := fun h => h.elim (· u.start) u.named
  have single : ¬ (¬ IsOpen t ∨ IsReserved (keyOf t)) := fun h => h.elim (· u.isOpen) u.free
  rw [recordOf, if_neg other, if_neg single, closing_of_open u.more]

theorem nothing_of_open {later : List Text} (more : ∀ l ∈ later, extends? l = true) (n : Nat) :
    recordsFrom n later = [] ∧ unfinished? later = none := by
  have others : ∀ l ∈ later, ¬ IsStart l := fun l inside => (extends?_iff.mp (more l inside)).1.1
  refine ⟨recordsFrom_eq_nil others n, ?_⟩
  induction later with
  | nil => rfl
  | cons t later ih =>
    obtain ⟨start, rest⟩ := List.forall_mem_cons.mp others
    rw [unfinished?, if_neg fun u => start u.start]
    exact ih (fun l inside => more l (List.mem_cons_of_mem _ inside)) rest

theorem recordsFrom_blank (n k : Nat) : recordsFrom n (List.replicate k []) = [] := by
  refine recordsFrom_eq_nil (fun l inside => ?_) n
  rw [List.eq_of_mem_replicate inside]
  decide

theorem recordsFrom_append_blank (n k : Nat) (ls : List Text) :
    recordsFrom n (ls ++ List.replicate (k + 1) []) =
      recordsFrom n ls ++
        ((unfinished? ls).map fun p => (⟨p.1, p.2, n + ls.length, {}⟩ : Record)).toList := by
  induction ls generalizing n with
  | nil => exact recordsFrom_blank n (k + 1)
  | cons t later ih =>
    rw [List.cons_append, recordsFrom, ih, recordsFrom, unfinished?, List.replicate_succ,
      recordOf_append_blank, List.length_cons]
    by_cases u : IsUnfinished t later
    · -- All later lines belong to the record that is open, so they add nothing of their own.
      obtain ⟨records, unfinished⟩ := nothing_of_open u.more (n + 1)
      rw [if_pos u, if_pos u, recordOf_of_unfinished u, records, unfinished]
      simp [Nat.add_assoc, Nat.add_comm 1]
    · rw [if_neg u, if_neg u, List.append_assoc, Nat.add_assoc n 1, Nat.add_comm 1]

/-! ### Whole texts -/

theorem body_append_blank (text : Text) :
    ∃ k, body (text ++ "\n\n".toList) = body text ++ List.replicate (k + 1) [] := by
  by_cases empty : text = []
  · exact ⟨0, by subst empty; rfl⟩
  · obtain ⟨k, lines⟩ := Text.lines_append_blank empty
    refine ⟨k, ?_⟩
    rw [body, lines, List.tail_append_of_ne_nil (Text.lines_ne_nil empty), List.map_append,
      List.map_replicate]
    rfl

/-- A blank line at the end of a text adds the record that is still open there, with the value it
has so far, and changes no other. So the keys and values with the blank line are those without it if
and only if no record is open at the end. -/
theorem records_append_blank (text : Text) :
    let blank := "\n\n".toList
    let pairs := fun t : Text => (ofText t).records.map fun r => (r.key, r.value)
    (ofText (text ++ blank)).records = (ofText text).records ++
        ((unfinished? (body text)).map fun p =>
          (⟨p.1, p.2, (ofText text).lineCount + 1, {}⟩ : Record)).toList ∧
      pairs (text ++ blank) = pairs text ++ (unfinished? (body text)).toList ∧
      (pairs (text ++ blank) = pairs text ↔ unfinished? (body text) = none) := by
  intro blank pairs
  have last : 2 + (body text).length = (ofText text).lineCount + 1 := by
    rw [lineCount_ofText, body, List.length_map, List.length_tail]
    omega
  obtain ⟨k, lines⟩ := body_append_blank text
  have records := recordsFrom_append_blank 2 k (body text)
  rw [← lines, ← records_ofText, ← records_ofText, last] at records
  have same : pairs (text ++ blank) = pairs text ++ (unfinished? (body text)).toList := by
    simp only [pairs, blank, records, List.map_append]
    cases unfinished? (body text) <;> rfl
  refine ⟨records, same, ?_⟩
  rw [same, List.append_right_eq_self, Option.toList_eq_nil_iff]

/-- A record that is open at the end of a text is lost. -/
theorem last_record_lost :
    let text := "T = \x7b\nA = \"a\",\nK = \"b\"..\n\"c\"..".toList
    let pairs := fun t : Text => (ofText t).records.map fun r => (r.key, r.value)
    pairs text = [("A".toList, "a".toList)] ∧
      pairs (text ++ "\n\n".toList) = [("A".toList, "a".toList), ("K".toList, "bc".toList)] := by
  decide +kernel

end LocaleLint.Table
