import LocaleLint.Proofs.Suppression
import LocaleLint.Proofs.Table.Reading
import LocaleLint.Proofs.Text.Terminator

namespace LocaleLint

namespace Table

/-- Whether a text is a key in the form in which a table holds it. -/
structure IsKey (k : Text) : Prop where
  named : k ≠ []
  trimmed : Text.trim k = k
  noEquals : '=' ∉ k
  line : Text.IsLine k

end Table

structure Record.WellFormed (r : Record) : Prop where
  key : Table.IsKey r.key
  value : Text.IsLine r.value
  codes : ∀ c ∈ r.suppressed.codes, Suppression.IsCode c

namespace Table

variable {t key value : Text} {n : Nat} {ls later : List Text} {r : Record}

/-! ### Parts of a line -/

theorem quotedSpan_subset (s : Text) : quotedSpan s ⊆ s := by
  unfold quotedSpan
  split
  · next rest found =>
    have behind : rest ⊆ s := (Text.afterFirst?_suffix found).subset
    cases between : Text.beforeLast? '"' rest with
    | none => exact List.nil_subset s
    | some span =>
      have front : span ⊆ rest := (Text.prefix_of_beforeLast? between).subset
      exact fun c member => behind (front member)
  · exact List.dropLast_subset s

theorem isKey_keyOf (line : Text.IsLine t) (named : keyOf t ≠ []) : IsKey (keyOf t) := by
  have front : keyOf t ⊆ t.takeWhile (· != '=') := Text.trim_subset _
  refine ⟨named, Text.trim_trim _, fun equals => ?_, ?_⟩
  · have other := List.mem_takeWhile_imp (front equals)
    simp at other
  · exact line.mono fun c member => (List.takeWhile_sublist _).subset (front member)

theorem isLine_valueOf (line : Text.IsLine t) : Text.IsLine (valueOf t) := by
  refine line.mono fun c member => ?_
  have behind := List.mem_of_mem_tail (quotedSpan_subset _ member)
  exact (List.dropWhile_sublist _).subset behind

theorem isLine_parts (lines : ∀ l ∈ ls, Text.IsLine l) : Text.IsLine (ls.flatMap quotedSpan) := by
  induction ls with
  | nil => decide
  | cons l ls ih =>
    obtain ⟨here, rest⟩ := List.forall_mem_cons.mp lines
    rw [List.flatMap_cons, Text.isLine_append]
    exact ⟨here.mono (quotedSpan_subset l), ih rest⟩

/-! ### Records -/

/-- A record whose value goes on keeps its key, adds parts of later lines to its value and has the
codes of the line that ends it. -/
theorem closing_shape (value_line : Text.IsLine value) (lines : ∀ l ∈ later, Text.IsLine l)
    (h : closing key value n later = some r) :
    r.key = key ∧ Text.IsLine r.value ∧ ∃ l, r.suppressed = .ofLine l := by
  have body_lines : ∀ l ∈ later.takeWhile extends?, Text.IsLine l := fun l member =>
    lines l ((List.takeWhile_sublist _).subset member)
  unfold closing at h
  dsimp only at h
  split at h
  · cases h
  · next last rest shape =>
    have here : last ∈ later.dropWhile extends? := by simp [shape]
    have last_line := lines last ((List.dropWhile_sublist _).subset here)
    split at h
    · cases h
    · cases h
      refine ⟨rfl, Text.isLine_append.mpr ⟨value_line, isLine_parts ?_⟩, last, rfl⟩
      split
      · exact body_lines
      · exact List.forall_mem_append.mpr ⟨body_lines, by simpa using last_line⟩

theorem recordOf_wellFormed (line : Text.IsLine t) (lines : ∀ l ∈ later, Text.IsLine l)
    (h : recordOf n t later = some r) : r.WellFormed := by
  unfold recordOf at h
  split at h
  · cases h
  · next start =>
    have key := isKey_keyOf line fun empty => start (Or.inr empty)
    have value := isLine_valueOf line
    split at h
    · cases h
      exact ⟨key, value, fun c => Suppression.isCode_of_mem⟩
    · obtain ⟨same, value', l, codes⟩ := closing_shape value lines h
      refine ⟨same ▸ key, value', fun c member => ?_⟩
      rw [codes] at member
      exact Suppression.isCode_of_mem member

theorem recordsFrom_wellFormed (lines : ∀ l ∈ ls, Text.IsLine l) :
    ∀ r ∈ recordsFrom n ls, r.WellFormed := by
  induction ls generalizing n with
  | nil => simp [recordsFrom]
  | cons t later ih =>
    obtain ⟨line, rest⟩ := List.forall_mem_cons.mp lines
    intro r member
    rcases List.mem_append.mp member with here | after
    · exact recordOf_wellFormed line rest (Option.mem_toList.mp here)
    · exact ih rest r after

theorem isLine_body (text : Text) : ∀ l ∈ body text, Text.IsLine l := by
  intro l member
  obtain ⟨raw, inside, rfl⟩ := List.mem_map.mp member
  exact (Text.isLine_of_mem_lines (List.mem_of_mem_tail inside)).mono (Text.trim_subset raw)

theorem record_wellFormed {text : Text} : ∀ r ∈ (ofText text).records, r.WellFormed := by
  rw [records_ofText]
  exact recordsFrom_wellFormed (isLine_body text)

/-- No two of the records end on one line. -/
theorem length_filter_line_le {rs : List Record} (ascending : rs.Pairwise fun r x => r.line < x.line)
    (n : Nat) : (rs.filter fun r => r.line = n).length ≤ 1 := by
  have left := ascending.filter fun r => decide (r.line = n)
  have same : ∀ r ∈ rs.filter (fun r => r.line = n), r.line = n := fun r member =>
    of_decide_eq_true (List.mem_filter.mp member).2
  generalize rs.filter (fun r => r.line = n) = found at left same ⊢
  match found with
  | [] | [_] => simp
  | r :: x :: _ =>
    have before : r.line < x.line := (List.pairwise_cons.mp left).1 x (by simp)
    have first := same r (by simp)
    have second := same x (by simp)
    omega

end Table
end LocaleLint
