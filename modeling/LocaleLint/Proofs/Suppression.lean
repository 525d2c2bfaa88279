import LocaleLint.Proofs.Text.Scan
import LocaleLint.Proofs.Text.Sorted
import LocaleLint.Suppression

/-!
# Reading directives

What a line suppresses is told by the text behind its last quote alone. A directive that is written
behind any text is read as the set of its codes, as long as there is no other directive before it.
-/

namespace LocaleLint.Suppression

/-- Whether a text is a code in the form in which a directive holds it. -/
@[mk_iff]
structure IsCode (c : Text) : Prop where
  named : c ≠ []
  trimmed : Text.trim c = c
  noComma : ',' ∉ c
  noQuote : '"' ∉ c

instance (c : Text) : Decidable (IsCode c) := decidable_of_iff' _ (isCode_iff c)

/-- Whether the parts of a list are the codes in their order, with blanks around them and blank parts
between them. -/
inductive Lists : List Text → List Text → Prop where
  | nil : Lists [] []
  | blank {p : Text} {ps cs : List Text} (blank : ∀ x ∈ p, Text.isBlank x = true)
      (rest : Lists ps cs) : Lists (p :: ps) cs
  | code {p c : Text} {ps cs : List Text} (padded : Text.IsPadded Text.isBlank c p)
      (rest : Lists ps cs) : Lists (p :: ps) (c :: cs)

variable {c line lead list : Text} {pieces ps cs : List Text}

/-! ### The codes of a line -/

theorem mem_ofCodes_iff :
    c ∈ (ofCodes pieces).codes ↔ c ≠ [] ∧ ∃ p ∈ pieces, Text.trim p = c := by
  simp [ofCodes, TextSet.mem_ofList, List.mem_filter, and_comm]

theorem isCode_of_mem (h : c ∈ (ofLine line).codes) : IsCode c := by
  unfold ofLine at h
  split at h
  · next list found =>
    obtain ⟨named, part, member, rfl⟩ := mem_ofCodes_iff.mp h
    have behind : list ⊆ Text.afterLast '"' line := (Text.afterMark?_suffix found).subset
    refine ⟨named, Text.trim_trim part, fun comma => ?_, fun quote => ?_⟩
    · exact Text.not_mem_of_mem_splitOn member (Text.trim_subset part comma)
    · have inside := Text.subset_of_mem_splitOn member (Text.trim_subset part quote)
      exact Text.not_mem_afterLast '"' line (behind inside)
  · cases h

theorem ofLine_behind_quote (before : Text) {after : Text} (h : '"' ∉ after) :
    ofLine (before ++ '"' :: after) = ofLine after := by
  rw [ofLine, Text.afterLast_append _ h, ofLine, Text.afterLast_of_not_mem h]

/-- The list of a directive begins behind the marker that was put there: the blank that ends the
marker stands nowhere else in it, so nothing before it can have a part in an earlier one. -/
theorem ofLine_marked (absent : ¬ marker <:+: Text.afterLast '"' lead) (h : '"' ∉ list) :
    ofLine (lead ++ (marker ++ list)) = ofCodes (list.splitOn ',') := by
  have noQuote : '"' ∉ marker ++ list := by
    rw [List.mem_append, not_or]
    exact ⟨by decide, h⟩
  have last : ' ' ∉ "---@ignore".toList := by decide
  have found : Text.afterMark? marker (Text.afterLast '"' lead ++ (marker ++ list)) = some list :=
    Text.afterMark?_behind last absent list
  rw [ofLine, Text.afterLast_append_of_not_mem _ noQuote, found]

/-! ### Written lists -/

theorem Lists.not_mem {q : Char} (solid : Text.isBlank q = false) (h : Lists ps cs)
    (free : ∀ c ∈ cs, q ∉ c) : ∀ p ∈ ps, q ∉ p := by
  induction h with
  | nil => simp
  | blank blank _ ih =>
    refine List.forall_mem_cons.mpr ⟨fun member => ?_, ih free⟩
    simp [blank q member] at solid
  | code padded _ ih =>
    obtain ⟨here, later⟩ := List.forall_mem_cons.mp free
    refine List.forall_mem_cons.mpr ⟨?_, ih later⟩
    rwa [Text.mem_padded_iff solid padded]

theorem Lists.trimmed (h : Lists ps cs) (codes : ∀ c ∈ cs, IsCode c) :
    ((ps.map Text.trim).filter fun t => !t.isEmpty) = cs := by
  induction h with
  | nil => rfl
  | blank blank _ ih =>
    rw [List.map_cons, Text.trim_eq_nil_iff.mpr blank, List.filter_cons_of_neg (by simp), ih codes]
  | code padded _ ih =>
    obtain ⟨here, later⟩ := List.forall_mem_cons.mp codes
    rw [List.map_cons, Text.trim_padded here.trimmed padded,
      List.filter_cons_of_pos (by simpa using here.named), ih later]

theorem Lists.splitOn_join (h : Lists ps cs) (codes : ∀ c ∈ cs, IsCode c) :
    ofCodes ((Text.join [','] ps).splitOn ',') = ⟨.ofList cs⟩ := by
  have noComma := h.not_mem (by decide) fun c member => (codes c member).noComma
  have read : ofCodes ps = ⟨.ofList cs⟩ := by rw [ofCodes, h.trimmed codes]
  by_cases none : ps = []
  · subst none
    exact read
  · rw [Text.join, List.splitOn_intercalate ',' noComma none, read]

/-- Lines with the same text behind the last quote suppress the same, so nothing quoted counts. What
a directive suppresses that is written behind a text without directive, which may end with any part
of one, is exactly what it lists. -/
theorem ofLine_written :
    (∀ line line' : Text, Text.afterLast '"' line = Text.afterLast '"' line' →
        ofLine line = ofLine line') ∧
      (∀ before after : Text, '"' ∉ after → ofLine (before ++ '"' :: after) = ofLine after) ∧
      ∀ (lead : Text) (parts codes : List Text), ¬ marker <:+: Text.afterLast '"' lead →
        (∀ c ∈ codes, IsCode c) → Lists parts codes →
          let line := lead ++ (marker ++ Text.join [','] parts)
          ofLine line = ⟨.ofList codes⟩ ∧ ∀ c, c ∈ (ofLine line).codes ↔ c ∈ codes := by
  refine ⟨fun line line' same => ?_, fun before _ free => ofLine_behind_quote before free, ?_⟩
  · rw [ofLine, same, ofLine]
  · intro lead parts codes absent codes_ok lists line
    have noQuote : '"' ∉ Text.join [','] parts := by
      intro quote
      rcases Text.mem_join quote with comma | ⟨part, member, inside⟩
      · cases comma
      · have free := lists.not_mem (by decide) fun c member => (codes_ok c member).noQuote
        exact free part member inside
    have read : ofLine line = ⟨.ofList codes⟩ :=
      (ofLine_marked absent noQuote).trans (lists.splitOn_join codes_ok)
    refine ⟨read, fun c => ?_⟩
    rw [read]
    exact TextSet.mem_ofList

theorem ofLine_written_behind_dashes :
    let lead := "K = \"---@ignore missing\", ---@ignore--".toList
    let parts := [" extra".toList, "\t".toList, "---@ignore x\u00a0".toList, [], "extra".toList]
    let codes := ["extra".toList, "---@ignore x".toList, "extra".toList]
    ¬ marker <:+: Text.afterLast '"' lead ∧ (∀ c ∈ codes, IsCode c) ∧ Lists parts codes ∧
      lead ++ (marker ++ Text.join [','] parts) =
        "K = \"---@ignore missing\", ---@ignore-----@ignore  extra,\t,---@ignore x\u00a0,,extra".toList ∧
      ofLine (lead ++ (marker ++ Text.join [','] parts)) =
        ⟨["---@ignore x".toList, "extra".toList]⟩ := by
  intro lead parts codes
  have absent : ¬ marker <:+: Text.afterLast '"' lead := by decide +kernel
  have codes_ok : ∀ c ∈ codes, IsCode c := by decide +kernel
  have lists : Lists parts codes := by
    refine .code ⟨[' '], [], ?_, ?_, rfl⟩ (.blank ?_ (.code ⟨[], ['\u00a0'], ?_, ?_, rfl⟩
      (.blank ?_ (.code ⟨[], [], ?_, ?_, rfl⟩ .nil)))) <;> simp [Text.isBlank]
  refine ⟨absent, codes_ok, lists, by decide +kernel, ?_⟩
  exact (ofLine_written.2.2 lead parts codes absent codes_ok lists).1.trans (by decide +kernel)

end LocaleLint.Suppression
