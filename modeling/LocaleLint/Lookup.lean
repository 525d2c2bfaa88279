namespace LocaleLint

variable {α β : Type} [BEq α] [LawfulBEq α] [DecidableEq α]

theorem lookup_cons_eq_ite (a : α) (e : α × β) (es : List (α × β)) :
    List.lookup a (e :: es) = if a = e.1 then some e.2 else es.lookup a := by
  obtain ⟨k, v⟩ := e
  rw [List.lookup_cons]
  by_cases h : a = k
  · rw [beq_iff_eq.2 h, if_pos h]
  · rw [beq_eq_false_iff_ne.2 h, if_neg h]

/-- Leaving out the pairs of one key does not touch other keys. -/
theorem lookup_filter_ne {a b : α} (es : List (α × β)) (h : b ≠ a) :
    (es.filter fun e => e.1 ≠ a).lookup b = es.lookup b := by
  induction es with
  | nil => rfl
  | cons e es ih =>
    by_cases he : e.1 = a
    · simp [he, lookup_cons_eq_ite, ← ih, h]
    · simp [he, lookup_cons_eq_ite, ← ih]

end LocaleLint
