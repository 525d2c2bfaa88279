import LocaleLint.Proofs.Text.Scan
import LocaleLint.Table.Reader

/-!
# What a string table says

A reading of string tables that looks at each line together with the lines after it and keeps no
state. `ofText_eq_reading` shows that the reader finds exactly the records of this reading.
-/

namespace LocaleLint.Table

/-! ### What a line says by itself -/

def IsStart (t : Text) : Prop := '"' ∈ t ∧ '=' ∈ t

def HasComment (t : Text) : Prop := "--".toList <:+: t

/-- A blank line, or one with a comment mark, that starts no record. -/
def IsTerminator (t : Text) : Prop := ¬ IsStart t ∧ (t = [] ∨ HasComment t)

def IsFragment (t : Text) : Prop := ¬ IsStart t ∧ ¬ IsTerminator t

def IsOpen (t : Text) : Prop := "..".toList <:+ t

def IsReserved (key : Text) : Prop := ∃ p ∈ singleLinePrefixes, p <+: key

instance (t : Text) : Decidable (IsStart t) := inferInstanceAs (Decidable (_ ∧ _))

instance (t : Text) : Decidable (HasComment t) := inferInstanceAs (Decidable (_ <:+: _))

instance (t : Text) : Decidable (IsTerminator t) :=
  inferInstanceAs (Decidable (_ ∧ (_ ∨ _)))

instance (t : Text) : Decidable (IsFragment t) := inferInstanceAs (Decidable (_ ∧ _))

instance (t : Text) : Decidable (IsOpen t) := inferInstanceAs (Decidable (_ <:+ _))

instance (key : Text) : Decidable (IsReserved key) :=
  inferInstanceAs (Decidable (∃ p ∈ singleLinePrefixes, p <+: key))

def keyOf (t : Text) : Text := Text.trim (t.takeWhile (· != '='))

/-- The quoted part of what follows the first equals sign. -/
def valueOf (t : Text) : Text := quotedSpan (t.dropWhile (· != '=')).tail

/-- A line that goes on with a value and asks for more. -/
def extends? (t : Text) : Bool := IsFragment t ∧ IsOpen t

/-! ### Records -/

/-- The record of a value that is open before the lines `later`, the first of which has the number
`n`. The first line that does not ask for more decides: a record start or the end of the text
leaves no record, a terminator adds nothing to the value, and a fragment is its last part. -/
def closing (key value : Text) (n : Nat) (later : List Text) : Option Record :=
  let body := later.takeWhile extends?
  match later.dropWhile extends? with
  | [] => none
  | t :: _ =>
    if IsStart t then none
    else
      let parts := if IsTerminator t then body else body ++ [t]
      some ⟨key, value ++ parts.flatMap quotedSpan, n + body.length, .ofLine t⟩

/-- The record that line `n` starts, given the lines after it. -/
def recordOf (n : Nat) (t : Text) (later : List Text) : Option Record :=
  if ¬ IsStart t ∨ keyOf t = [] then none
  else if ¬ IsOpen t ∨ IsReserved (keyOf t) then some ⟨keyOf t, valueOf t, n, .ofLine t⟩
  else closing (keyOf t) (valueOf t) (n + 1) later

/-- The records that the lines start, in their order; the first line has the number `n`. -/
def recordsFrom (n : Nat) : List Text → List Record
  | [] => []
  | t :: later => (recordOf n t later).toList ++ recordsFrom (n + 1) later

theorem recordOf_other {t : Text} (h : ¬ IsStart t) (n : Nat) (later : List Text) :
    recordOf n t later = none := by
  rw [recordOf, if_pos (Or.inl h)]

theorem extends?_iff {t : Text} : extends? t = true ↔ IsFragment t ∧ IsOpen t := by
  simp [extends?]

theorem closing_cons (key value : Text) (n : Nat) (t : Text) (later : List Text) :
    closing key value n (t :: later) =
      if IsStart t then none
      else if IsTerminator t then some ⟨key, value, n, .ofLine t⟩
      else if IsOpen t then closing key (value ++ quotedSpan t) (n + 1) later
      else some ⟨key, value ++ quotedSpan t, n, .ofLine t⟩ := by
  by_cases more : extends? t = true
  · have parts : IsFragment t ∧ IsOpen t := extends?_iff.mp more
    rw [if_neg parts.1.1, if_neg parts.1.2, if_pos parts.2]
    unfold closing
    rw [List.takeWhile_cons_of_pos more, List.dropWhile_cons_of_pos more]
    dsimp only
    split
    · rfl
    · split
      · rfl
      · split <;> simp [Nat.add_assoc, Nat.add_comm 1]
  · unfold closing
    rw [List.takeWhile_cons_of_neg more, List.dropWhile_cons_of_neg more]
    dsimp only
    split
    · rfl
    · split
      · simp
      · next start terminator =>
        have shut : ¬ IsOpen t := fun isOpen => more (by simp [extends?, IsFragment, *])
        simp [shut]

/-- The first line that does not ask for more decides, so what follows it does not matter. -/
theorem closing_append_of_shut {later : List Text} (shut : ¬ ∀ l ∈ later, extends? l = true)
    (key value : Text) (n : Nat) (rest : List Text) :
    closing key value n (later ++ rest) = closing key value n later := by
  have ended : later.dropWhile extends? ≠ [] := fun none =>
    shut (List.dropWhile_eq_nil_iff.mp none)
  have short : (later.takeWhile extends?).length ≠ later.length := by
    have whole := congrArg List.length
      (List.takeWhile_append_dropWhile (p := extends?) (l := later))
    rw [List.length_append] at whole
    have some_left := List.length_pos_of_ne_nil ended
    omega
  unfold closing
  rw [List.takeWhile_append, if_neg short, List.dropWhile_append, if_neg (by simpa using shut)]
  obtain ⟨t, others, shape⟩ := List.exists_cons_of_ne_nil ended
  rw [shape, List.cons_append]

theorem closing_of_open {later : List Text} (more : ∀ l ∈ later, extends? l = true)
    (key value : Text) (n : Nat) : closing key value n later = none := by
  unfold closing
  rw [List.dropWhile_eq_nil_iff.mpr more]

theorem closing_place {key value : Text} {n : Nat} {later : List Text} {r : Record}
    (h : closing key value n later = some r) :
    r.key = key ∧ n ≤ r.line ∧ r.line < n + later.length := by
  have whole := congrArg List.length (List.takeWhile_append_dropWhile (p := extends?) (l := later))
  unfold closing at h
  dsimp only at h
  split at h
  · cases h
  · next t rest shape =>
    rw [shape, List.length_append, List.length_cons] at whole
    split at h
    · cases h
    · cases h
      exact ⟨rfl, Nat.le_add_right _ _, by dsimp only; omega⟩

theorem recordOf_place {n : Nat} {t : Text} {later : List Text} {r : Record}
    (h : recordOf n t later = some r) :
    r.key ≠ [] ∧ n ≤ r.line ∧ r.line < n + (t :: later).length := by
  rw [List.length_cons]
  unfold recordOf at h
  split at h
  · cases h
  · next named =>
    have key_ne : keyOf t ≠ [] := fun empty => named (Or.inr empty)
    split at h
    · cases h
      exact ⟨key_ne, Nat.le_refl _, by dsimp only; omega⟩
    · obtain ⟨key, first, last⟩ := closing_place h
      exact ⟨key ▸ key_ne, by omega, by omega⟩

theorem recordsFrom_place {n : Nat} {ls : List Text} {r : Record} (h : r ∈ recordsFrom n ls) :
    r.key ≠ [] ∧ n ≤ r.line ∧ r.line < n + ls.length := by
  induction ls generalizing n with
  | nil => cases h
  | cons t later ih =>
    rcases List.mem_append.mp h with here | after
    · exact recordOf_place (Option.mem_toList.mp here)
    · obtain ⟨key, first, last⟩ := ih after
      rw [List.length_cons]
      exact ⟨key, by omega, by omega⟩

theorem recordsFrom_others {ls : List Text} (other : ∀ l ∈ ls, ¬ IsStart l) (n : Nat)
    (rest : List Text) : recordsFrom n (ls ++ rest) = recordsFrom (n + ls.length) rest := by
  induction ls generalizing n with
  | nil => rfl
  | cons l ls ih =>
    obtain ⟨here, later⟩ := List.forall_mem_cons.mp other
    rw [List.cons_append, recordsFrom, recordOf_other here, ih later, List.length_cons,
      Nat.add_assoc, Nat.add_comm 1]
    rfl

theorem recordsFrom_eq_nil {ls : List Text} (other : ∀ l ∈ ls, ¬ IsStart l) (n : Nat) :
    recordsFrom n ls = [] := by
  have nothing := recordsFrom_others other n []
  rwa [List.append_nil] at nothing

/-- The lines up to the one that ends a record start no other. -/
theorem closing_before {key value : Text} {n : Nat} {later : List Text} {r : Record}
    (h : closing key value n later = some r) : ∀ x ∈ recordsFrom n later, r.line < x.line := by
  unfold closing at h
  dsimp only at h
  split at h
  · cases h
  · next t rest shape =>
    split at h
    · cases h
    · next last_other =>
      cases h
      have lines : later = (later.takeWhile extends? ++ [t]) ++ rest := by
        rw [List.append_assoc, List.singleton_append, ← shape, List.takeWhile_append_dropWhile]
      have others : ∀ l ∈ later.takeWhile extends? ++ [t], ¬ IsStart l := by
        intro l member
        rcases List.mem_append.mp member with body | last
        · exact (extends?_iff.mp (List.mem_takeWhile_imp body)).1.1
        · rwa [List.mem_singleton.mp last]
      intro x member
      rw [lines, recordsFrom_others others, List.length_append, List.length_singleton] at member
      have place : n + ((later.takeWhile extends?).length + 1) ≤ x.line :=
        (recordsFrom_place member).2.1
      show n + (later.takeWhile extends?).length < x.line
      omega

theorem recordOf_before {n : Nat} {t : Text} {later : List Text} {r : Record}
    (h : recordOf n t later = some r) : ∀ x ∈ recordsFrom (n + 1) later, r.line < x.line := by
  unfold recordOf at h
  split at h
  · cases h
  · split at h
    · cases h
      intro x member
      exact (recordsFrom_place member).2.1
    · exact closing_before h

theorem recordsFrom_ascending (n : Nat) (ls : List Text) :
    (recordsFrom n ls).Pairwise fun r x => r.line < x.line := by
  induction ls generalizing n with
  | nil => exact List.Pairwise.nil
  | cons t later ih =>
    rw [recordsFrom]
    cases found : recordOf n t later with
    | none => exact ih (n + 1)
    | some r => exact List.pairwise_cons.mpr ⟨recordOf_before found, ih (n + 1)⟩

/-! ### The tests of the reader -/

theorem Line.ofText_start {t : Text} (h : IsStart t) :
    Line.ofText t = .start (keyOf t) (valueOf t) := by
  have quote : t.contains '"' = true := by simpa using h.1
  simp only [Line.ofText, Text.afterFirst?_of_mem h.2, quote]
  rfl

theorem Line.ofText_other {t : Text} (h : ¬ IsStart t) :
    Line.ofText t = if IsTerminator t then .terminator else .fragment (quotedSpan t) := by
  have ends : (t.isEmpty || Text.has "--".toList t) = true ↔ IsTerminator t := by
    simp [IsTerminator, HasComment, h, Text.has_iff]
  have noStart : ∀ value, ¬ (Text.afterFirst? '=' t = some value ∧ t.contains '"' = true) := by
    rintro value ⟨found, quote⟩
    refine h ⟨by simpa using quote, Decidable.byContradiction fun absent => ?_⟩
    rw [Text.afterFirst?_of_not_mem absent] at found
    cases found
  unfold Line.ofText
  split
  · next value found quote => exact absurd ⟨found, quote⟩ (noStart value)
  · by_cases terminator : IsTerminator t
    · rw [if_pos (ends.mpr terminator), if_pos terminator]
    · rw [if_neg (fun isEnd => terminator (ends.mp isEnd)), if_neg terminator]

theorem continues_iff {t : Text} : continues t = true ↔ IsOpen t :=
  List.isSuffixOf_iff_suffix

theorem allowsContinuation_iff {key : Text} : allowsContinuation key = true ↔ ¬ IsReserved key := by
  simp [allowsContinuation, IsReserved]

/-! ### One line read -/

namespace Reader

def Allowed (r : Reader) : Prop := ∀ p ∈ r.pending, ¬ IsReserved p.key

/-- The record that the open value will give. -/
def promised (r : Reader) (n : Nat) (later : List Text) : Option Record :=
  r.pending.bind fun p => if p.key = [] then none else closing p.key p.value n later

/-- What the reader has found and what it will still find in the lines `later`. -/
def outlook (r : Reader) (later : List Text) : List Record :=
  r.finished.reverse ++ (r.promised (r.line + 1) later).toList ++ recordsFrom (r.line + 1) later

theorem finish_line (r : Reader) (p : Pending) (t : Text) : (r.finish p t).line = r.line := by
  unfold finish
  split <;> rfl

theorem finish_pending (r : Reader) (p : Pending) (t : Text) : (r.finish p t).pending = none := by
  unfold finish
  split <;> rfl

theorem finish_finished (r : Reader) (p : Pending) (t : Text) :
    (r.finish p t).finished.reverse = r.finished.reverse ++
      (if p.key = [] then none else some ⟨p.key, p.value, r.line, .ofLine t⟩ : Option Record).toList := by
  unfold finish
  by_cases empty : p.key = [] <;> simp [empty]

theorem take_start {t : Text} (r : Reader) (h : IsStart t) :
    r.take t = r.extend ⟨keyOf t, valueOf t⟩ t := by
  unfold take
  rw [Line.ofText_start h]

theorem take_terminator {t : Text} (r : Reader) (h : IsTerminator t) :
    r.take t = r.pending.elim r (r.finish · t) := by
  unfold take
  rw [Line.ofText_other h.1, if_pos h]
  cases r.pending <;> rfl

theorem take_fragment {t : Text} (r : Reader) (allowed : r.Allowed) (h : IsFragment t) :
    r.take t =
      r.extend { r.pending.getD {} with value := (r.pending.getD {}).value ++ quotedSpan t } t := by
  have free : allowsContinuation (r.pending.getD {}).key = true := by
    cases held : r.pending with
    | none => rfl
    | some p => exact allowsContinuation_iff.mpr (allowed p held)
  unfold take
  rw [Line.ofText_other h.1, if_neg h.2]
  dsimp only
  rw [if_pos free]

theorem extend_cases (r : Reader) (p : Pending) (t : Text) :
    (IsOpen t ∧ ¬ IsReserved p.key ∧ r.extend p t = { r with pending := some p }) ∨
      ((¬ IsOpen t ∨ IsReserved p.key) ∧ r.extend p t = r.finish p t) := by
  have test : (continues t && allowsContinuation p.key) = true ↔ IsOpen t ∧ ¬ IsReserved p.key := by
    rw [Bool.and_eq_true, continues_iff, allowsContinuation_iff]
  unfold extend
  by_cases more : IsOpen t ∧ ¬ IsReserved p.key
  · exact Or.inl ⟨more.1, more.2, if_pos (test.mpr more)⟩
  · refine Or.inr ⟨?_, if_neg (fun h => more (test.mp h))⟩
    by_cases isOpen : IsOpen t
    · exact Or.inr (Decidable.not_not.mp fun free => more ⟨isOpen, free⟩)
    · exact Or.inl isOpen

theorem finish_allowed (r : Reader) (p : Pending) (t : Text) : (r.finish p t).Allowed := by
  intro q held
  rw [finish_pending] at held
  cases held

theorem outlook_finish (r : Reader) (p : Pending) (t : Text) (later : List Text) :
    (r.finish p t).outlook later = r.finished.reverse ++
      (if p.key = [] then none else some ⟨p.key, p.value, r.line, .ofLine t⟩ : Option Record).toList ++
      recordsFrom (r.line + 1) later := by
  simp only [outlook, promised, finish_pending, finish_finished, finish_line, Option.bind_none,
    Option.toList_none, List.append_nil]

theorem outlook_hold (r : Reader) (p : Pending) (later : List Text) :
    { r with pending := some p }.outlook later = r.finished.reverse ++
      (if p.key = [] then none else closing p.key p.value (r.line + 1) later).toList ++
      recordsFrom (r.line + 1) later := rfl

theorem promised_start {t : Text} (r : Reader) (h : IsStart t) (n : Nat) (later : List Text) :
    r.promised n (t :: later) = none := by
  unfold promised
  cases r.pending with
  | none => rfl
  | some p => simp [closing_cons, h]

theorem promised_nil (r : Reader) (n : Nat) : r.promised n [] = none := by
  unfold promised
  cases r.pending with
  | none => rfl
  | some p => simp [closing]

theorem outlook_cons (r : Reader) (t : Text) (later : List Text) :
    r.outlook (t :: later) = r.finished.reverse ++ (r.promised (r.line + 1) (t :: later)).toList ++
      ((recordOf (r.line + 1) t later).toList ++ recordsFrom (r.line + 2) later) := rfl

def advance (r : Reader) (t : Text) : Reader := { r with line := r.line + 1 }.take t

/-- What has to hold of the reader after the line `t`: records move from what is still to be found
to what has been found, and none is lost or made up. -/
def Advances (r : Reader) (t : Text) (later : List Text) : Prop :=
  (r.advance t).Allowed ∧ (r.advance t).line = r.line + 1 ∧
    (r.advance t).outlook later = r.outlook (t :: later)

theorem advance_start {t : Text} (r : Reader) (h : IsStart t) (later : List Text) :
    r.Advances t later := by
  unfold Advances advance
  rw [take_start _ h, outlook_cons, promised_start r h]
  obtain ⟨isOpen, free, held⟩ | ⟨shut, ended⟩ :=
    extend_cases { r with line := r.line + 1 } ⟨keyOf t, valueOf t⟩ t
  · rw [held, outlook_hold]
    refine ⟨?_, rfl, ?_⟩
    · rintro p same
      cases same
      exact free
    · by_cases empty : keyOf t = []
      · simp [recordOf, empty]
      · have goesOn : ¬ (¬ IsOpen t ∨ IsReserved (keyOf t)) := by
          rintro (shut | reserved)
          · exact shut isOpen
          · exact free reserved
        simp [recordOf, h, empty, goesOn]
  · rw [ended, outlook_finish]
    refine ⟨finish_allowed _ _ _, finish_line _ _ _, ?_⟩
    by_cases empty : keyOf t = []
    · simp [recordOf, empty]
    · have closed : ¬ IsOpen t ∨ IsReserved (keyOf t) := shut
      simp [recordOf, h, empty, closed]

theorem advance_terminator {t : Text} (r : Reader) (h : IsTerminator t) (later : List Text) :
    r.Advances t later := by
  unfold Advances advance
  rw [take_terminator _ h, outlook_cons, recordOf_other h.1, promised]
  cases held : r.pending with
  | none => exact ⟨by simp [Allowed], rfl, by simp [outlook, promised]⟩
  | some p =>
    rw [Option.elim_some, outlook_finish]
    refine ⟨finish_allowed _ _ _, finish_line _ _ _, ?_⟩
    by_cases empty : p.key = [] <;> simp [empty, closing_cons, h, h.1]

theorem advance_fragment {t : Text} (r : Reader) (allowed : r.Allowed) (h : IsFragment t)
    (later : List Text) : r.Advances t later := by
  unfold Advances advance
  rw [take_fragment { r with line := r.line + 1 } allowed h, outlook_cons, recordOf_other h.1,
    promised]
  have free : ¬ IsReserved (r.pending.getD {}).key := by
    cases held : r.pending with
    | none => decide
    | some p => exact allowed p held
  have promise : (r.pending.bind fun p =>
      if p.key = [] then none else closing p.key p.value (r.line + 1) (t :: later)) =
      if (r.pending.getD {}).key = [] then none
      else closing (r.pending.getD {}).key (r.pending.getD {}).value (r.line + 1) (t :: later) := by
    cases r.pending <;> rfl
  rw [promise]
  -- A fragment without open record is as one that continues a record without key.
  generalize r.pending.getD {} = p at free ⊢
  obtain ⟨isOpen, -, held⟩ | ⟨shut, ended⟩ :=
    extend_cases { r with line := r.line + 1 } { p with value := p.value ++ quotedSpan t } t
  · rw [held, outlook_hold]
    refine ⟨?_, rfl, ?_⟩
    · rintro q same
      cases same
      exact free
    · by_cases empty : p.key = [] <;> simp [empty, closing_cons, h.1, h.2, isOpen]
  · rw [ended, outlook_finish]
    have closed : ¬ IsOpen t := shut.resolve_right free
    refine ⟨finish_allowed _ _ _, finish_line _ _ _, ?_⟩
    by_cases empty : p.key = [] <;> simp [empty, closing_cons, h.1, h.2, closed]

theorem advances (r : Reader) (allowed : r.Allowed) (t : Text) (later : List Text) :
    r.Advances t later := by
  by_cases start : IsStart t
  · exact advance_start r start later
  · by_cases terminator : IsTerminator t
    · exact advance_terminator r terminator later
    · exact advance_fragment r allowed ⟨start, terminator⟩ later

theorem foldl_advance (ts : List Text) (r : Reader) (allowed : r.Allowed) :
    (ts.foldl advance r).line = r.line + ts.length ∧
      (ts.foldl advance r).finished.reverse = r.outlook ts := by
  induction ts generalizing r with
  | nil => exact ⟨rfl, by simp [outlook, promised_nil, recordsFrom]⟩
  | cons t ts ih =>
    obtain ⟨allowed', line, same⟩ := advances r allowed t ts
    obtain ⟨count, found⟩ := ih (r.advance t) allowed'
    rw [List.foldl_cons, count, found, line, same]
    exact ⟨by simp [Nat.add_assoc, Nat.add_comm 1], rfl⟩

end Reader

/-! ### Whole tables -/

def body (text : Text) : List Text := (Text.lines text).tail.map Text.trim

theorem foldl_step (text : Text) :
    (Text.lines text).tail.foldl Reader.step {} = (body text).foldl Reader.advance {} := by
  rw [body, List.foldl_map]
  rfl

theorem allowed_new : ({} : Reader).Allowed := by
  rintro p held
  cases held

theorem records_ofText (text : Text) : (ofText text).records = recordsFrom 2 (body text) := by
  have found := (Reader.foldl_advance (body text) {} allowed_new).2
  rw [← foldl_step] at found
  exact found

theorem lineCount_ofText (text : Text) : (ofText text).lineCount = max 1 (Text.lines text).length := by
  have count := (Reader.foldl_advance (body text) {} allowed_new).1
  rw [← foldl_step] at count
  simp only [body, List.length_map, List.length_tail] at count
  change ((Text.lines text).tail.foldl Reader.step {}).line = _
  rw [count]
  omega

theorem record_place {text : Text} {r : Record} (h : r ∈ (ofText text).records) :
    r.key ≠ [] ∧ 2 ≤ r.line ∧ r.line ≤ (ofText text).lineCount := by
  rw [records_ofText] at h
  obtain ⟨key, first, last⟩ := recordsFrom_place h
  rw [body, List.length_map, List.length_tail] at last
  rw [lineCount_ofText]
  exact ⟨key, first, by omega⟩

theorem records_ascending (text : Text) :
    (ofText text).records.Pairwise fun r x => r.line < x.line := by
  rw [records_ofText]
  exact recordsFrom_ascending 2 (body text)

/-- The reader finds the records that the lines after the heading start, each read off its line and
the lines after it, and counts the lines of the text, a missing heading included. -/
theorem ofText_eq_reading (text : Text) :
    ofText text = ⟨recordsFrom 2 (body text), max 1 (Text.lines text).length⟩ := by
  rw [← records_ofText, ← lineCount_ofText]

end LocaleLint.Table
