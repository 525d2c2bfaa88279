import LocaleLint.Text.Lines
import Mathlib

namespace LocaleLint.Text

/-! ### First and last occurrence of a character -/

theorem afterFirst?_of_mem {q : Char} {s : Text} (h : q ∈ s) :
    afterFirst? q s = some (s.dropWhile (· != q)).tail := by
  induction s with
  | nil => exact absurd h List.not_mem_nil
  | cons c r ih =>
    unfold afterFirst?
    by_cases same : c = q
    · subst c
      simp
    · have later : q ∈ r := (List.mem_cons.mp h).resolve_left (Ne.symm same)
      rw [if_neg same, ih later, List.dropWhile_cons_of_pos (by simpa using same)]

theorem afterFirst?_of_not_mem {q : Char} {s : Text} (h : q ∉ s) : afterFirst? q s = none := by
  induction s with
  | nil => rfl
  | cons c r ih =>
    have head : c ≠ q := fun same => h (by simp [same])
    rw [afterFirst?, if_neg head, ih (fun later => h (List.mem_cons_of_mem _ later))]

theorem bne_of_not_mem {q : Char} {a : Text} (h : q ∉ a) : ∀ c ∈ a, (c != q) = true := by
  intro c member
  have different : c ≠ q := fun same => h (same ▸ member)
  simpa using different

theorem takeWhile_ne_append {q : Char} {a : Text} (b : Text) (h : q ∉ a) :
    (a ++ q :: b).takeWhile (· != q) = a := by
  rw [List.takeWhile_append_of_pos (bne_of_not_mem h)]
  simp

theorem dropWhile_ne_append {q : Char} {a : Text} (b : Text) (h : q ∉ a) :
    (a ++ q :: b).dropWhile (· != q) = q :: b := by
  rw [List.dropWhile_append_of_pos (bne_of_not_mem h)]
  simp

theorem takeWhile_ne_of_not_mem {q : Char} {a : Text} (h : q ∉ a) :
    a.takeWhile (· != q) = a :=
  List.takeWhile_eq_self_iff.mpr (bne_of_not_mem h)

theorem append_cons_inj {q : Char} {a b c d : Text} (ha : q ∉ a) (hc : q ∉ c)
    (same : a ++ q :: b = c ++ q :: d) : a = c ∧ b = d := by
  have front : a = c := by
    rw [← takeWhile_ne_append b ha, same, takeWhile_ne_append d hc]
  subst front
  exact ⟨rfl, List.tail_eq_of_cons_eq (List.append_cancel_left same)⟩

theorem eq_append_cons_last {q : Char} {s : Text} (h : q ∈ s) :
    ∃ front back, s = front ++ q :: back ∧ q ∉ back := by
  obtain ⟨back, front, whole, free⟩ := List.eq_append_cons_of_mem (List.mem_reverse.mpr h)
  refine ⟨front.reverse, back.reverse, ?_, by simpa using free⟩
  rw [← s.reverse_reverse, whole]
  simp

theorem afterFirst?_append {q : Char} {a : Text} (b : Text) (h : q ∉ a) :
    afterFirst? q (a ++ q :: b) = some b := by
  rw [afterFirst?_of_mem (by simp), dropWhile_ne_append b h, List.tail_cons]

theorem beforeLast?_append {q : Char} (a : Text) {b : Text} (h : q ∉ b) :
    beforeLast? q (a ++ q :: b) = some a := by
  have reversed : (a ++ q :: b).reverse = b.reverse ++ q :: a.reverse := by simp
  rw [beforeLast?, reversed, afterFirst?_append _ (by simpa using h)]
  simp

theorem beforeLast?_of_not_mem {q : Char} {s : Text} (h : q ∉ s) : beforeLast? q s = none := by
  rw [beforeLast?, afterFirst?_of_not_mem (by simpa using h), Option.map_none]

theorem afterLast_append {q : Char} (a : Text) {b : Text} (h : q ∉ b) :
    afterLast q (a ++ q :: b) = b := by
  have reversed : (a ++ q :: b).reverse = b.reverse ++ q :: a.reverse := by simp
  rw [afterLast, reversed, takeWhile_ne_append _ (by simpa using h), List.reverse_reverse]

theorem afterLast_of_not_mem {q : Char} {s : Text} (h : q ∉ s) : afterLast q s = s := by
  rw [afterLast, takeWhile_ne_of_not_mem (by simpa using h), List.reverse_reverse]

theorem not_mem_afterLast (q : Char) (s : Text) : q ∉ afterLast q s := by
  intro member
  have other := List.mem_takeWhile_imp (List.mem_reverse.mp member)
  simp at other

theorem afterLast_append_of_not_mem {q : Char} (a : Text) {b : Text} (h : q ∉ b) :
    afterLast q (a ++ b) = afterLast q a ++ b := by
  by_cases inside : q ∈ a
  · obtain ⟨front, back, rfl, free⟩ := eq_append_cons_last inside
    have free' : q ∉ back ++ b := by simp [free, h]
    rw [List.append_assoc, List.cons_append, afterLast_append _ free', afterLast_append _ free]
  · have free : q ∉ a ++ b := by simp [inside, h]
    rw [afterLast_of_not_mem free, afterLast_of_not_mem inside]

theorem afterFirst?_suffix {q : Char} {s r : Text} (h : afterFirst? q s = some r) : r <:+ s := by
  induction s with
  | nil => cases h
  | cons c s ih =>
    unfold afterFirst? at h
    split at h
    · cases h
      exact List.suffix_cons _ _
    · exact (ih h).trans (List.suffix_cons _ _)

theorem prefix_of_beforeLast? {q : Char} {s b : Text} (h : beforeLast? q s = some b) : b <+: s := by
  obtain ⟨r, found, rfl⟩ := Option.map_eq_some_iff.mp h
  have reversed : r.reverse.reverse <:+ s.reverse := by
    rw [List.reverse_reverse]
    exact afterFirst?_suffix found
  exact List.reverse_suffix.mp reversed

/-- No part between separators has a separator. -/
theorem not_mem_of_mem_splitOn {q : Char} {s part : Text} (h : part ∈ s.splitOn q) :
    q ∉ part := by
  induction len : s.length using Nat.strong_induction_on generalizing s with
  | _ n ih =>
    by_cases inside : q ∈ s
    · obtain ⟨front, back, rfl, free⟩ := List.eq_append_cons_of_mem inside
      rw [List.splitOn_append_cons_self, List.splitOn_eq_singleton free] at h
      rcases List.mem_append.mp h with first | later
      · rwa [List.mem_singleton.mp first]
      · refine ih back.length ?_ later rfl
        rw [← len, List.length_append, List.length_cons]
        omega
    · rw [List.splitOn_eq_singleton inside] at h
      rwa [List.mem_singleton.mp h]

theorem join_singleton (q : Char) (t : Text) : join [q] [t] = t :=
  List.intercalate_singleton

theorem join_cons_cons (q : Char) (t u : Text) (ts : List Text) :
    join [q] (t :: u :: ts) = t ++ q :: join [q] (u :: ts) := by
  simp [join, List.intercalate]

theorem mem_join {q c : Char} {ts : List Text} (h : c ∈ join [q] ts) :
    c = q ∨ ∃ t ∈ ts, c ∈ t := by
  induction ts with
  | nil => simp [join, List.intercalate] at h
  | cons t ts ih =>
    cases ts with
    | nil =>
      rw [join_singleton] at h
      exact Or.inr ⟨t, by simp, h⟩
    | cons u ts =>
      rw [join_cons_cons] at h
      rcases List.mem_append.mp h with front | back
      · exact Or.inr ⟨t, by simp, front⟩
      · rcases List.mem_cons.mp back with sep | rest
        · exact Or.inl sep
        · rcases ih rest with sep | ⟨v, member, inside⟩
          · exact Or.inl sep
          · exact Or.inr ⟨v, List.mem_cons_of_mem _ member, inside⟩

theorem subset_join {t : Text} {ts : List Text} (h : t ∈ ts) (q : Char) : t ⊆ join [q] ts := by
  induction ts with
  | nil => cases h
  | cons u ts ih =>
    cases ts with
    | nil => rw [List.mem_singleton.mp h, join_singleton]; exact List.Subset.refl u
    | cons v ts =>
      rw [join_cons_cons]
      rcases List.mem_cons.mp h with rfl | later
      · exact List.subset_append_left _ _
      · intro c inside
        exact List.mem_append_right _ (List.mem_cons_of_mem _ (ih later inside))

theorem subset_of_mem_splitOn {q : Char} {s part : Text} (h : part ∈ s.splitOn q) : part ⊆ s := by
  have whole : join [q] (s.splitOn q) = s := List.intercalate_splitOn q
  have inside := subset_join h q
  rwa [whole] at inside

/-! ### Marks -/

theorem afterMark?_append {mark : Text} (s : Text) (h : mark ≠ []) :
    afterMark? mark (mark ++ s) = some s := by
  cases mark with
  | nil => exact absurd rfl h
  | cons c r =>
    have found : (c :: r).isPrefixOf (c :: (r ++ s)) = true := by simp
    rw [List.cons_append, afterMark?, if_pos found]
    simp

theorem afterMark?_skip {mark : Text} {c : Char} {s : Text} (h : ¬ mark <+: c :: s) :
    afterMark? mark (c :: s) = afterMark? mark s := by
  rw [afterMark?, if_neg (by rwa [List.isPrefixOf_iff_prefix])]

theorem afterMark?_suffix {mark s r : Text} (h : afterMark? mark s = some r) : r <:+ s := by
  induction s with
  | nil =>
    unfold afterMark? at h
    split at h
    · cases h
      exact List.suffix_rfl
    · cases h
  | cons c s ih =>
    unfold afterMark? at h
    split at h
    · cases h
      exact List.drop_suffix _ _
    · exact (ih h).trans (List.suffix_cons _ _)

theorem has_iff {mark s : Text} : has mark s = true ↔ mark <:+: s := by
  induction s with
  | nil =>
    cases mark with
    | nil => exact ⟨fun _ => List.infix_rfl, fun _ => rfl⟩
    | cons c r => simp [has, afterMark?]
  | cons c r ih =>
    rw [List.infix_cons_iff, ← ih]
    by_cases found : mark <+: c :: r
    · simp [has, afterMark?, List.isPrefixOf_iff_prefix.mpr found, found]
    · rw [has, afterMark?_skip found, has]
      simp [found]

theorem prefix_across {mark a b : Text} {c : Char} (h : c ∉ mark) (found : mark <+: a ++ c :: b) :
    mark <+: a := by
  have whole : a ++ [c] <+: a ++ c :: b := ⟨b, by simp⟩
  by_cases short : mark.length ≤ a.length
  · exact List.prefix_of_prefix_length_le found (List.prefix_append _ _) short
  · have long : a ++ [c] <+: mark :=
      List.prefix_of_prefix_length_le whole found (by simp; omega)
    exact absurd (long.subset (by simp)) h

/-- A mark does not reach across a character that it does not have. -/
theorem infix_across {mark a b : Text} {c : Char} (h : c ∉ mark) :
    mark <:+: a ++ c :: b ↔ mark <:+: a ∨ mark <:+: b := by
  constructor
  · intro found
    induction a with
    | nil =>
      rcases List.infix_cons_iff.mp found with front | later
      · exact Or.inl (prefix_across (a := []) h front).isInfix
      · exact Or.inr later
    | cons d a ih =>
      rcases List.infix_cons_iff.mp found with front | later
      · exact Or.inl (prefix_across (a := d :: a) h front).isInfix
      · exact (ih later).imp_left fun inside => List.infix_cons_iff.mpr (Or.inr inside)
  · rintro (left | right)
    · exact List.infix_append_of_infix_left left
    · exact List.infix_append_of_infix_right (List.infix_cons_iff.mpr (Or.inr right))

theorem suffix_across {mark a b : Text} {c : Char} (h : c ∉ mark) (found : mark <:+ a ++ c :: b) :
    mark <:+ b := by
  have reversed : mark.reverse <+: b.reverse ++ c :: a.reverse := by
    simpa using List.reverse_prefix.mpr found
  exact List.reverse_prefix.mp (prefix_across (by simpa using h) reversed)

/-- A mark whose last character stands nowhere else in it does not overlap with itself: in front of
one occurrence another can only begin if it ends there too. -/
theorem prefix_of_mark {m a s : Text} {c : Char} (last : c ∉ m) (nonempty : a ≠ [])
    (found : m ++ [c] <+: a ++ (m ++ c :: s)) : m ++ [c] <+: a := by
  obtain ⟨rest, whole⟩ := found
  rw [List.append_assoc, List.singleton_append] at whole
  by_cases inside : c ∈ a
  · obtain ⟨front, back, rfl, free⟩ := List.eq_append_cons_of_mem inside
    rw [List.append_assoc, List.cons_append] at whole
    obtain ⟨rfl, -⟩ := append_cons_inj last free whole
    exact ⟨back, by simp⟩
  · -- The two occurrences end at the same place, so nothing stands in front of the later one.
    have free : c ∉ a ++ m := by simp [inside, last]
    rw [← List.append_assoc] at whole
    obtain ⟨same, -⟩ := append_cons_inj last free whole
    exact absurd (List.self_eq_append_left.mp same) nonempty

/-- Such a mark is found where it was put behind a text without it, whatever this text ends with. -/
theorem afterMark?_behind {m a : Text} {c : Char} (last : c ∉ m) (absent : ¬ m ++ [c] <:+: a)
    (s : Text) : afterMark? (m ++ [c]) (a ++ (m ++ c :: s)) = some s := by
  induction a with
  | nil =>
    have shape : m ++ c :: s = (m ++ [c]) ++ s := by simp
    rw [List.nil_append, shape, afterMark?_append s (by simp)]
  | cons d a ih =>
    have later : ¬ m ++ [c] <:+: a := fun found => absent (List.infix_cons found)
    rw [List.cons_append, afterMark?_skip, ih later]
    intro found
    exact absent (prefix_of_mark last (List.cons_ne_nil d a) found).isInfix

/-! ### Trimming -/

theorem trimLeft_append_of_blank {b : Text} (s : Text) (blank : ∀ c ∈ b, isBlank c = true) :
    trimLeft (b ++ s) = trimLeft s :=
  List.dropWhile_append_of_pos blank

theorem trimLeft_suffix (s : Text) : trimLeft s <:+ s := List.dropWhile_suffix _

theorem trimLeft_eq_self_iff {s : Text} : trimLeft s = s ↔ ∀ c ∈ s.head?, isBlank c = false := by
  cases s with
  | nil => simp [trimLeft]
  | cons c r =>
    cases blank : isBlank c with
    | false => simp [trimLeft, blank]
    | true =>
      have shorter := (trimLeft_suffix r).length_le
      have other : trimLeft (c :: r) ≠ c :: r := by
        intro same
        have dropped : trimLeft (c :: r) = trimLeft r := by simp [trimLeft, blank]
        rw [dropped] at same
        have long := congrArg List.length same
        rw [List.length_cons] at long
        omega
      simp [other, blank]

theorem trim_eq_self_iff {s : Text} :
    trim s = s ↔
      (∀ c ∈ s.head?, isBlank c = false) ∧ ∀ c ∈ s.getLast?, isBlank c = false := by
  rw [← trimLeft_eq_self_iff, ← List.head?_reverse, ← trimLeft_eq_self_iff]
  constructor
  · intro same
    have first := (trimLeft_suffix s).length_le
    have second := (trimLeft_suffix (trimLeft s).reverse).length_le
    have whole := congrArg List.length same
    rw [trim, List.length_reverse] at whole
    rw [List.length_reverse] at second
    have front : trimLeft s = s := (trimLeft_suffix s).eq_of_length (by omega)
    rw [trim, front] at same
    exact ⟨front, List.reverse_inj.mp (by rw [same, List.reverse_reverse])⟩
  · rintro ⟨front, back⟩
    rw [trim, front, back, List.reverse_reverse]

theorem trim_blank_append {b : Text} (s : Text) (blank : ∀ c ∈ b, isBlank c = true) :
    trim (b ++ s) = trim s := by
  rw [trim, trimLeft_append_of_blank s blank, trim]

theorem trim_append_of_blank {b : Text} (s : Text) (blank : ∀ c ∈ b, isBlank c = true) :
    trim (s ++ b) = trim s := by
  have reversed : ∀ c ∈ b.reverse, isBlank c = true := fun c member =>
    blank c (List.mem_reverse.mp member)
  by_cases nothing : trimLeft s = []
  · have all : ∀ c ∈ s, isBlank c = true := by
      simpa [trimLeft, List.dropWhile_eq_nil_iff] using nothing
    have more : trimLeft (s ++ b) = [] := by
      rw [trimLeft_append_of_blank b all]
      simpa [trimLeft, List.dropWhile_eq_nil_iff] using blank
    rw [trim, trim, more, nothing]
  · have kept : trimLeft (s ++ b) = trimLeft s ++ b := by
      unfold trimLeft at nothing ⊢
      rw [List.dropWhile_append, if_neg (by simpa using nothing)]
    rw [trim, trim, kept, List.reverse_append, trimLeft_append_of_blank _ reversed]

theorem head?_trimLeft {s : Text} : ∀ c ∈ (trimLeft s).head?, isBlank c = false := by
  intro c first
  have shut := List.head?_dropWhile_not isBlank s
  rw [show (List.dropWhile isBlank s).head? = some c from first] at shut
  simpa using shut

theorem trim_trim (s : Text) : trim (trim s) = trim s := by
  refine trim_eq_self_iff.mpr ⟨fun c first => ?_, fun c last => ?_⟩
  · have front : trim s <+: trimLeft s := by
      rw [trim, ← List.reverse_suffix, List.reverse_reverse]
      exact trimLeft_suffix _
    obtain ⟨more, whole⟩ := front
    have head : (trimLeft s).head? = some c := by
      rw [← whole, List.head?_append, Option.mem_def.mp first, Option.some_or]
    exact head?_trimLeft c head
  · rw [trim, List.getLast?_reverse] at last
    exact head?_trimLeft c last

theorem mem_dropWhile_iff {p : Char → Bool} {c : Char} (h : p c = false) {s : Text} :
    c ∈ s.dropWhile p ↔ c ∈ s := by
  induction s with
  | nil => simp
  | cons d s ih =>
    rw [List.dropWhile_cons]
    split
    · next dropped =>
      have other : c ≠ d := fun same => by simp [← same, h] at dropped
      rw [ih, List.mem_cons, or_iff_right other]
    · rfl

theorem mem_trim_iff {c : Char} (h : isBlank c = false) {s : Text} : c ∈ trim s ↔ c ∈ s := by
  rw [trim, List.mem_reverse, trimLeft, mem_dropWhile_iff h, List.mem_reverse, trimLeft,
    mem_dropWhile_iff h]

theorem trim_eq_nil_iff {s : Text} : trim s = [] ↔ ∀ c ∈ s, isBlank c = true := by
  constructor
  · intro nothing c member
    by_contra solid
    have inside := (mem_trim_iff (Bool.eq_false_iff.mpr solid)).mpr member
    rw [nothing] at inside
    cases inside
  · intro blank
    have alone := trim_append_of_blank [] blank
    rwa [List.nil_append] at alone

theorem trim_subset (s : Text) : trim s ⊆ s := by
  intro c member
  rw [trim, List.mem_reverse] at member
  have inner := List.mem_reverse.mp ((trimLeft_suffix _).subset member)
  exact (trimLeft_suffix s).subset inner

/-- Whether a text is another one with blanks around it. -/
def IsPadded (blank : Char → Bool) (core t : Text) : Prop :=
  ∃ before after, (∀ c ∈ before, blank c = true) ∧ (∀ c ∈ after, blank c = true) ∧
    t = before ++ core ++ after

theorem trim_padded {core t : Text} (trimmed : trim core = core) (h : IsPadded isBlank core t) :
    trim t = core := by
  obtain ⟨before, after, front, back, rfl⟩ := h
  rw [trim_append_of_blank _ back, trim_blank_append _ front, trimmed]

theorem mem_padded_iff {blank : Char → Bool} {core t : Text} {c : Char} (other : blank c = false)
    (h : IsPadded blank core t) : c ∈ t ↔ c ∈ core := by
  obtain ⟨before, after, front, back, rfl⟩ := h
  have outside {b : Text} (all : ∀ d ∈ b, blank d = true) : c ∉ b := fun member => by
    simp [all c member] at other
  simp [outside front, outside back]

/-! ### Case -/

theorem toLower_eq_iff {c : Char} (h : c.isAlpha = false) (d : Char) : d.toLower = c ↔ d = c := by
  obtain ⟨noCapital, noSmall⟩ :
      ¬ (65 ≤ c.toNat ∧ c.toNat ≤ 90) ∧ ¬ (97 ≤ c.toNat ∧ c.toNat ≤ 122) := by
    simpa [Char.isAlpha, Char.isUpper, Char.isLower, UInt32.le_iff_toNat_le] using h
  unfold Char.toLower
  split
  · next capital =>
    obtain ⟨low, high⟩ : 65 ≤ d.toNat ∧ d.toNat ≤ 90 := capital
    have apart : d ≠ c := by
      rintro rfl
      exact noCapital ⟨low, high⟩
    refine iff_of_false (fun same => noSmall ?_) apart
    have number : (d.val + ('a'.val - 'A'.val)).toNat = c.toNat := congrArg Char.toNat same
    have shift : ('a'.val - 'A'.val).toNat = 32 := rfl
    rw [UInt32.toNat_add, shift] at number
    change (d.toNat + 32) % 2 ^ 32 = c.toNat at number
    omega
  · rfl

theorem mem_toLower_iff {c : Char} (h : c.isAlpha = false) {s : Text} :
    c ∈ toLower s ↔ c ∈ s := by
  simp only [toLower, List.mem_map, toLower_eq_iff h, exists_eq_right]

/-! ### Lines -/

def IsLine (t : Text) : Prop := '\n' ∉ t ∧ '\r' ∉ t

instance (t : Text) : Decidable (IsLine t) := inferInstanceAs (Decidable (_ ∧ _))

theorem isLine_append {a b : Text} : IsLine (a ++ b) ↔ IsLine a ∧ IsLine b := by
  simp only [IsLine, List.mem_append, not_or]
  exact and_and_and_comm

theorem IsLine.mono {a b : Text} (inside : a ⊆ b) (h : IsLine b) : IsLine a :=
  ⟨fun lf => h.1 (inside lf), fun cr => h.2 (inside cr)⟩

def ofLines (ls : List Text) : Text := ls.flatMap (· ++ ['\n'])

theorem lines_append_lf {l : Text} (h : IsLine l) (r : Text) :
    lines (l ++ '\n' :: r) = l :: lines r := by
  induction l with
  | nil => exact lines_lf r
  | cons c l ih =>
    obtain ⟨lf, cr⟩ := h
    simp only [List.mem_cons, not_or] at lf cr
    rw [List.cons_append, lines_cons (Ne.symm lf.1) (Ne.symm cr.1), ih ⟨lf.2, cr.2⟩]
    rfl

theorem lines_ofLines {ls : List Text} (h : ∀ l ∈ ls, IsLine l) : lines (ofLines ls) = ls := by
  induction ls with
  | nil => rfl
  | cons l ls ih =>
    have split : ofLines (l :: ls) = l ++ '\n' :: ofLines ls := by simp [ofLines]
    rw [split, lines_append_lf (h l List.mem_cons_self),
      ih fun k member => h k (List.mem_cons_of_mem _ member)]

theorem consLine_ne_nil (c : Char) (ls : List Text) : consLine c ls ≠ [] := by
  cases ls <;> exact List.cons_ne_nil _ _

theorem consLine_append {ls : List Text} (h : ls ≠ []) (c : Char) (more : List Text) :
    consLine c (ls ++ more) = consLine c ls ++ more := by
  cases ls with
  | nil => exact absurd rfl h
  | cons l ls => rfl

theorem lines_ne_nil {s : Text} (h : s ≠ []) : lines s ≠ [] := by
  obtain ⟨c, r, rfl⟩ := List.exists_cons_of_ne_nil h
  by_cases lf : c = '\n'
  · rw [lf, lines_lf]
    exact List.cons_ne_nil _ _
  · by_cases cr : c = '\r'
    · subst cr
      by_cases next : r.head? = some '\n'
      · obtain ⟨rest, rfl⟩ := List.head?_eq_some_iff.mp next
        rw [lines_crlf]
        exact List.cons_ne_nil _ _
      · rw [lines_cr next]
        exact List.cons_ne_nil _ _
    · rw [lines_cons lf cr]
      exact consLine_ne_nil _ _

/-- Two more LF end a text with blank lines: one behind the last line, and another when LF ended
this line already. -/
theorem lines_append_blank {s : Text} (h : s ≠ []) :
    ∃ k, lines (s ++ "\n\n".toList) = lines s ++ List.replicate (k + 1) [] := by
  induction s with
  | nil => exact absurd rfl h
  | cons c r ih =>
    by_cases single : r = []
    · subst single
      by_cases lf : c = '\n'
      · exact ⟨1, by subst lf; rfl⟩
      · by_cases cr : c = '\r'
        · exact ⟨0, by subst cr; rfl⟩
        · refine ⟨0, ?_⟩
          rw [List.cons_append, lines_cons lf cr, lines_cons lf cr]
          rfl
    · obtain ⟨k, rest⟩ := ih single
      refine ⟨k, ?_⟩
      have same : (r ++ "\n\n".toList).head? = r.head? := List.head?_append_of_ne_nil _ single
      by_cases lf : c = '\n'
      · rw [lf, List.cons_append, lines_lf, lines_lf, rest, List.cons_append]
      · by_cases cr : c = '\r'
        · subst cr
          by_cases next : r.head? = some '\n'
          · obtain ⟨tail, rfl⟩ := List.head?_eq_some_iff.mp next
            rw [List.cons_append, List.cons_append, lines_crlf, lines_crlf, ← lines_lf,
              ← List.cons_append, rest, lines_lf]
          · rw [List.cons_append, lines_cr next, lines_cr (by rwa [same]), rest, List.cons_append]
        · rw [List.cons_append, lines_cons lf cr, lines_cons lf cr, rest,
            consLine_append (lines_ne_nil single)]

end LocaleLint.Text
