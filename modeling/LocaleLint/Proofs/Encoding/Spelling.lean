import LocaleLint.Proofs.Encoding.Assignment

/-!
# Spellings of labels

How separators, case and blanks of a label are written does not decide which encoding it selects.
All readings of a label that succeed find a standard label that is the same without separators, and
no two encodings have such labels.
-/

namespace LocaleLint

namespace Text

theorem isBlank_toLower (c : Char) : isBlank c.toLower = isBlank c := by
  have letter {d : Char} (low : 65 ≤ d.toNat) (high : d.toNat ≤ 122) : isBlank d = false := by
    simp only [isBlank, Bool.or_eq_false_iff, Bool.and_eq_false_iff, decide_eq_false_iff_not,
      beq_eq_false_iff_ne]
    omega
  unfold Char.toLower
  split
  · next capital =>
    obtain ⟨low, high⟩ : 65 ≤ c.toNat ∧ c.toNat ≤ 90 := capital
    have number : (c.val + ('a'.val - 'A'.val)).toNat = c.toNat + 32 := by
      have shift : ('a'.val - 'A'.val).toNat = 32 := rfl
      rw [UInt32.toNat_add, shift]
      change (c.toNat + 32) % 2 ^ 32 = c.toNat + 32
      omega
    have low' : 65 ≤ (c.val + ('a'.val - 'A'.val)).toNat := by omega
    have high' : (c.val + ('a'.val - 'A'.val)).toNat ≤ 122 := by omega
    rw [letter low (by omega)]
    exact letter low' high'
  · rfl

end Text

namespace Encoding

variable {label s t l k core : Text} {e f : Encoding}

def IsSolid (t : Text) : Prop := ∀ c ∈ t, Text.isBlank c = false

theorem isSolid_toLower_iff : IsSolid (Text.toLower t) ↔ IsSolid t := by
  simp only [IsSolid, Text.toLower, List.forall_mem_map, Text.isBlank_toLower]

theorem trim_of_isSolid (solid : IsSolid t) : Text.trim t = t :=
  Text.trim_eq_self_iff.mpr
    ⟨fun c first => solid c (List.mem_of_head? first),
      fun c last => solid c (List.mem_of_getLast? last)⟩

/-! ### Blanks around a label -/

theorem isBlank_of_isLabelBlank {c : Char} (h : isLabelBlank c = true) : Text.isBlank c = true := by
  simp only [isLabelBlank, Bool.or_eq_true, beq_iff_eq] at h
  rcases h with (((rfl | rfl) | rfl) | rfl) | rfl <;> decide

theorem isLabelBlank_toLower (c : Char) : isLabelBlank c.toLower = isLabelBlank c := by
  have same {d : Char} (h : d.isAlpha = false) : (c.toLower == d) = (c == d) := by
    rw [Bool.eq_iff_iff, beq_iff_eq, beq_iff_eq, Text.toLower_eq_iff h]
  simp only [isLabelBlank, same (d := '\t') (by decide), same (d := '\n') (by decide),
    same (d := '\x0c') (by decide), same (d := '\r') (by decide), same (d := ' ') (by decide)]

def stripped (t : Text) : Text :=
  ((t.dropWhile isLabelBlank).reverse.dropWhile isLabelBlank).reverse

theorem normalLabel_eq (label : Text) : normalLabel label = Text.toLower (stripped label) := rfl

theorem stripped_toLower (t : Text) : stripped (Text.toLower t) = Text.toLower (stripped t) := by
  have blanks : isLabelBlank ∘ Char.toLower = isLabelBlank := funext isLabelBlank_toLower
  simp only [stripped, Text.toLower, List.dropWhile_map, ← List.map_reverse, blanks]

/-- The case of a label does not matter. -/
theorem normalLabel_congr (same : Text.toLower s = Text.toLower t) :
    normalLabel s = normalLabel t := by
  rw [normalLabel_eq, normalLabel_eq, ← stripped_toLower, ← stripped_toLower, same]

theorem padded_stripped (t : Text) : Text.IsPadded isLabelBlank (stripped t) t := by
  have all (s : Text) : ∀ c ∈ s.takeWhile isLabelBlank, isLabelBlank c = true := fun _ =>
    List.mem_takeWhile_imp
  refine ⟨t.takeWhile isLabelBlank,
    ((t.dropWhile isLabelBlank).reverse.takeWhile isLabelBlank).reverse, all t,
    fun c member => all _ c (List.mem_reverse.mp member), ?_⟩
  rw [stripped, List.append_assoc, ← List.reverse_append, List.takeWhile_append_dropWhile,
    List.reverse_reverse, List.takeWhile_append_dropWhile]

theorem dropWhile_of_isSolid (named : core ≠ []) (solid : IsSolid core) (rest : Text) :
    (core ++ rest).dropWhile isLabelBlank = core ++ rest := by
  obtain ⟨c, more, rfl⟩ := List.exists_cons_of_ne_nil named
  have noBlank : ¬ isLabelBlank c = true := fun blank => by
    have other := solid c List.mem_cons_self
    rw [isBlank_of_isLabelBlank blank] at other
    cases other
  exact List.dropWhile_cons_of_neg noBlank

theorem stripped_padded (solid : IsSolid core) (h : Text.IsPadded isLabelBlank core t) :
    stripped t = core := by
  obtain ⟨before, after, front, back, rfl⟩ := h
  have back' : ∀ c ∈ after.reverse, isLabelBlank c = true := fun c member =>
    back c (List.mem_reverse.mp member)
  rw [stripped, List.append_assoc, List.dropWhile_append_of_pos front]
  by_cases named : core = []
  · rw [named, List.nil_append, List.dropWhile_eq_nil_iff.mpr back]
    rfl
  · have solid' : IsSolid core.reverse := fun c member => solid c (List.mem_reverse.mp member)
    have last := dropWhile_of_isSolid (by simpa using named) solid' []
    rw [List.append_nil] at last
    rw [dropWhile_of_isSolid named solid, List.reverse_append, List.dropWhile_append_of_pos back',
      last, List.reverse_reverse]

/-! ### Separators -/

theorem compact_compact (t : Text) : compact (compact t) = compact t := by
  simp [compact, List.filter_filter]

theorem compact_dashed (t : Text) : compact (dashed t) = compact t := by
  induction t with
  | nil => rfl
  | cons c t ih =>
    by_cases underscore : c = '_'
    · subst underscore
      exact ih
    · have kept : dashed (c :: t) = c :: dashed t := by simp [dashed, underscore]
      rw [kept, compact, compact, List.filter_cons, List.filter_cons, ← compact, ← compact, ih]

theorem compact_toLower (t : Text) : compact (Text.toLower t) = Text.toLower (compact t) := by
  have separator {c d : Char} (h : d.isAlpha = false) : (c.toLower != d) = (c != d) := by
    rw [Bool.eq_iff_iff, bne_iff_ne, bne_iff_ne]
    exact not_congr (Text.toLower_eq_iff h c)
  simp only [compact, Text.toLower, List.filter_map, Function.comp_def,
    separator (d := '-') (by decide), separator (d := '_') (by decide)]

theorem padded_compact (h : Text.IsPadded isLabelBlank core t) :
    Text.IsPadded isLabelBlank (compact core) (compact t) := by
  obtain ⟨before, after, front, back, rfl⟩ := h
  refine ⟨compact before, compact after, fun c member => front c (List.mem_of_mem_filter member),
    fun c member => back c (List.mem_of_mem_filter member), ?_⟩
  simp [compact]

/-- A label that has no blank but around it loses the blanks and the separators in any order. -/
theorem normalLabel_compact (solid : IsSolid (normalLabel t)) :
    normalLabel (compact t) = compact (normalLabel t) := by
  have inner : IsSolid (stripped t) := isSolid_toLower_iff.mp solid
  have inner' : IsSolid (compact (stripped t)) := fun c member =>
    inner c (List.mem_of_mem_filter member)
  rw [normalLabel_eq, stripped_padded inner' (padded_compact (padded_stripped t)), normalLabel_eq,
    compact_toLower]

theorem normalLabel_trim (solid : IsSolid (normalLabel t)) :
    normalLabel (Text.trim t) = normalLabel t := by
  have inner : IsSolid (stripped t) := isSolid_toLower_iff.mp solid
  obtain ⟨before, after, front, back, whole⟩ := padded_stripped t
  have padded : Text.IsPadded Text.isBlank (stripped t) t :=
    ⟨before, after, fun c member => isBlank_of_isLabelBlank (front c member),
      fun c member => isBlank_of_isLabelBlank (back c member), whole⟩
  have alone : Text.IsPadded isLabelBlank (stripped t) (stripped t) := ⟨[], [], by simp⟩
  rw [Text.trim_padded (trim_of_isSolid inner) padded, normalLabel_eq, stripped_padded inner alone,
    normalLabel_eq]

/-! ### The standard labels -/

/-- Whether a text is a label of an encoding in the Encoding Standard. -/
def IsLabelOf (l : Text) (e : Encoding) : Prop := ∃ x ∈ labels, x.1 = e ∧ ∃ k ∈ x.2, k.toList = l

theorem isLabelOf_of_ofStandardLabel? (h : ofStandardLabel? label = some e) :
    IsLabelOf (normalLabel label) e := by
  obtain ⟨x, found, same⟩ := Option.map_eq_some_iff.mp h
  have listed := List.find?_some found
  obtain ⟨k, member, equal⟩ := List.any_eq_true.mp listed
  exact ⟨x, List.mem_of_find?_eq_some found, same, k, member, beq_iff_eq.mp equal⟩

def number (t : Text) : Nat := t.foldl (fun n c => n * 256 + c.toNat) 0

def compactNumbers : List (Nat × Encoding) :=
  labels.flatMap fun x => x.2.map fun k => (number (compact k.toList), x.1)

def Agree (a b : Nat × Encoding) : Prop := a.1 = b.1 → a.2 = b.2

instance (a b : Nat × Encoding) : Decidable (Agree a b) := inferInstanceAs (Decidable (_ → _))

instance : Std.Symm Agree := ⟨fun _ _ agree same => (agree same.symm).symm⟩

/-- All pairs of labels are compared, which takes too long if they are texts. -/
theorem compactNumbers_agree : compactNumbers.Pairwise Agree := by decide +kernel

theorem labels_solid : ∀ x ∈ labels, ∀ k ∈ x.2, k.toList.all (!Text.isBlank ·) = true := by
  decide +kernel

theorem isSolid_of_isLabelOf (h : IsLabelOf l e) : IsSolid l := by
  obtain ⟨x, entry, -, k, member, rfl⟩ := h
  intro c inside
  simpa using List.all_eq_true.mp (labels_solid x entry k member) c inside

/-- Labels that are the same without separators are labels of one encoding. -/
theorem eq_of_compact (hl : IsLabelOf l e) (hk : IsLabelOf k f) (same : compact l = compact k) :
    e = f := by
  have listed {l : Text} {e : Encoding} (h : IsLabelOf l e) :
      (number (compact l), e) ∈ compactNumbers := by
    obtain ⟨x, entry, rfl, k, member, rfl⟩ := h
    exact List.mem_flatMap.mpr ⟨x, entry, List.mem_map_of_mem member⟩
  exact compactNumbers_agree.forall_of_forall (fun _ _ _ => rfl) (listed hl) (listed hk)
    (congrArg number same)

/-- The labels of which the two names without separators are spellings. -/
theorem isLabelOf_utf16 :
    IsLabelOf "utf-16le".toList .utf16le ∧ IsLabelOf "utf-16be".toList .utf16be := by
  have listed : (∃ x ∈ labels, x.1 = .utf16le ∧ "utf-16le" ∈ x.2) ∧
      ∃ x ∈ labels, x.1 = .utf16be ∧ "utf-16be" ∈ x.2 := by
    simp [labels]
  obtain ⟨⟨x, entry, le, inside⟩, ⟨y, entry', be, inside'⟩⟩ := listed
  exact ⟨⟨x, entry, le, _, inside, rfl⟩, ⟨y, entry', be, _, inside', rfl⟩⟩

theorem ofCompactName?_cases (h : ofCompactName? t = some e) :
    Text.toLower t = "utf16le".toList ∧ e = .utf16le ∨
      Text.toLower t = "utf16be".toList ∧ e = .utf16be := by
  unfold ofCompactName? at h
  split at h
  · next le =>
    cases h
    exact Or.inl ⟨le, rfl⟩
  · split at h
    · next be =>
      cases h
      exact Or.inr ⟨be, rfl⟩
    · cases h

/-! ### All readings of a label -/

/-- A label as it is compared with another spelling of it: trimmed, without separators and in small
letters. -/
def spelling (label : Text) : Text := Text.toLower (compact (Text.trim label))

/-- An encoding is selected through a standard label that is the same without separators. -/
theorem exists_standard (h : ofLabel? label = some e) :
    ∃ l, IsLabelOf l e ∧ compact l = normalLabel (compact (Text.trim label)) := by
  have standard {t : Text} (h : ofStandardLabel? t = some e) :
      ∃ l, IsLabelOf l e ∧ compact l = normalLabel (compact t) :=
    have known := isLabelOf_of_ofStandardLabel? h
    ⟨_, known, (normalLabel_compact (isSolid_of_isLabelOf known)).symm⟩
  rcases ofLabel?_cases h with plain | hyphens | joined | name
  · exact standard plain
  · rw [← compact_dashed]
    exact standard hyphens
  · rw [← compact_compact]
    exact standard joined
  · rcases ofCompactName?_cases name with ⟨small, rfl⟩ | ⟨small, rfl⟩
    · have normal := normalLabel_congr (t := "utf16le".toList) (small.trans (by decide +kernel))
      exact ⟨_, isLabelOf_utf16.1, (normal.trans (by decide +kernel)).symm⟩
    · have normal := normalLabel_congr (t := "utf16be".toList) (small.trans (by decide +kernel))
      exact ⟨_, isLabelOf_utf16.2, (normal.trans (by decide +kernel)).symm⟩

theorem ofStandardLabel?_congr (same : normalLabel s = normalLabel t) :
    ofStandardLabel? s = ofStandardLabel? t := by
  rw [ofStandardLabel?, same, ofStandardLabel?]

/-- Two labels that differ in blanks around them, separators and case select the same encoding if
both select one, and a label of the Encoding Standard selects the encoding that it has there. -/
theorem ofLabel?_spelling :
    (∀ s t e f, spelling s = spelling t → ofLabel? s = some e → ofLabel? t = some f → e = f) ∧
      ∀ label e, ofStandardLabel? label = some e → ofLabel? label = some e := by
  refine ⟨fun s t e f same hs ht => ?_, fun label e known => ?_⟩
  · obtain ⟨l, hl, shape⟩ := exists_standard hs
    obtain ⟨k, hk, shape'⟩ := exists_standard ht
    refine eq_of_compact hl hk ?_
    rw [shape, shape', normalLabel_congr same]
  · have solid := isSolid_of_isLabelOf (isLabelOf_of_ofStandardLabel? known)
    have trimmed : ofStandardLabel? (Text.trim label) = some e := by
      rw [← known, ofStandardLabel?_congr (normalLabel_trim solid)]
    rw [ofLabel?]
    simp only [trimmed, Option.some_or]

/-- A standard label in capitals, and the same with another separator and a no-break space. -/
theorem ofLabel?_spelling_big5 :
    let s := "Big5-HKSCS".toList
    let t := "BIG5_hkscs\u00a0".toList
    spelling s = spelling t ∧ ofStandardLabel? s = some (.multiByte .big5) ∧
      ofLabel? s = some (.multiByte .big5) ∧ ofLabel? t = ofLabel? s := by
  intro s t
  obtain ⟨one, standard⟩ := ofLabel?_spelling
  have same : spelling s = spelling t := by decide +kernel
  have known : ofStandardLabel? s = some (.multiByte .big5) := by decide +kernel
  have accepted : (ofLabel? t).isSome = true := by decide +kernel
  obtain ⟨e, ht⟩ := Option.isSome_iff_exists.mp accepted
  have hs := standard _ _ known
  refine ⟨same, known, hs, ?_⟩
  rw [hs, ht, one s t _ _ same hs ht]

end Encoding
end LocaleLint
