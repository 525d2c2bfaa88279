import LocaleLint.Proofs.Text.Scan
import LocaleLint.Report

/-!
# Reading a machine-readable report

A warning can be read off its line field by field, and the warnings of a report line by line. So no
two lists of warnings have the same report.
-/

namespace LocaleLint

namespace Problem

theorem code_injective {p p' : Problem} (same : p.code = p'.code) : p = p' := by
  cases p <;> cases p' <;> first | rfl | exact absurd same (by decide)

theorem bracket_not_mem_code (p : Problem) : ']' ∉ p.code := by
  cases p <;> decide

theorem isLine_code (p : Problem) : Text.IsLine p.code := by
  cases p <;> decide

end Problem

namespace Warning

/-- Whether no field but the last can end at another place than its end, and no line either. -/
structure Readable (w : Warning) : Prop where
  locale : ',' ∉ w.locale ∧ '\n' ∉ w.locale
  group : ',' ∉ w.group ∧ '\n' ∉ w.group
  subject : '\n' ∉ w.subject

def lineField (line : Option Nat) : Text := (line.map Text.ofNat).getD []

variable {w v : Warning}

theorem isDigit_of_mem_lineField {line : Option Nat} {c : Char} (h : c ∈ lineField line) :
    c.isDigit = true := by
  cases line with
  | none => cases h
  | some n => exact Nat.isDigit_of_mem_toDigits (by decide) (by decide) h

theorem lineField_injective {line line' : Option Nat} (same : lineField line = lineField line') :
    line = line' := by
  have named (n : Nat) : lineField (some n) ≠ [] := Nat.toDigits_ne_nil
  cases line with
  | none =>
    cases line' with
    | none => rfl
    | some n => exact absurd same.symm (named n)
  | some m =>
    cases line' with
    | none => exact absurd same (named m)
    | some n =>
      have value (k : Nat) : Nat.ofDigitChars 10 (lineField (some k)) 0 = k :=
        Nat.ofDigitChars_ten_toDigits
      rw [← value m, same, value n]

theorem machineLine_eq (w : Warning) :
    w.machineLine = '[' :: (w.locale ++ ',' :: (w.group ++ ',' :: (lineField w.line ++ ',' ::
      (w.problem.code ++ ']' :: ' ' :: w.subject)))) := by
  simp [machineLine, lineField]

/-- What could end a line early comes from the parts that a warning does not word itself. -/
theorem mem_machineLine_iff {c : Char} (h : c = '\n' ∨ c = '\r') :
    c ∈ w.machineLine ↔ c ∈ w.locale ∨ c ∈ w.group ∨ c ∈ w.subject := by
  have digits : c ∉ lineField w.line := by
    intro member
    have digit := isDigit_of_mem_lineField member
    rcases h with rfl | rfl <;> exact absurd digit (by decide)
  have code : c ∉ w.problem.code := by
    rcases h with rfl | rfl
    · exact w.problem.isLine_code.1
    · exact w.problem.isLine_code.2
  rw [machineLine_eq]
  rcases h with rfl | rfl <;> simp [digits, code]

theorem not_mem_machineLine (h : w.Readable) : '\n' ∉ w.machineLine := by
  rw [mem_machineLine_iff (Or.inl rfl)]
  simp [h.locale.2, h.group.2, h.subject]

theorem isLine_machineLine (locale : Text.IsLine w.locale) (group : Text.IsLine w.group)
    (subject : Text.IsLine w.subject) : Text.IsLine w.machineLine := by
  unfold Text.IsLine
  rw [mem_machineLine_iff (Or.inl rfl), mem_machineLine_iff (Or.inr rfl)]
  simp [locale.1, locale.2, group.1, group.2, subject.1, subject.2]

theorem machineLine_injective (hw : w.Readable) (hv : v.Readable)
    (same : w.machineLine = v.machineLine) : w = v := by
  have digits (line : Option Nat) : ',' ∉ lineField line := fun member =>
    absurd (isDigit_of_mem_lineField member) (by decide)
  rw [machineLine_eq, machineLine_eq, List.cons.injEq] at same
  obtain ⟨locale, same⟩ := Text.append_cons_inj hw.locale.1 hv.locale.1 same.2
  obtain ⟨group, same⟩ := Text.append_cons_inj hw.group.1 hv.group.1 same
  obtain ⟨line, same⟩ := Text.append_cons_inj (digits w.line) (digits v.line) same
  obtain ⟨code, same⟩ :=
    Text.append_cons_inj w.problem.bracket_not_mem_code v.problem.bracket_not_mem_code same
  cases w
  cases v
  simp only [Warning.mk.injEq]
  exact ⟨Problem.code_injective code, locale, group, lineField_injective line,
    List.tail_eq_of_cons_eq same⟩

end Warning

namespace Report

variable {ws vs : List Warning}

theorem flatMap_line_injective {ls ks : List Text} (hl : ∀ l ∈ ls, '\n' ∉ l)
    (hk : ∀ k ∈ ks, '\n' ∉ k) (same : ls.flatMap line = ks.flatMap line) : ls = ks := by
  have first (l : Text) (ls : List Text) :
      (l :: ls).flatMap line = l ++ '\n' :: ls.flatMap line := by
    simp [line]
  induction ls generalizing ks with
  | nil =>
    cases ks with
    | nil => rfl
    | cons k ks => simp [first] at same
  | cons l ls ih =>
    cases ks with
    | nil => simp [first] at same
    | cons k ks =>
      obtain ⟨hl, hls⟩ := List.forall_mem_cons.mp hl
      obtain ⟨hk, hks⟩ := List.forall_mem_cons.mp hk
      rw [first, first] at same
      obtain ⟨rfl, rest⟩ := Text.append_cons_inj hl hk same
      rw [ih hls hks rest]

/-! ### The lines of a report -/

def machineLines (ws : List Warning) : List Text :=
  if ws = [] then ["OK".toList]
  else "Finished with warnings".toList :: ws.map Warning.machineLine

theorem foldl_add_machine (colour : Bool) (b : Body) (ws : List Warning) :
    (ws.foldl (Body.add colour .machine) b).parts.reverse.flatten =
      b.parts.reverse.flatten ++ (ws.map Warning.machineLine).flatMap line := by
  induction ws generalizing b with
  | nil => simp
  | cons w ws ih =>
    rw [List.foldl_cons, ih]
    simp [Body.add, Warning.render]

theorem ofWarnings_machine (colour : Bool) (ws : List Warning) :
    ofWarnings colour .machine ws = (machineLines ws).flatMap line := by
  unfold ofWarnings body machineLines
  rw [if_neg (by decide), foldl_add_machine]
  by_cases none : ws = []
  · rw [if_pos (by simpa using none), if_pos none]
    simp [Style.paint]
  · rw [if_neg (by simpa using none), if_neg none]
    rfl

theorem not_mem_machineLines (h : ∀ w ∈ ws, w.Readable) : ∀ l ∈ machineLines ws, '\n' ∉ l := by
  unfold machineLines
  split
  · decide
  · refine List.forall_mem_cons.mpr ⟨by decide, fun l member => ?_⟩
    obtain ⟨w, inside, rfl⟩ := List.mem_map.mp member
    exact Warning.not_mem_machineLine (h w inside)

theorem map_machineLine_injective (hw : ∀ w ∈ ws, w.Readable) (hv : ∀ v ∈ vs, v.Readable)
    (same : ws.map Warning.machineLine = vs.map Warning.machineLine) : ws = vs := by
  induction ws generalizing vs with
  | nil => exact (List.map_eq_nil_iff.mp same.symm).symm
  | cons w ws ih =>
    cases vs with
    | nil => cases same
    | cons v vs =>
      obtain ⟨hw, hws⟩ := List.forall_mem_cons.mp hw
      obtain ⟨hv, hvs⟩ := List.forall_mem_cons.mp hv
      obtain ⟨first, rest⟩ := List.cons.inj same
      rw [Warning.machineLine_injective hw hv first, ih hws hvs rest]

/-- The report without warnings begins with another letter than all others. -/
theorem ofWarnings_nil_ne (colour colour' : Bool) (some : ws ≠ []) :
    ofWarnings colour .machine [] ≠ ofWarnings colour' .machine ws := by
  rw [ofWarnings_machine, ofWarnings_machine, machineLines, machineLines, if_pos rfl, if_neg some]
  intro same
  exact absurd (congrArg List.head? same) (by simp [line])

/-- Two lists of warnings have the same machine-readable report only if they are equal. A report of
one warning or more has one line for each and one before them, and a report of none differs from all
of these. -/
theorem ofWarnings_reading {ws vs : List Warning} (hw : ∀ w ∈ ws, w.Readable)
    (hv : ∀ v ∈ vs, v.Readable) (colour colour' : Bool) :
    let text := ofWarnings colour .machine ws
    (text = ofWarnings colour' .machine vs → ws = vs) ∧
      (ws ≠ [] → ∃ ls : List Text, text = ls.flatMap line ∧ (∀ l ∈ ls, '\n' ∉ l) ∧
        ls.length = ws.length + 1) ∧
      ∀ us, us ≠ [] → ofWarnings colour .machine [] ≠ ofWarnings colour' .machine us := by
  intro text
  have lines : text = (machineLines ws).flatMap line := ofWarnings_machine colour ws
  refine ⟨fun same => ?_, fun some => ?_, fun us => ofWarnings_nil_ne colour colour'⟩
  · by_cases none : ws = []
    · by_contra different
      rw [none] at different
      exact ofWarnings_nil_ne colour colour' (Ne.symm different) (none ▸ same)
    · have some : vs ≠ [] := by
        rintro rfl
        exact ofWarnings_nil_ne colour' colour none same.symm
      rw [lines, ofWarnings_machine] at same
      have equal := flatMap_line_injective (not_mem_machineLines hw) (not_mem_machineLines hv) same
      rw [machineLines, machineLines, if_neg none, if_neg some] at equal
      exact map_machineLine_injective hw hv (List.tail_eq_of_cons_eq equal)
  · refine ⟨machineLines ws, lines, not_mem_machineLines hw, ?_⟩
    rw [machineLines, if_neg some, List.length_cons, List.length_map]

theorem ofWarnings_reading_brackets :
    let w : Warning := ⟨.extra, "F]R".toList, "[UI".toList, some 10, "] x,\r[FR,UI,2,extra] y".toList⟩
    let v : Warning := ⟨.missingFile, "F]R".toList, [], none, "_F]R".toList⟩
    (∀ x ∈ [w, v], x.Readable) ∧ (∀ x ∈ [v, w], x.Readable) ∧
      ofWarnings false .machine [w, v] ≠ ofWarnings true .machine [v, w] := by
  intro w v
  have first : w.Readable := ⟨by decide, by decide, by decide⟩
  have second : v.Readable := ⟨by decide, by decide, by decide⟩
  have forward : ∀ x ∈ [w, v], x.Readable := by simp [first, second]
  have backward : ∀ x ∈ [v, w], x.Readable := by simp [first, second]
  refine ⟨forward, backward, fun same => ?_⟩
  exact absurd ((ofWarnings_reading forward backward false true).1 same) (by decide)

end Report
end LocaleLint
