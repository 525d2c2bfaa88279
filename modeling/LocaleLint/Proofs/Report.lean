import LocaleLint.Report
import Mathlib.Data.List.Induction

/-!
# Headings of a report

A report for people is a sequence of headings and messages, and a message is read under the last
heading above it. This is the heading of its own locale, for all of them, if and only if the
warnings of each locale come in one piece.
-/

namespace LocaleLint.Report

inductive Piece where
  | heading (locale : Text)
  | message (w : Warning)
  deriving DecidableEq, Repr

namespace Piece

def text (colour : Bool) : Piece → Text
  | heading locale => Report.heading colour locale
  | message w => line (w.render .human)

def heading? : Piece → Option Text
  | heading locale => some locale
  | message _ => none

def message? : Piece → Option Warning
  | heading _ => none
  | message w => some w

end Piece

def opening (seen : List Text) (locale : Text) : List Piece :=
  if locale ∈ seen then [] else [.heading locale]

/-- What is written of warnings when the given locales have their heading. -/
def pieces (seen : List Text) : List Warning → List Piece
  | [] => []
  | w :: ws => opening seen w.locale ++ .message w :: pieces (w.locale :: seen) ws

def headings (ps : List Piece) : List Text := ps.filterMap Piece.heading?

/-- Whether each message has the heading of its own locale as the last one above it. -/
def Attributed (ps : List Piece) : Prop :=
  ∀ above w below, ps = above ++ .message w :: below → (headings above).getLast? = some w.locale

/-- Whether no locale comes back after another. -/
def Grouped (locales : List Text) : Prop :=
  ∀ before locale after, locales = before ++ locale :: after →
    locale ∈ before → before.getLast? = some locale

variable {seen : List Text} {ws : List Warning} {w : Warning} {ps : List Piece}

/-! ### The text -/

theorem body_pieces (colour : Bool) (b : Body) (ws : List Warning) :
    (ws.foldl (Body.add colour .human) b).parts.reverse.flatten =
      b.parts.reverse.flatten ++ (pieces b.seen ws).flatMap (Piece.text colour) := by
  induction ws generalizing b with
  | nil => simp [pieces]
  | cons w ws ih =>
    rw [List.foldl_cons, ih]
    by_cases known : w.locale ∈ b.seen <;> simp [Body.add, pieces, opening, known, Piece.text]

theorem ofWarnings_human (colour : Bool) (some : ws ≠ []) :
    ofWarnings colour .human ws =
      line "Finished with warnings".toList ++ (pieces [] ws).flatMap (Piece.text colour) := by
  unfold ofWarnings body
  rw [if_neg (by decide), if_neg (by simpa using some), body_pieces]
  rfl

theorem messages_pieces (seen : List Text) (ws : List Warning) :
    (pieces seen ws).filterMap Piece.message? = ws := by
  induction ws generalizing seen with
  | nil => rfl
  | cons w ws ih =>
    have plain : (opening seen w.locale).filterMap Piece.message? = [] := by
      unfold opening
      split <;> rfl
    rw [pieces, List.filterMap_append, plain, List.nil_append]
    exact congrArg (w :: ·) (ih _)

/-! ### One more warning -/

theorem pieces_append (seen : List Text) (ws vs : List Warning) :
    pieces seen (ws ++ vs) =
      pieces seen ws ++ pieces ((ws.map (·.locale)).reverse ++ seen) vs := by
  induction ws generalizing seen with
  | nil => rfl
  | cons w ws ih => simp [pieces, ih]

theorem pieces_snoc (ws : List Warning) (w : Warning) :
    pieces [] (ws ++ [w]) =
      pieces [] ws ++ opening (ws.map (·.locale)) w.locale ++ [.message w] := by
  simp [pieces_append, pieces, opening]

@[simp] theorem headings_append (ps qs : List Piece) :
    headings (ps ++ qs) = headings ps ++ headings qs :=
  List.filterMap_append

@[simp] theorem headings_message (w : Warning) : headings [.message w] = [] := rfl

@[simp] theorem headings_opening (seen : List Text) (locale : Text) :
    headings (opening seen locale) = if locale ∈ seen then [] else [locale] := by
  unfold opening
  split <;> rfl

/-- Each locale has one heading, where it first comes up. -/
theorem headings_pieces (ws : List Warning) :
    headings (pieces [] ws) = (ws.map (·.locale)).eraseDups := by
  induction ws using List.reverseRecOn with
  | nil => rfl
  | append_singleton ws w ih =>
    have more (l : Text) (ls : List Text) : [l].removeAll ls = if l ∈ ls then [] else [l] := by
      by_cases known : l ∈ ls <;> simp [List.removeAll, known]
    rw [pieces_snoc, headings_append, headings_append, headings_opening, headings_message,
      List.append_nil, ih, List.map_append, List.map_singleton, List.eraseDups_append, more]
    split <;> rfl

/-- A place in a list with a last element is this element or a place before it. -/
theorem split_snoc {α : Type} {before after xs : List α} {x last : α}
    (h : xs ++ [last] = before ++ x :: after) :
    (before = xs ∧ x = last) ∨ ∃ rest, xs = before ++ x :: rest := by
  obtain ⟨rest, front, tail⟩ | ⟨rest, front, tail⟩ := List.append_eq_append_iff.mp h
  · cases rest with
    | nil =>
      rw [List.nil_append, List.cons.injEq] at tail
      exact Or.inl ⟨by simpa using front, tail.1.symm⟩
    | cons y rest => simp at tail
  · cases rest with
    | nil =>
      rw [List.nil_append, List.cons.injEq] at tail
      exact Or.inl ⟨by simpa using front.symm, tail.1⟩
    | cons y rest =>
      rw [List.cons_append, List.cons.injEq] at tail
      exact Or.inr ⟨rest, by rw [front, tail.1]⟩

theorem attributed_snoc :
    Attributed (ps ++ [.message w]) ↔
      Attributed ps ∧ (headings ps).getLast? = some w.locale := by
  constructor
  · intro h
    refine ⟨fun above v below split => ?_, h ps w [] rfl⟩
    exact h above v (below ++ [.message w]) (by simp [split])
  · rintro ⟨earlier, here⟩ above v below split
    obtain ⟨rfl, same⟩ | ⟨rest, inside⟩ := split_snoc split
    · cases same
      exact here
    · exact earlier above v rest inside

theorem attributed_opening {locale : Text} :
    Attributed (ps ++ opening seen locale) ↔ Attributed ps := by
  unfold opening
  split
  · rw [List.append_nil]
  · constructor
    · intro h above v below split
      exact h above v (below ++ [.heading locale]) (by simp [split])
    · intro earlier above v below split
      obtain ⟨-, other⟩ | ⟨rest, inside⟩ := split_snoc split
      · cases other
      · exact earlier above v rest inside

theorem grouped_nil : Grouped [] := by simp [Grouped]

theorem grouped_snoc {locales : List Text} {locale : Text} :
    Grouped (locales ++ [locale]) ↔
      Grouped locales ∧ (locale ∈ locales → locales.getLast? = some locale) := by
  constructor
  · intro h
    refine ⟨fun before l after split => ?_, h locales locale [] rfl⟩
    exact h before l (after ++ [locale]) (by simp [split])
  · rintro ⟨earlier, here⟩ before l after split
    obtain ⟨rfl, rfl⟩ | ⟨rest, inside⟩ := split_snoc split
    · exact here
    · exact earlier before l rest inside

/-! ### All warnings -/

/-- While each message stands where it belongs, the last heading is that of the last warning. -/
theorem getLast?_headings (h : Attributed (pieces [] ws)) :
    (headings (pieces [] ws)).getLast? = (ws.map (·.locale)).getLast? := by
  induction ws using List.reverseRecOn with
  | nil => rfl
  | append_singleton ws w _ =>
    rw [pieces_snoc, attributed_snoc] at h
    rw [pieces_snoc, headings_append, headings_message, List.append_nil, h.2]
    simp

theorem attributed_iff_grouped (ws : List Warning) :
    Attributed (pieces [] ws) ↔ Grouped (ws.map (·.locale)) := by
  -- From the end, because a message is read under what is above it.
  induction ws using List.reverseRecOn with
  | nil => exact iff_of_true (by simp [Attributed, pieces]) grouped_nil
  | append_singleton ws w ih =>
    rw [pieces_snoc, attributed_snoc, attributed_opening, List.map_append, List.map_singleton,
      grouped_snoc, ← ih]
    refine and_congr_right fun earlier => ?_
    rw [headings_append, headings_opening]
    by_cases known : w.locale ∈ ws.map (·.locale)
    · rw [if_pos known, List.append_nil, getLast?_headings earlier]
      exact ⟨fun last _ => last, fun last => last known⟩
    · rw [if_neg known]
      exact ⟨fun _ here => absurd here known, fun _ => by simp⟩

/-! ### Blocks -/

theorem grouped_of_same {locales : List Text} {locale : Text} (h : ∀ l ∈ locales, l = locale) :
    Grouped locales := by
  rintro before l after rfl inside
  have same : ∀ m ∈ before, m = locale := fun m here => h m (List.mem_append_left _ here)
  have last := List.getLast_mem (List.ne_nil_of_mem inside)
  rw [List.getLast?_eq_some_getLast (List.ne_nil_of_mem inside), same _ last, same l inside]

theorem grouped_append {front back : List Text} (first : Grouped front) (second : Grouped back)
    (apart : ∀ l ∈ back, l ∉ front) : Grouped (front ++ back) := by
  induction back using List.reverseRecOn with
  | nil => rwa [List.append_nil]
  | append_singleton back l ih =>
    obtain ⟨earlier, last⟩ := grouped_snoc.mp second
    have whole := ih earlier fun m here => apart m (List.mem_append_left _ here)
    rw [← List.append_assoc, grouped_snoc]
    refine ⟨whole, fun inside => ?_⟩
    have new : l ∉ front := apart l (List.mem_append_right _ List.mem_cons_self)
    have here : l ∈ back := (List.mem_append.mp inside).resolve_left new
    rw [List.getLast?_append, last here, Option.some_or]

end LocaleLint.Report
