/-
**The lines of a text.** A line stands between the line feeds of its text, and a line that is not the
last one ends in front of its terminator.

* `Lines.Begins`, `Lines.Ends` — what stands before a line, and what stands behind it.
* `Lines.IsLine` — the stretch of a text that is its line with a given number.
* `Lines.line?_eq_some_iff` — the lines that are found are exactly those.
-/
import LiquidHover.Lines
import LiquidHover.Proofs.Text.Pieces

namespace LiquidHover.Lines

/-- The text before the line with a number: as many line feeds, and the last of them at its end. -/
structure Begins (front : List Char) (number : Nat) : Prop where
  counted : front.count '\n' = number
  fed : front = [] ∨ front.getLast? = some '\n'

/-- The text behind a line: nothing, or a terminator and more. A carriage return before a line feed
belongs to the terminator. -/
inductive Ends (line : List Char) : List Char → Prop where
  | last : Ends line []
  | feed (rest : List Char) (kept : line.getLast? ≠ some '\r') : Ends line ('\n' :: rest)
  | returnFeed (rest : List Char) : Ends line ('\r' :: '\n' :: rest)

/-- The stretch of a text that is its line with a number, counted from zero. -/
def IsLine (text : List Char) (number : Nat) (line : List Char) : Prop :=
  ∃ front back, text = front ++ line ++ back ∧ Begins front number ∧ '\n' ∉ line ∧ Ends line back

/-! ### Cutting off the first line -/

/-- A text is cut at its first line feed in one way only. -/
theorem eq_of_append_feed {first second rest others : List Char} (whole : '\n' ∉ first)
    (whole' : '\n' ∉ second) (same : first ++ '\n' :: rest = second ++ '\n' :: others) :
    first = second ∧ rest = others := by
  have pieces := congrArg (Text.splitAt '\n') same
  rw [Text.splitAt_append whole, Text.splitAt_append whole'] at pieces
  obtain rfl := (List.cons.inj pieces).1
  exact ⟨rfl, (List.cons.inj (List.append_cancel_left same)).2⟩

theorem ofText_of_not_mem {text : List Char} (single : '\n' ∉ text) : ofText text = [text] := by
  rw [ofText, Text.splitAt_of_not_mem single]
  rfl

theorem ofText_append {piece : List Char} (whole : '\n' ∉ piece) (rest : List Char) :
    ofText (piece ++ '\n' :: rest) = dropReturn piece :: ofText rest := by
  obtain ⟨next, pieces, cut⟩ := List.exists_cons_of_ne_nil (Text.splitAt_ne_nil '\n' rest)
  rw [ofText, Text.splitAt_append whole, ofText, cut]
  rfl

/-- Nothing stands before the first line. -/
theorem Begins.eq_nil {front : List Char} (begins : Begins front 0) : front = [] := by
  rcases begins.fed with empty | fed
  · exact empty
  · exact absurd (List.mem_of_getLast? fed) (List.count_eq_zero.mp begins.counted)

/-- A text without line feeds is its only line. -/
theorem isLine_of_not_mem {text line : List Char} {number : Nat} (single : '\n' ∉ text) :
    IsLine text number line ↔ number = 0 ∧ line = text := by
  constructor
  · rintro ⟨front, back, rfl, begins, -, ends⟩
    simp only [List.mem_append, not_or] at single
    obtain ⟨⟨noFeed, -⟩, noFeed'⟩ := single
    have counted : number = 0 := by rw [← begins.counted, List.count_eq_zero.mpr noFeed]
    subst counted
    obtain rfl := begins.eq_nil
    cases ends with
    | last => exact ⟨rfl, by simp⟩
    | feed => simp at noFeed'
    | returnFeed => simp at noFeed'
  · rintro ⟨rfl, rfl⟩
    exact ⟨[], [], by simp, ⟨rfl, Or.inl rfl⟩, single, .last⟩

/-- The first line of a text with more than one is what stands before the first terminator. -/
theorem isLine_zero_append {piece line : List Char} (whole : '\n' ∉ piece) (rest : List Char) :
    IsLine (piece ++ '\n' :: rest) 0 line ↔ dropReturn piece = line := by
  constructor
  · rintro ⟨front, back, same, begins, unbroken, ends⟩
    obtain rfl := begins.eq_nil
    rw [List.nil_append] at same
    cases ends with
    | last =>
      rw [List.append_nil] at same
      exact absurd (same ▸ List.mem_append_right piece List.mem_cons_self) unbroken
    | feed others kept =>
      obtain ⟨rfl, -⟩ := eq_of_append_feed whole unbroken same
      exact if_neg kept
    | returnFeed others =>
      have unbroken' : '\n' ∉ line ++ ['\r'] := by simpa using unbroken
      have same' : piece ++ '\n' :: rest = (line ++ ['\r']) ++ '\n' :: others := by simpa using same
      obtain ⟨rfl, -⟩ := eq_of_append_feed whole unbroken' same'
      simp [dropReturn]
  · rintro rfl
    by_cases returned : piece.getLast? = some '\r'
    · have parts : piece.dropLast ++ ['\r'] = piece := List.dropLast_append_getLast? _ returned
      rw [dropReturn, if_pos returned]
      refine ⟨[], '\r' :: '\n' :: rest, ?_, ⟨rfl, Or.inl rfl⟩, fun member => ?_, .returnFeed rest⟩
      · nth_rewrite 1 [← parts]
        simp
      · exact whole (List.mem_of_mem_dropLast member)
    · rw [dropReturn, if_neg returned]
      exact ⟨[], '\n' :: rest, by simp, ⟨rfl, Or.inl rfl⟩, whole, .feed rest returned⟩

/-- The later lines of a text are those of the text behind its first line feed. -/
theorem isLine_succ_append {piece line : List Char} {number : Nat} (whole : '\n' ∉ piece)
    (rest : List Char) :
    IsLine (piece ++ '\n' :: rest) (number + 1) line ↔ IsLine rest number line := by
  constructor
  · rintro ⟨front, back, same, ⟨counted, fed⟩, unbroken, ends⟩
    have member : '\n' ∈ front := List.count_pos_iff.mp (by omega)
    obtain ⟨first, front', rfl, whole'⟩ := List.eq_append_cons_of_mem member
    have same' : piece ++ '\n' :: rest = first ++ '\n' :: (front' ++ line ++ back) := by
      simpa using same
    obtain ⟨rfl, rfl⟩ := eq_of_append_feed whole whole' same'
    refine ⟨front', back, rfl, ⟨?_, ?_⟩, unbroken, ends⟩
    · rw [List.count_append, List.count_cons_self, List.count_eq_zero.mpr whole] at counted
      omega
    · cases front' with
      | nil => exact Or.inl rfl
      | cons c front' => simpa using fed
  · rintro ⟨front, back, rfl, ⟨counted, fed⟩, unbroken, ends⟩
    refine ⟨piece ++ '\n' :: front, back, by simp, ⟨?_, Or.inr ?_⟩, unbroken, ends⟩
    · rw [List.count_append, List.count_cons_self, List.count_eq_zero.mpr whole]
      omega
    · rcases fed with rfl | fed
      · simp
      · simp [List.getLast?_append, List.getLast?_cons, fed]

/-! ### All lines -/

/-- **The lines that are found are exactly the lines of the text.** -/
theorem line?_eq_some_iff {text line : List Char} {number : Nat} :
    line? text number = some line ↔ IsLine text number line := by
  induction number generalizing text with
  | zero =>
    by_cases single : '\n' ∈ text
    · obtain ⟨piece, rest, rfl, whole⟩ := List.eq_append_cons_of_mem single
      rw [isLine_zero_append whole, line?, ofText_append whole]
      simp
    · rw [isLine_of_not_mem single, line?, ofText_of_not_mem single]
      simp [eq_comm]
  | succ number ih =>
    by_cases single : '\n' ∈ text
    · obtain ⟨piece, rest, rfl, whole⟩ := List.eq_append_cons_of_mem single
      rw [isLine_succ_append whole, ← ih, line?, ofText_append whole]
      rfl
    · rw [isLine_of_not_mem single, line?, ofText_of_not_mem single]
      simp

/-- A line is part of its text. -/
theorem exists_append_of_line? {text line : List Char} {number : Nat}
    (found : line? text number = some line) : ∃ front back, text = front ++ line ++ back := by
  obtain ⟨front, back, parts, -⟩ := line?_eq_some_iff.mp found
  exact ⟨front, back, parts⟩

end LiquidHover.Lines
