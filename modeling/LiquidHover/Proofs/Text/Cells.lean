/-
**The cells of a row.** A row of a table is cut at its bars, but for those behind a backslash. A text with a backslash in
front of each of its bars is one cell, whatever else it holds, and it is known what it was without them.

* `Text.cellsFrom`, `Text.cells` — the pieces of a row.
* `Text.escapeBars`, `Text.unescapeBars` — a text with a backslash in front of each bar, and without it again.
* `Text.cellsFrom_escapeBars` — an escaped text is one cell.
* `Text.unescapeBars_escapeBars` — nothing of it is lost.
-/
import LiquidHover.Text.Split

namespace LiquidHover.Text

/-! ### Cutting a row -/

/-- The cells of a row, behind a backslash or not. -/
def cellsFrom (escaped : Bool) : List Char → List (List Char)
  | [] => [[]]
  | c :: rest =>
    if c = '|' ∧ escaped = false then [] :: cellsFrom false rest else consHead c (cellsFrom (c == '\\') rest)

/-- The cells of a row. -/
def cells (row : List Char) : List (List Char) := cellsFrom false row

section Cutting

variable {escaped : Bool} {c : Char} {piece : List Char}

theorem cellsFrom_ne_nil (escaped : Bool) (row : List Char) : cellsFrom escaped row ≠ [] := by
  cases row with
  | nil => nofun
  | cons c rest =>
    rw [cellsFrom]
    split
    · nofun
    · exact consHead_ne_nil _ _

theorem cellsFrom_cons (kept : c ≠ '|' ∨ escaped = true) (rest : List Char) :
    cellsFrom escaped (c :: rest) = consHead c (cellsFrom (c == '\\') rest) := by
  rw [cellsFrom, if_neg]
  rintro ⟨bar, plain⟩
  rcases kept with other | behind
  · exact other bar
  · rw [plain] at behind
    cases behind

theorem cellsFrom_of_not_mem (whole : '|' ∉ piece) (escaped : Bool) : cellsFrom escaped piece = [piece] := by
  induction piece generalizing escaped with
  | nil => rfl
  | cons c piece ih =>
    rw [List.mem_cons, not_or] at whole
    rw [cellsFrom_cons (Or.inl (Ne.symm whole.1)), ih whole.2]
    rfl

/-- What is one cell with a character in front of it is one cell without it. -/
theorem cellsFrom_of_cons (whole : cellsFrom escaped (c :: piece) = [c :: piece]) :
    (c ≠ '|' ∨ escaped = true) ∧ cellsFrom (c == '\\') piece = [piece] := by
  rw [cellsFrom] at whole
  split at whole
  · cases whole
  · rename_i kept
    refine ⟨by simpa [Decidable.imp_iff_not_or] using kept, ?_⟩
    obtain ⟨first, others, cut⟩ := List.exists_cons_of_ne_nil (cellsFrom_ne_nil (c == '\\') piece)
    rw [cut] at whole ⊢
    cases whole
    rfl

/-- **What is one cell** is a cell of its own in front of a blank and a bar. -/
theorem cellsFrom_append (whole : cellsFrom escaped piece = [piece]) (rest : List Char) :
    cellsFrom escaped (piece ++ ' ' :: '|' :: rest) = (piece ++ [' ']) :: cellsFrom false rest := by
  induction piece generalizing escaped with
  | nil => rfl
  | cons c piece ih =>
    obtain ⟨kept, whole⟩ := cellsFrom_of_cons whole
    rw [List.cons_append, cellsFrom_cons kept, ih whole]
    rfl

end Cutting

/-! ### Escaping -/

/-- A text with a backslash in front of each bar. -/
def escapeBars (text : List Char) : List Char := text.flatMap fun c => if c = '|' then ['\\', '|'] else [c]

/-- A text without the backslashes in front of bars, read from left to right. -/
def unescapeBars : List Char → List Char
  | '\\' :: '|' :: rest => '|' :: unescapeBars rest
  | c :: rest => c :: unescapeBars rest
  | [] => []

theorem escapeBars_bar (text : List Char) : escapeBars ('|' :: text) = '\\' :: '|' :: escapeBars text := rfl

theorem escapeBars_cons {c : Char} (other : c ≠ '|') (text : List Char) :
    escapeBars (c :: text) = c :: escapeBars text := by
  rw [escapeBars, List.flatMap_cons, if_neg other]
  rfl

/-- **An escaped text is one cell.** -/
theorem cellsFrom_escapeBars (text : List Char) (escaped : Bool) :
    cellsFrom escaped (escapeBars text) = [escapeBars text] := by
  induction text generalizing escaped with
  | nil => rfl
  | cons c text ih =>
    by_cases bar : c = '|'
    · rw [bar, escapeBars_bar, cellsFrom_cons (Or.inl (by decide)), cellsFrom_cons (Or.inr (beq_self_eq_true '\\')), ih]
      rfl
    · rw [escapeBars_cons bar, cellsFrom_cons (Or.inl bar), ih]
      rfl

/-- An escaped text does not begin with a bar. -/
theorem head?_escapeBars (text : List Char) : (escapeBars text).head? ≠ some '|' := by
  cases text with
  | nil => nofun
  | cons c text =>
    by_cases bar : c = '|'
    · rw [bar, escapeBars_bar]
      exact fun same => absurd (Option.some.inj same) (by decide)
    · rw [escapeBars_cons bar]
      exact fun same => bar (Option.some.inj same)

theorem unescapeBars_cons {rest : List Char} (plain : rest.head? ≠ some '|') (c : Char) :
    unescapeBars (c :: rest) = c :: unescapeBars rest := by
  rw [unescapeBars]
  rintro others - rfl
  exact plain rfl

/-- **Nothing is lost by escaping**, also when the text holds backslashes of its own. -/
theorem unescapeBars_escapeBars (text : List Char) : unescapeBars (escapeBars text) = text := by
  induction text with
  | nil => rfl
  | cons c text ih =>
    by_cases bar : c = '|'
    · rw [bar, escapeBars_bar, unescapeBars, ih]
    · rw [escapeBars_cons bar, unescapeBars_cons (head?_escapeBars text), ih]

end LiquidHover.Text
