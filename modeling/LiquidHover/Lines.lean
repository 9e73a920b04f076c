/-
**The lines of a text.** A line ends at a line feed. Its terminator, and one carriage return before
it, are not part of the line; the last line has no terminator and is kept as it is. Here the whole text
is cut; by their places lines are found without that, in `LiquidHover.LineIndex`.

* `Lines.ofText` — the lines, at least one of them.
* `Lines.line?` — a line by its number, counted from zero.
-/
import LiquidHover.Text.Split

namespace LiquidHover.Lines

open Text (splitAt)

/-- A line without one carriage return at its end. -/
def dropReturn (line : List Char) : List Char :=
  if line.getLast? = some '\r' then line.dropLast else line

/-- The pieces of a text with the carriage returns of all terminators removed. The last piece has no
terminator. -/
def dropReturns : List (List Char) → List (List Char)
  | [] => []
  | [last] => [last]
  | line :: next :: lines => dropReturn line :: dropReturns (next :: lines)

/-- The lines of a text. -/
def ofText (text : List Char) : List (List Char) := dropReturns (splitAt '\n' text)

/-- The number of lines of a text. -/
def count (text : List Char) : Nat := (ofText text).length

/-- The line with the given number, counted from zero. -/
def line? (text : List Char) (number : Nat) : Option (List Char) := (ofText text)[number]?

@[simp] theorem length_dropReturns (pieces : List (List Char)) :
    (dropReturns pieces).length = pieces.length := by
  fun_induction dropReturns pieces <;> simp_all

end LiquidHover.Lines
