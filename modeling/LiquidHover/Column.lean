/-
**Columns.** An editor counts positions in a line in the code units of an encoding; the library
counts characters. The two conversions are inverse to each other on character boundaries, and a
column inside a character stands for that character.

* `Encoding.width` — the code units of one character.
* `Encoding.columnOf` — from a character offset to a column.
* `Encoding.offsetOf?` — from a column to a character offset; none past the end of the line.
-/
import LiquidHover.Span

namespace LiquidHover

/-- The unit in which an editor counts columns. -/
inductive Encoding where
  | utf8
  | utf16
  | utf32
  deriving DecidableEq, Repr

namespace Encoding

/-- Without an agreement, columns count UTF-16 units. -/
instance : Inhabited Encoding := ⟨.utf16⟩

/-- The number of code units of a character. -/
def width (encoding : Encoding) (c : Char) : Nat :=
  match encoding with
  | .utf8 => c.utf8Size
  | .utf16 => if c.toNat < 0x10000 then 1 else 2
  | .utf32 => 1

theorem width_pos (encoding : Encoding) (c : Char) : 0 < encoding.width c := by
  cases encoding
  · exact Char.utf8Size_pos c
  · simp only [width]; split <;> decide
  · exact Nat.one_pos

/-- The number of code units of a text. -/
def widthOf (encoding : Encoding) : List Char → Nat
  | [] => 0
  | c :: rest => encoding.width c + encoding.widthOf rest

/-- The column at which the character with the given offset starts. An offset past the end of the
line has the column of the end. -/
def columnOf (encoding : Encoding) (line : List Char) (offset : Nat) : Nat :=
  min (encoding.widthOf (line.take offset)) Span.limit

/-- The offset of the character that holds the given column. The column after the last character
belongs to the end of the line, and a later one to nothing. -/
def offsetOf? (encoding : Encoding) : List Char → Nat → Option Nat
  | [], column => if column = 0 then some 0 else none
  | c :: rest, column =>
    if column < encoding.width c then some 0
    else (encoding.offsetOf? rest (column - encoding.width c)).map (· + 1)

end Encoding

end LiquidHover
