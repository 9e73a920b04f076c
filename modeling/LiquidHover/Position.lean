/-
**Positions in a document.** A line number and a column, both counted from zero, the column in the
code units of an encoding.
-/
import LiquidHover.Column

namespace LiquidHover

/-- A place in a document. -/
structure Position where
  line : Nat
  column : Nat
  deriving DecidableEq, Repr

/-- A stretch of a document between two places. -/
structure Range where
  start : Position
  stop : Position
  deriving DecidableEq, Repr

/-- A span of a line as a stretch of the document that holds the line under `number`. -/
def Span.toRange (span : Span) (line : List Char) (number : Nat) (encoding : Encoding) : Range where
  start := ⟨number, encoding.columnOf line span.start⟩
  stop := ⟨number, encoding.columnOf line span.stop⟩

end LiquidHover
