/-
**Hovers.** The answer to a cursor: a panel and the characters that it is about.

* `Hover.at?` — the hover for an offset of a line.
* `Hover.place` — the hover with its characters given as a stretch of a document.
-/
import LiquidHover.Hover.Panel
import LiquidHover.Position

namespace LiquidHover

/-- A panel and the characters of the line that it is about. -/
structure Hover where
  markdown : String
  range : Span
  deriving DecidableEq, Repr

/-- A hover as an editor receives it. -/
structure PlacedHover where
  markdown : String
  range : Range
  deriving DecidableEq, Repr

namespace Hover

/-- The hover for a character offset of a line. -/
def at? (catalog : Catalog) (settings : Settings) (line : List Char) (offset : Nat) :
    Option Hover :=
  (subject? catalog settings line offset).map fun subject =>
    { markdown := subject.markdown settings, range := subject.range }

/-- The hover with its range in the columns of an encoding. -/
def place (hover : Hover) (line : List Char) (number : Nat) (encoding : Encoding) : PlacedHover where
  markdown := hover.markdown
  range := hover.range.toRange line number encoding

end Hover

end LiquidHover
