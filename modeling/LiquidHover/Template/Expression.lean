/-
**Expressions of a line.** What a delimited piece says, without its delimiters, the dashes of
whitespace control and the blanks around it. All offsets are character offsets in the line.

* `Expression.ofDelimited` — the expression of one delimited piece.
* `Expression.all` — the expressions of a line, from left to right.
* `Expression.at?` — the expression under a cursor; where two expressions touch, the left one.
-/
import LiquidHover.Span
import LiquidHover.Template.Delimited
import LiquidHover.Text.Blank

namespace LiquidHover.Template

open Text (trim blankPrefixLength)

/-- An expression on a line. -/
structure Expression where
  kind : Kind
  /-- The whole expression, delimiters included. -/
  bounds : Span
  /-- The text between the delimiters, without whitespace control and trimmed. -/
  content : List Char
  /-- Offset of the first character of the content. -/
  contentStart : Nat
  deriving DecidableEq, Repr

/-- A text without one dash at its start. -/
def dropLeadingDash (text : List Char) : List Char :=
  if text.head? = some '-' then text.tail else text

/-- A text without one dash at its end. -/
def dropTrailingDash (text : List Char) : List Char :=
  if text.getLast? = some '-' then text.dropLast else text

namespace Expression

/-- The expression of a delimited piece. A dash that stands alone is dropped as the left one. -/
def ofDelimited (piece : Delimited) : Expression :=
  let undashed := dropLeadingDash piece.inner
  let body := dropTrailingDash undashed
  let lead := (piece.inner.length - undashed.length) + blankPrefixLength body
  { kind := piece.kind
    bounds := .ofParts piece.start piece.length
    content := trim body
    contentStart := piece.start + 2 + lead }

/-- The expressions of a line, from left to right. -/
def all (line : List Char) : List Expression := (Delimited.scan line).map ofDelimited

/-- The first expression whose bounds cover the offset. -/
def at? (line : List Char) (offset : Nat) : Option Expression :=
  (all line).find? (·.bounds.covers offset)

end Expression

/-- The text before the first blank and the text after it: of a tag, its keyword and its markup. -/
def cutKeyword (content : List Char) : List Char × List Char :=
  (content.takeWhile (!Text.isBlank ·), (content.dropWhile (!Text.isBlank ·)).tail)

end LiquidHover.Template
