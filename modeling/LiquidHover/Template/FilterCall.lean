/-
**Filters of an expression.** The content of an expression is a value and then filters, parted by
pipes outside literals. A filter is a name, and after a colon its parameters, parted by commas.

* `FilterCall.ofSegment?` — the filter between two pipes; a segment without a name is none.
* `Expression.filters` — the filters of an expression, from left to right.
* `FilterCall.at?` — the filter whose name is under a cursor.
-/
import LiquidHover.Template.Expression
import LiquidHover.Text.Quoted

namespace LiquidHover.Template

open Text (trim trimEnd blankPrefixLength findUnquoted? splitUnquoted stripQuotes withOffsets)

/-- One use of a filter. -/
structure FilterCall where
  name : List Char
  /-- The parameters in order, trimmed and without quotes. -/
  parameters : List (List Char)
  /-- The characters of the name in the line. -/
  range : Span
  deriving DecidableEq, Repr

namespace FilterCall

/-- The parameters after a colon. Those that are empty without their quotes are left out. -/
def parametersOf (arguments : List Char) : List (List Char) :=
  ((splitUnquoted ',' arguments).map fun argument => stripQuotes (trim argument)).filter
    (!·.isEmpty)

/-- The name of a trimmed segment and the text after its first colon outside literals. -/
def cutName (segment : List Char) : List Char × List Char :=
  match findUnquoted? ':' segment with
  | some colon => (trimEnd (segment.take colon), segment.drop (colon + 1))
  | none => (segment, [])

/-- The filter of a segment whose first character has the offset `start` in the line. -/
def ofSegment? (start : Nat) (segment : List Char) : Option FilterCall :=
  let (name, arguments) := cutName (trim segment)
  if name.isEmpty then none
  else some
    { name
      parameters := parametersOf arguments
      range := .ofParts (start + blankPrefixLength segment) name.length }

end FilterCall

/-- The filters of an expression, from left to right. -/
def Expression.filters (expression : Expression) : List FilterCall :=
  (withOffsets expression.contentStart (splitUnquoted '|' expression.content)).tail.filterMap
    fun (start, segment) => FilterCall.ofSegment? start segment

/-- The filter whose name covers the offset. -/
def FilterCall.at? (line : List Char) (offset : Nat) : Option FilterCall :=
  (Expression.at? line offset).bind fun expression =>
    expression.filters.find? (·.range.covers offset)

end LiquidHover.Template
