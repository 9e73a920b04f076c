/-
**The tag of an expression.** A tag expression is a keyword, and after a blank its markup.

* `Expression.tag?` — the tag of an expression; none for an output and for an empty tag.
* `TagCall.at?` — the tag whose keyword is under a cursor.
-/
import LiquidHover.Template.Expression
import LiquidHover.Text.Quoted

namespace LiquidHover.Template

open Text (trim splitArguments stripQuotes)

/-- One use of a tag. -/
structure TagCall where
  name : List Char
  /-- The arguments of the markup in order, without quotes. -/
  parameters : List (List Char)
  /-- Everything after the name, trimmed. -/
  markup : List Char
  /-- The characters of the name in the line. -/
  range : Span
  deriving DecidableEq, Repr

/-- The tag of an expression. Arguments that are empty without their quotes are left out. -/
def Expression.tag? (expression : Expression) : Option TagCall :=
  let (name, rest) := cutKeyword expression.content
  if expression.kind = .tag ∧ name ≠ [] then
    some
      { name
        parameters := ((splitArguments (trim rest)).map stripQuotes).filter (!·.isEmpty)
        markup := trim rest
        range := .ofParts expression.contentStart name.length }
  else none

/-- The tag whose name covers the offset. -/
def TagCall.at? (line : List Char) (offset : Nat) : Option TagCall :=
  (Expression.at? line offset).bind fun expression =>
    expression.tag?.filter (·.range.covers offset)

end LiquidHover.Template
