/-
**Variables of an expression.** The variable of an expression is the first dotted path of its value,
and the value is what stands before the first pipe; a tag's keyword is not part of it.

* `takePath` — the longest dotted path with which a text begins.
* `firstPath?` — the first dotted path on a word boundary and outside literals.
* `Expression.reference?`, `Variable.at?` — the variable of an expression, and under a cursor.
-/
import LiquidHover.Template.Expression
import LiquidHover.Text.Quoted

namespace LiquidHover.Template

open Text (Literal isQuote literalAfter findUnquoted? splitAt trim)

/-- Whether a character may begin an identifier. -/
def isIdentifierStart (c : Char) : Bool := c.isAlpha || c == '_'

/-- Whether a character may stand in an identifier. -/
def isWord (c : Char) : Bool := c.isAlphanum || c == '_'

/-- The longest start of a text that is a dotted path, when the text begins with an identifier: word
characters, and points in front of an identifier. -/
def takePath : List Char → List Char
  | [] => []
  | c :: rest =>
    if isWord c || (c == '.' && rest.head?.any isIdentifierStart) then c :: takePath rest else []

/-- The first dotted path, reading from inside `literal` and after a word character if
`afterWord`. -/
def firstPathFrom? (literal : Literal) (afterWord : Bool) : List Char → Option (List Char)
  | [] => none
  | c :: rest =>
    if literal.isNone && !afterWord && isIdentifierStart c then some (takePath (c :: rest))
    else firstPathFrom? (literalAfter literal c) (isWord c) rest

/-- The first dotted path of a text that begins on a word boundary and outside literals. -/
def firstPath? (text : List Char) : Option (List Char) := firstPathFrom? none false text

/-- A reference to a variable. -/
structure Variable where
  /-- The dotted path, as it is written. -/
  path : List Char
  /-- The bounds of the expression that holds the reference. -/
  range : Span
  deriving DecidableEq, Repr

namespace Variable

/-- The name in front of the first point. -/
def root (reference : Variable) : List Char := (splitAt '.' reference.path).headD []

/-- The names after the root. -/
def properties (reference : Variable) : List (List Char) := (splitAt '.' reference.path).tail

end Variable

namespace Expression

/-- The text of an expression without a tag's keyword. -/
def markup (expression : Expression) : List Char :=
  match expression.kind with
  | .output => expression.content
  | .tag => (cutKeyword expression.content).2

/-- The value of an expression: its markup up to the first pipe outside literals. -/
def value (expression : Expression) : List Char :=
  match findUnquoted? '|' expression.markup with
  | some pipe => trim (expression.markup.take pipe)
  | none => trim expression.markup

/-- The variable to which an expression refers. -/
def reference? (expression : Expression) : Option Variable :=
  (firstPath? expression.value).map fun path => { path, range := expression.bounds }

end Expression

/-- The variable of the expression under the cursor, wherever in it the cursor stands. -/
def Variable.at? (line : List Char) (offset : Nat) : Option Variable :=
  (Expression.at? line offset).bind Expression.reference?

end LiquidHover.Template
