/-
**Text with string literals.** A literal is written between two `'` or two `"`. There are no escape
sequences: a literal ends at the next occurrence of the character that opened it, or at the end of
the text, and the other quote character is ordinary text inside it.

* `literalAfter` — the literal that is open after one more character.
* `splitUnquotedBy`, `splitUnquoted` — cutting at separators outside literals.
* `findUnquoted?` — the position of the first such separator.
* `splitArguments` — the maximal runs between blanks and commas outside literals.
* `stripQuotes` — a text without the quote characters at its ends.
-/
import LiquidHover.Text.Blank
import LiquidHover.Text.Split

namespace LiquidHover.Text

/-- Whether a character opens a literal. -/
def isQuote (c : Char) : Bool := c == '\'' || c == '"'

/-- The quote character of the literal that is open, if one is. -/
abbrev Literal := Option Char

/-- The literal that is open after reading `c`. -/
def literalAfter (literal : Literal) (c : Char) : Literal :=
  match literal with
  | none => if isQuote c then some c else none
  | some quote => if c = quote then none else some quote

/-- Whether `c`, read while `literal` is open, is a separator: outside literals, and neither a quote
itself. -/
def cutsHere (separates : Char → Bool) (literal : Literal) (c : Char) : Bool :=
  literal.isNone && !isQuote c && separates c

/-- The pieces of a text between its separators outside literals, reading from inside `literal`. -/
def splitFrom (separates : Char → Bool) (literal : Literal) : List Char → List (List Char)
  | [] => [[]]
  | c :: rest =>
    if cutsHere separates literal c then [] :: splitFrom separates none rest
    else consHead c (splitFrom separates (literalAfter literal c) rest)

/-- The pieces of a text between its separators outside literals. -/
def splitUnquotedBy (separates : Char → Bool) (text : List Char) : List (List Char) :=
  splitFrom separates none text

/-- The pieces of a text between the occurrences of `separator` outside literals. -/
def splitUnquoted (separator : Char) (text : List Char) : List (List Char) :=
  splitUnquotedBy (· == separator) text

/-- Each piece with its offset in the text it was cut from, when one character was removed between
neighbours and the first piece stands at `start`. -/
def withOffsets (start : Nat) : List (List Char) → List (Nat × List Char)
  | [] => []
  | piece :: pieces => (start, piece) :: withOffsets (start + piece.length + 1) pieces

/-- The position of the first separator outside literals, reading from inside `literal`. -/
def findFrom? (separates : Char → Bool) (literal : Literal) : List Char → Option Nat
  | [] => none
  | c :: rest =>
    if cutsHere separates literal c then some 0
    else (findFrom? separates (literalAfter literal c) rest).map (· + 1)

/-- The position of the first `separator` outside literals. -/
def findUnquoted? (separator : Char) (text : List Char) : Option Nat :=
  findFrom? (· == separator) none text

/-- Whether a character parts the arguments of a tag. -/
def isArgumentBreak (c : Char) : Bool := isBlank c || c == ','

/-- The arguments of a text: its maximal runs without a blank or comma outside literals. Quotes stay
with their argument. -/
def splitArguments (text : List Char) : List (List Char) :=
  (splitUnquotedBy isArgumentBreak text).filter (!·.isEmpty)

/-- The text without the quote characters at its two ends. -/
def stripQuotes (text : List Char) : List Char := stripEnd isQuote (stripStart isQuote text)

theorem splitFrom_ne_nil (separates : Char → Bool) (literal : Literal) (text : List Char) :
    splitFrom separates literal text ≠ [] := by
  cases text with
  | nil => simp [splitFrom]
  | cons c rest =>
    simp only [splitFrom]
    split
    · simp
    · exact consHead_ne_nil _ _

end LiquidHover.Text
