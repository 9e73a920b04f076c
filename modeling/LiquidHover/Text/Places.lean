/-
**Cutting text at byte offsets.** A text with string literals is read once, character by character. What is cut out of
it is given by the byte offsets of its ends. A cut inside a character or past the end of the text fails.

* `unquotedPlaces` — the byte offsets at which a separator stands outside literals; `findPlace?` is the first of them.
* `segments?` — the pieces between these separators, each with the byte offset at which it begins.
* `ArgumentReader`, `argumentPieces?` — the pieces between blanks and commas outside literals.
-/
import LiquidHover.Column
import LiquidHover.Text.Quoted
import LiquidHover.Text.Slice

namespace LiquidHover.Text

open Encoding (utf8)

/-! ### Pieces between separators -/

/-- The byte offsets at which `separator` stands outside literals, in a text that begins at `place` inside `literal`. -/
def placesFrom (separator : Char) (literal : Literal) (place : Nat) : List Char → List Nat
  | [] => []
  | c :: rest =>
    let later := placesFrom separator (literalAfter literal c) (place + c.utf8Size) rest
    if cutsHere (· == separator) literal c then place :: later else later

/-- The byte offsets at which `separator` stands outside literals. -/
def unquotedPlaces (separator : Char) (text : List Char) : List Nat := placesFrom separator none 0 text

/-- The byte offset of the first `separator` outside literals. -/
def findPlace? (separator : Char) (text : List Char) : Option Nat := (unquotedPlaces separator text).head?

/-- The pieces of a text from the byte offset `start` on, which end at the given separators and at the end. -/
def cutFrom? (separator : Char) (text : List Char) (start : Nat) : List Nat → Option (List (List Char × Nat))
  | [] => (slice? text start (utf8.widthOf text)).map fun piece => [(piece, start)]
  | place :: later => do
    let piece ← slice? text start place
    let pieces ← cutFrom? separator text (place + separator.utf8Size) later
    return (piece, start) :: pieces

/-- The pieces of a text between the separators outside literals, each with the byte offset at which it begins. -/
def segments? (separator : Char) (text : List Char) : Option (List (List Char × Nat)) :=
  cutFrom? separator text 0 (unquotedPlaces separator text)

/-! ### Arguments -/

/-- A reader of arguments on its way through a text. -/
structure ArgumentReader where
  /-- The arguments that are ended. -/
  pieces : List (List Char) := []
  /-- The byte offset at which the argument that is read began; none between arguments. -/
  start : Option Nat := none
  literal : Literal := none
  /-- The number of bytes that are read. -/
  place : Nat := 0
  deriving DecidableEq, Repr

namespace ArgumentReader

/-- The reader behind one more character. A quote that ends a literal begins no argument, since the quote that opened
the literal did. -/
def step? (text : List Char) (reader : ArgumentReader) (c : Char) : Option ArgumentReader :=
  let reader' := { reader with place := reader.place + c.utf8Size }
  let begun := some (reader.start.getD reader.place)
  if isQuote c = true ∧ reader.literal = some c then
    some { reader' with literal := none }
  else if isQuote c = true ∧ reader.literal = none then
    some { reader' with literal := some c, start := begun }
  else if reader.literal = none ∧ isArgumentBreak c = true then
    match reader.start with
    | none => some reader'
    | some start =>
      (slice? text start reader.place).map fun piece =>
        { reader' with pieces := reader.pieces ++ [piece], start := none }
  else some { reader' with start := begun }

/-- The arguments when the whole text is read. -/
def finish? (text : List Char) (reader : ArgumentReader) : Option (List (List Char)) :=
  match reader.start with
  | none => some reader.pieces
  | some start => (slice? text start (utf8.widthOf text)).map fun piece => reader.pieces ++ [piece]

end ArgumentReader

/-- The arguments of a text, found in one pass. -/
def argumentPieces? (text : List Char) : Option (List (List Char)) :=
  (text.foldlM (ArgumentReader.step? text) {}).bind (ArgumentReader.finish? text)

end LiquidHover.Text
