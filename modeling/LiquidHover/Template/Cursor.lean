/-
**Text left of the cursor.** Two questions that completion asks about what has been typed.

* `endsOpen` — whether an expression has been opened and not closed.
* `ownerBeforeDot?` — the identifier in front of a point that was just typed.
-/
import LiquidHover.Template.Delimited
import LiquidHover.Template.Variable

namespace LiquidHover.Template

/-- The number of times that `first` and then `second` stand side by side, counted from left to right
and without overlaps. -/
def countPairs (first second : Char) : List Char → Nat
  | c :: d :: rest =>
    if c = first ∧ d = second then countPairs first second rest + 1
    else countPairs first second (d :: rest)
  | _ => 0

/-- Whether a text has more openers than closers of a kind. -/
def hasUnclosed (kind : Kind) (typed : List Char) : Bool :=
  countPairs kind.closeMark '}' typed < countPairs '{' kind.openMark typed

/-- Whether a text ends inside an expression, by the count of openers and closers of each kind. -/
def endsOpen (typed : List Char) : Bool := hasUnclosed .output typed || hasUnclosed .tag typed

/-- The identifier directly in front of a point at the end of a text. -/
def ownerBeforeDot? (typed : List Char) : Option (List Char) :=
  if typed.getLast? = some '.' then
    let owner := (typed.dropLast.reverse.takeWhile isWord).reverse
    if owner.isEmpty then none else some owner
  else none

end LiquidHover.Template
