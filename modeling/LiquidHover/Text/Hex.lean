/-
**Hexadecimal digits and code points.** Escapes in several notations give characters by the digits of
their code points.
-/

namespace LiquidHover.Text

/-- The value of a hexadecimal digit. -/
def hexDigit? (c : Char) : Option Nat :=
  if c.isDigit then some (c.toNat - '0'.toNat)
  else if 'a' ≤ c ∧ c ≤ 'f' then some (c.toNat - 'a'.toNat + 10)
  else if 'A' ≤ c ∧ c ≤ 'F' then some (c.toNat - 'A'.toNat + 10)
  else none

/-- The value of the first `count` characters as hexadecimal digits, and the text after them. -/
def readHex? (count : Nat) (text : List Char) : Option (Nat × List Char) :=
  let digits := text.take count
  if digits.length < count then none
  else
    (digits.foldlM (fun total c => (hexDigit? c).map (total * 16 + ·)) 0).map (·, text.drop count)

/-- The character of a code point; none for a surrogate and beyond the last code point. -/
def charOf? (code : Nat) : Option Char :=
  if code.isValidChar then some (Char.ofNat code) else none

/-- The character of an escape with `count` hexadecimal digits. -/
def readCodePoint? (count : Nat) (text : List Char) : Option (Char × List Char) := do
  let (code, rest) ← readHex? count text
  let c ← charOf? code
  return (c, rest)

end LiquidHover.Text
