/-
**Decimal digits and the ranges of numbers.** The value of a row of digits, and the greatest numbers
that fit 32 and 64 bits, with and without a sign.
-/

namespace LiquidHover.Number

/-- The greatest number of 32 bits. -/
def maxWord32 : Nat := 4294967295

/-- The greatest number of 32 bits with a sign. -/
def maxSigned32 : Nat := 2147483647

/-- The greatest number of 64 bits. -/
def maxWord64 : Nat := 18446744073709551615

/-- The greatest number of 64 bits with a sign. -/
def maxSigned64 : Nat := 9223372036854775807

/-- Whether a number fits 32 bits. -/
def fitsWord32 (value : Int) : Bool := 0 ≤ value && value ≤ maxWord32

/-- Whether a number fits 32 bits with a sign. -/
def fitsSigned32 (value : Int) : Bool := -(maxSigned32 : Int) - 1 ≤ value && value ≤ maxSigned32

/-- Whether a number fits 64 bits with a sign. -/
def fitsSigned64 (value : Int) : Bool := -(maxSigned64 : Int) - 1 ≤ value && value ≤ maxSigned64

/-- The value of a row of decimal digits. -/
def decimalValue (digits : List Char) : Nat :=
  digits.foldl (fun total c => total * 10 + (c.toNat - '0'.toNat)) 0

/-- Whether a text is a row of decimal digits, at least one. -/
def isDecimal (text : List Char) : Bool := !text.isEmpty && text.all Char.isDigit

end LiquidHover.Number
