/-
**Numbers of JSON texts.** A number without fraction and exponent that fits 64 bits is kept exactly.
Every other one is a double: its significand keeps the leading digits that fit 64 bits, the digits
after those only count as powers of ten, and the significand is scaled by a rounded power of ten.

* `Json.readNumber?` — the number with which a text begins.
* `Json.scaled?` — a significand times a power of ten; none beyond the range of doubles.
-/
import LiquidHover.Json.Basic
import LiquidHover.Number.Decimal

namespace LiquidHover.Json

/-- The value of a decimal digit. -/
def digit? (c : Char) : Option Nat := if c.isDigit then some (c.toNat - '0'.toNat) else none

/-- A double times `10^exponent`, in steps of at most `10^308`. The steps are bounded by `fuel`: after
three of them a double is zero. -/
def scaledBy? (value : Double) (exponent : Int) : (fuel : Nat) → Option Double
  | 0 => some value
  | fuel + 1 =>
    if exponent.natAbs ≤ 308 then
      let power := Double.ofNat (Nat.pow 10 exponent.natAbs)
      if 0 ≤ exponent then
        let product := value.mul power
        if product.isInfinite then none else some product
      else some (value.div power)
    else if value.isZero then some value
    else if 0 ≤ exponent then none
    else scaledBy? (value.div (Double.ofNat (Nat.pow 10 308))) (exponent + 308) fuel

/-- The double `± significand · 10^exponent`. -/
def scaled? (negative : Bool) (significand : Nat) (exponent : Int) : Option Json :=
  (scaledBy? (Double.ofNat significand) exponent 8).map fun value =>
    .double (if negative then value.neg else value)

/-- The digits with which a text begins, added to a significand as long as it stays within the
limit: the significand, the number of digits added, and the text from the first digit that was not
added. -/
def addDigits (significand : Nat) : List Char → Nat × Nat × List Char
  | [] => (significand, 0, [])
  | c :: rest =>
    match digit? c with
    | none => (significand, 0, c :: rest)
    | some digit =>
      if Number.maxWord64 < significand * 10 + digit then (significand, 0, c :: rest)
      else
        let (total, added, after) := addDigits (significand * 10 + digit) rest
        (total, added + 1, after)

/-- The value of an exponent's digits; none when it is beyond the limit. -/
def exponentValue? (digits : List Char) : Option Nat :=
  let value := digits.foldl (fun total c => min (total * 10 + (c.toNat - '0'.toNat))
    (Number.maxSigned32 + 1)) 0
  if value ≤ Number.maxSigned32 then some value else none

/-- A sum of exponents, kept within 32 bits. -/
def clampExponent (exponent : Int) : Int :=
  max (-(Number.maxSigned32 : Int) - 1) (min exponent Number.maxSigned32)

/-- The number whose exponent begins the text, if it has one. -/
def readExponent? (negative : Bool) (significand : Nat) (shift : Int) (text : List Char) :
    Option (Json × List Char) :=
  match text with
  | c :: rest =>
    if c = 'e' ∨ c = 'E' then
      let down := rest.head? == some '-'
      let unsigned := if down || rest.head? == some '+' then rest.tail else rest
      let digits := unsigned.takeWhile (·.isDigit)
      let after := unsigned.dropWhile (·.isDigit)
      if digits.isEmpty then none
      else
        match exponentValue? digits with
        | some value =>
          let exponent := clampExponent (if down then shift - value else shift + value)
          (scaled? negative significand exponent).map (·, after)
        | none =>
          if significand ≠ 0 ∧ !down then none else some (.double (.finite negative 0 0), after)
    else (scaled? negative significand shift).map (·, text)
  | [] => (scaled? negative significand shift).map (·, [])

/-- The number whose fraction begins after a point. -/
def readFraction? (negative : Bool) (significand : Nat) (shift : Int) (text : List Char) :
    Option (Json × List Char) :=
  if text.head?.any (·.isDigit) then
    let (total, added, after) := addDigits significand text
    readExponent? negative total (shift - added) (after.dropWhile (·.isDigit))
  else none

/-- The number of a significand that is followed by neither fraction nor exponent. -/
def whole (negative : Bool) (significand : Nat) : Json :=
  if negative then
    if 0 < significand ∧ significand ≤ Number.maxSigned64 + 1 then .int (-significand)
    else .double (Double.ofNat significand).neg
  else .int significand

/-- The number whose digits begin the text. -/
def readUnsigned? (negative : Bool) (text : List Char) : Option (Json × List Char) :=
  match text with
  | [] => none
  | first :: rest =>
    if !first.isDigit || (first == '0' && rest.head?.any (·.isDigit)) then none
    else
      let (significand, _, unread) := addDigits 0 text
      let dropped := (unread.takeWhile (·.isDigit)).length
      match unread.dropWhile (·.isDigit) with
      | '.' :: fraction => readFraction? negative significand dropped fraction
      | after =>
        if dropped = 0 ∧ after.head? ≠ some 'e' ∧ after.head? ≠ some 'E' then
          some (whole negative significand, after)
        else readExponent? negative significand dropped after

/-- The number with which a text begins. -/
def readNumber? : List Char → Option (Json × List Char)
  | '-' :: text => readUnsigned? true text
  | text => readUnsigned? false text

end LiquidHover.Json
