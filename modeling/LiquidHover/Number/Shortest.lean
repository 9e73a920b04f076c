/-
**Shortest decimals.** A double is written with the fewest digits that read back as the same double,
and among those texts with the one nearest to it.

* `Double.shortest` — the digits and their power of ten.
* `Double.render` — the text: positional for magnitudes from `10^(-5)` up to `10^16`, always with a
  point, and with a signed exponent outside that range.
-/
import LiquidHover.Number.Double

namespace LiquidHover.Double

/-- The greatest `k` with `10^k ≤ num / den`, for a positive quotient. -/
def decimalExponent (num den : Nat) : Int :=
  if den ≤ num then (digitCount (num / den) : Int) - 1 else -(digitCount ((den - 1) / num) : Int)

/-- Of the neighbouring decimals `low` and `low + 1`, in units of `10^exponent`, the one that reads
back as `target`; of two such, the one nearer to `num / den`. -/
def readingBack (target : Double) (num den low : Nat) (exponent : Int) : Option Nat :=
  let reads (digits : Nat) : Bool := ofDecimal false digits exponent == target
  let unit := if 0 ≤ exponent then (den * Nat.pow 10 exponent.toNat, num)
    else (den, num * Nat.pow 10 (-exponent).toNat)
  let below := unit.2 - low * unit.1
  let above := (low + 1) * unit.1 - unit.2
  match reads low, reads (low + 1) with
  | true, true =>
    some (if below < above then low else if above < below then low + 1 else low + low % 2)
  | true, false => some low
  | false, true => some (low + 1)
  | false, false => none

/-- The digits with `count` places that read back as `target`, and their power of ten. -/
def withDigits (target : Double) (num den : Nat) (leading : Int) (count : Nat) :
    Option (Nat × Int) :=
  let exponent := leading - count + 1
  let low := if 0 ≤ exponent then num / (den * Nat.pow 10 exponent.toNat)
    else num * Nat.pow 10 (-exponent).toNat / den
  (readingBack target num den low exponent).map (·, exponent)

/-- The fewest digits that read back as a positive finite double, and their power of ten. -/
def shortest (mantissa : Nat) (exponent : Int) : Nat × Int :=
  let (num, den) := ratioOf mantissa exponent
  let leading := decimalExponent num den
  ((List.range 17).findSome? fun i =>
    withDigits (.finite false mantissa exponent) num den leading (i + 1)).getD (num, 0)

/-- Digits with a point after the first of them, if there are more. -/
def pointed : List Char → List Char
  | [] => []
  | [digit] => [digit]
  | digit :: rest => digit :: '.' :: rest

/-- An exponent with its sign. -/
def signedExponent (exponent : Int) : List Char :=
  (if exponent < 0 then '-' else '+') :: Nat.toDigits 10 exponent.natAbs

/-- The text of `digits · 10^exponent`. -/
def renderDecimal (digits : List Char) (exponent : Int) : List Char :=
  let point := exponent + digits.length
  if 0 ≤ exponent ∧ point ≤ 16 then
    digits ++ List.replicate exponent.toNat '0' ++ ['.', '0']
  else if 0 < point ∧ point ≤ 16 then
    digits.take point.toNat ++ '.' :: digits.drop point.toNat
  else if -5 < point ∧ point ≤ 0 then
    ['0', '.'] ++ List.replicate (-point).toNat '0' ++ digits
  else pointed digits ++ 'e' :: signedExponent (point - 1)

/-- Trailing zeros moved from the digits into the exponent. -/
def withoutTrailingZeros (digits : List Char) (exponent : Int) : List Char × Int :=
  let kept := (digits.reverse.dropWhile (· == '0')).reverse
  (kept, exponent + (digits.length - kept.length : Nat))

/-- The text of a finite double; other doubles have none. -/
def render : Double → Option (List Char)
  | .finite negative mantissa exponent =>
    let sign := if negative then ['-'] else []
    if mantissa = 0 then some (sign ++ ['0', '.', '0'])
    else
      let (digits, power) := shortest mantissa exponent
      let (digits, power) := withoutTrailingZeros (Nat.toDigits 10 digits) power
      some (sign ++ renderDecimal digits power)
  | .infinite _ | .nan => none

end LiquidHover.Double
