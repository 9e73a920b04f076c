/-
**Double precision numbers.** A finite double is a sign, a mantissa below `2^53` and a power of two.
Every operation is an exact computation on natural numbers followed by one rounding, to the nearest
double and, between two equally near ones, to the one with the even mantissa.

* `Double.ofRatio` — the double nearest to a quotient; the one place where rounding happens.
* `Double.ofDecimal` — the double nearest to `digits · 10^exponent`.
* `Double.mul`, `Double.div` — the two operations that scale a number.
* `Double.toWord` — the nearest natural number below `2^64`, halves away from zero.
-/
import LiquidHover.Number.Decimal

namespace LiquidHover

/-- A number of double precision. -/
inductive Double where
  /-- The number `± mantissa · 2^exponent`. -/
  | finite (negative : Bool) (mantissa : Nat) (exponent : Int)
  | infinite (negative : Bool)
  | nan
  deriving DecidableEq, Repr

namespace Double

/-- The number above all mantissas, `2^53`. -/
def mantissaLimit : Nat := 9007199254740992

/-- A quotient rounded to the nearest natural number, halves to the even neighbour. -/
def roundQuotient (num den : Nat) : Nat :=
  let floor := num / den
  let rest := num % den
  if 2 * rest < den then floor
  else if den < 2 * rest then floor + 1
  else floor + floor % 2

/-- The quotient `num / den` in units of `2^exponent`. -/
def inUnits (num den : Nat) (exponent : Int) : Nat × Nat :=
  if 0 ≤ exponent then (num, den * Nat.pow 2 exponent.toNat) else (num * Nat.pow 2 (-exponent).toNat, den)

/-- The exponent with which a positive quotient is written: the quotient lies below `2^53` units, and
not below `2^52` unless the exponent is the least one. -/
def exponentOf (num den : Nat) : Int :=
  let guess := max ((Nat.log2 num : Int) - Nat.log2 den - 53) (-1074)
  let (n, d) := inUnits num den guess
  if n / d < mantissaLimit then guess else guess + 1

/-- The double nearest to a quotient. -/
def ofRatio (negative : Bool) (num den : Nat) : Double :=
  if num = 0 then .finite negative 0 0
  else
    let exponent := exponentOf num den
    let (n, d) := inUnits num den exponent
    let mantissa := roundQuotient n d
    if mantissa = 0 then .finite negative 0 0
    else if mantissa = mantissaLimit then
      if exponent + 1 ≤ 971 then .finite negative (mantissaLimit / 2) (exponent + 1)
      else .infinite negative
    else if exponent ≤ 971 then .finite negative mantissa exponent
    else .infinite negative

/-- The double nearest to a natural number. -/
def ofNat (n : Nat) : Double := ofRatio false n 1

/-- The number of decimal digits. -/
def digitCount (n : Nat) : Nat := (Nat.toDigits 10 n).length

/-- The double nearest to `± digits · 10^exponent`. Numbers from `10^310` on are infinite and those
below `10^(-330)` are zero, so their powers of ten need not be computed. -/
def ofDecimal (negative : Bool) (digits : Nat) (exponent : Int) : Double :=
  let magnitude := exponent + digitCount digits
  if digits = 0 then .finite negative 0 0
  else if 310 < magnitude then .infinite negative
  else if magnitude < -330 then .finite negative 0 0
  else if 0 ≤ exponent then ofRatio negative (digits * Nat.pow 10 exponent.toNat) 1
  else ofRatio negative digits (Nat.pow 10 (-exponent).toNat)

/-- The sign bit. -/
def isNegative : Double → Bool
  | .finite negative _ _ => negative
  | .infinite negative => negative
  | .nan => false

def isZero : Double → Bool
  | .finite _ mantissa _ => mantissa == 0
  | _ => false

def isInfinite : Double → Bool
  | .infinite _ => true
  | _ => false

/-- The number with the other sign. -/
def neg : Double → Double
  | .finite negative mantissa exponent => .finite (!negative) mantissa exponent
  | .infinite negative => .infinite (!negative)
  | .nan => .nan

/-- The quotient `mantissa · 2^exponent` as numerator and denominator. -/
def ratioOf (mantissa : Nat) (exponent : Int) : Nat × Nat :=
  if 0 ≤ exponent then (mantissa * Nat.pow 2 exponent.toNat, 1) else (mantissa, Nat.pow 2 (-exponent).toNat)

/-- The product of two doubles. -/
def mul : Double → Double → Double
  | .finite s m e, .finite t n f =>
    let (num, den) := ratioOf (m * n) (e + f)
    ofRatio (s != t) num den
  | .nan, _ | _, .nan => .nan
  | a, b => if a.isZero || b.isZero then .nan else .infinite (a.isNegative != b.isNegative)

/-- The quotient of two doubles. -/
def div : Double → Double → Double
  | .finite s m e, .finite t n f =>
    if n = 0 then if m = 0 then .nan else .infinite (s != t)
    else
      let (num, den) := ratioOf 1 (e - f)
      ofRatio (s != t) (m * num) (n * den)
  | .nan, _ | _, .nan | .infinite _, .infinite _ => .nan
  | .infinite s, .finite t _ _ => .infinite (s != t)
  | .finite s _ _, .infinite t => .finite (s != t) 0 0

/-- The nearest natural number below `2^64`, halves away from zero. Negative numbers and what is not
a number give zero. -/
def toWord : Double → Nat
  | .finite true _ _ | .infinite true | .nan => 0
  | .infinite false => Number.maxWord64
  | .finite false mantissa exponent =>
    let (num, den) := ratioOf mantissa exponent
    min ((2 * num + den) / (2 * den)) Number.maxWord64

end Double

end LiquidHover
