/-
**Values without quotes.** Numbers, Booleans, dates and times of a TOML document.

* `integer?` — whole numbers within 64 bits, also with base 16, 8 or 2.
* `float?` — numbers with a fraction or an exponent within the range of doubles.
* `isMoment` — dates and times of the calendar.
* `scalar?` — the value of a token.
-/
import LiquidHover.Number.Decimal
import LiquidHover.Text.Hex
import LiquidHover.Text.Split
import LiquidHover.Toml.Basic

namespace LiquidHover.Toml

open Text (hexDigit? splitAt)

/-- The digits of a number in which single underscores may stand between digits. -/
def digits? (isDigit : Char → Bool) (text : List Char) : Option (List Char) :=
  let groups := splitAt '_' text
  if groups.all fun group => !group.isEmpty && group.all isDigit then some groups.flatten else none

/-- The value of digits in a base. -/
def valueIn (base : Nat) (digits : List Char) : Nat :=
  digits.foldl (fun total c => total * base + (hexDigit? c).getD 0) 0

/-- The digits of a decimal number without a superfluous zero in front. -/
def decimal? (text : List Char) : Option (List Char) :=
  if text.head? = some '0' ∧ text ≠ ['0'] then none else digits? Char.isDigit text

/-- The sign of a number and what follows it. -/
def cutSign : List Char → Bool × List Char
  | '-' :: rest => (true, rest)
  | '+' :: rest => (false, rest)
  | text => (false, text)

/-- An integer, when it fits 64 bits. -/
def bounded? (value : Int) : Option Int :=
  if Number.fitsSigned64 value then some value else none

/-- The value of a token that is written as an integer. -/
def integer? : List Char → Option Int
  | '0' :: 'x' :: rest =>
    (digits? (fun c => (hexDigit? c).isSome) rest).bind fun digits => bounded? (valueIn 16 digits)
  | '0' :: 'o' :: rest =>
    (digits? (fun c => c.isDigit && c < '8') rest).bind fun digits => bounded? (valueIn 8 digits)
  | '0' :: 'b' :: rest =>
    (digits? (fun c => c == '0' || c == '1') rest).bind fun digits => bounded? (valueIn 2 digits)
  | text =>
    let (negative, body) := cutSign text
    (decimal? body).bind fun digits =>
      bounded? (if negative then -(valueIn 10 digits : Int) else valueIn 10 digits)

/-- The exponent after its mark. -/
def exponent? (text : List Char) : Option Int :=
  let (negative, body) := cutSign text
  (digits? Char.isDigit body).map fun digits =>
    if negative then -(valueIn 10 digits : Int) else valueIn 10 digits

/-- The double of a number with a fraction, an exponent or both. -/
def finite? (negative : Bool) (text : List Char) : Option Double := do
  let isMark (c : Char) : Bool := c == 'e' || c == 'E'
  let mantissa := text.takeWhile (!isMark ·)
  let power := text.dropWhile (!isMark ·)
  let exponent ← if power.isEmpty then some 0 else exponent? power.tail
  let whole ← decimal? (mantissa.takeWhile (· != '.'))
  let tail := mantissa.dropWhile (· != '.')
  let fraction ← if tail.isEmpty then some [] else digits? Char.isDigit tail.tail
  let value := Double.ofDecimal negative (valueIn 10 (whole ++ fraction)) (exponent - fraction.length)
  if (power.isEmpty && tail.isEmpty) || value.isInfinite then none else some value

/-- The value of a token that is written as a float. -/
def float? (text : List Char) : Option Double :=
  let (negative, body) := cutSign text
  match body with
  | ['i', 'n', 'f'] => some (.infinite negative)
  | ['n', 'a', 'n'] => some .nan
  | _ => finite? negative body

/-! ### Dates and times -/

/-- The value of the first `count` characters as decimal digits, and the text after them. -/
def fixedDigits? (count : Nat) (text : List Char) : Option (Nat × List Char) :=
  let digits := text.take count
  if digits.length = count ∧ digits.all Char.isDigit then some (valueIn 10 digits, text.drop count)
  else none

/-- The text after a character. -/
def expect? (c : Char) : List Char → Option (List Char)
  | d :: rest => if d = c then some rest else none
  | [] => none

/-- The number of days of a month. -/
def daysIn (year month : Nat) : Nat :=
  if month = 2 then
    if year % 4 = 0 ∧ (year % 100 ≠ 0 ∨ year % 400 = 0) then 29 else 28
  else if month ∈ [4, 6, 9, 11] then 30
  else 31

/-- The text after a date. -/
def afterDate? (text : List Char) : Option (List Char) := do
  let (year, rest) ← fixedDigits? 4 text
  let (month, rest) ← fixedDigits? 2 (← expect? '-' rest)
  let (day, rest) ← fixedDigits? 2 (← expect? '-' rest)
  if 1 ≤ month ∧ month ≤ 12 ∧ 1 ≤ day ∧ day ≤ daysIn year month then some rest else none

/-- The text after the fraction of a second, if there is one. -/
def afterFraction? : List Char → Option (List Char)
  | '.' :: digit :: rest => if digit.isDigit then some (rest.dropWhile Char.isDigit) else none
  | '.' :: [] => none
  | text => some text

/-- The text after a time. The second may be left out, and may be a leap second. -/
def afterTime? (text : List Char) : Option (List Char) := do
  let (hour, rest) ← fixedDigits? 2 text
  let (minute, rest) ← fixedDigits? 2 (← expect? ':' rest)
  if hour ≤ 23 ∧ minute ≤ 59 then
    match rest with
    | ':' :: seconds =>
      let (second, rest) ← fixedDigits? 2 seconds
      if second ≤ 60 then afterFraction? rest else none
    | _ => some rest
  else none

/-- Whether a text is empty or the distance to universal time. -/
def isOffset (text : List Char) : Bool :=
  match text with
  | [] | ['Z'] | ['z'] => true
  | sign :: rest =>
    (sign == '+' || sign == '-') &&
      match (do
        let (hour, rest) ← fixedDigits? 2 rest
        let (minute, rest) ← fixedDigits? 2 (← expect? ':' rest)
        return decide (hour ≤ 23 ∧ minute ≤ 59 ∧ rest = []) : Option Bool) with
      | some valid => valid
      | none => false

/-- Whether a token is a date, a time or both, with or without a distance to universal time. -/
def isMoment (text : List Char) : Bool :=
  match afterDate? text with
  | some [] => true
  | some (mark :: time) => (mark == 'T' || mark == 't' || mark == ' ') && (afterTime? time).any isOffset
  | none => (afterTime? text) == some []

/-- The value of a token without quotes. -/
def scalar? (token : List Char) : Option Scalar :=
  if token = ['t', 'r', 'u', 'e'] then some (.boolean true)
  else if token = ['f', 'a', 'l', 's', 'e'] then some (.boolean false)
  else
    match integer? token with
    | some value => some (.integer value)
    | none =>
      match float? token with
      | some value => some (.float value)
      | none => if isMoment token then some (.moment (String.ofList token)) else none

end LiquidHover.Toml
