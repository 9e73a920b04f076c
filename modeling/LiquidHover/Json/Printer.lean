/-
**Writing JSON.** The compact form: no blanks, fields in the order in which the object holds them,
and only quotes, backslashes and control characters escaped.

* `Json.quote` — a string literal.
* `Json.compact` — a value.
-/
import LiquidHover.Json.Basic
import LiquidHover.Number.Shortest

namespace LiquidHover.Json

/-- A hexadecimal digit. -/
def hexChar (digit : Nat) : Char := (Nat.digitChar digit)

/-- A character as it is written in a string literal. -/
def escape (c : Char) : List Char :=
  match c with
  | '"' => ['\\', '"']
  | '\\' => ['\\', '\\']
  | '\x08' => ['\\', 'b']
  | '\x0c' => ['\\', 'f']
  | '\n' => ['\\', 'n']
  | '\r' => ['\\', 'r']
  | '\t' => ['\\', 't']
  | c =>
    if c.toNat < 0x20 then
      ['\\', 'u', '0', '0', hexChar (c.toNat / 16), hexChar (c.toNat % 16)]
    else [c]

/-- A string literal. -/
def quote (value : String) : String :=
  String.ofList ('"' :: value.toList.flatMap escape ++ ['"'])

/-- The text of a double. A number that is not finite is written as null. -/
def doubleText (value : Double) : String :=
  match value.render with
  | some digits => String.ofList digits
  | none => "null"

mutual

/-- The compact text of a value. -/
def compact : Json → String
  | .null => "null"
  | .bool value => if value then "true" else "false"
  | .int value => toString value
  | .double value => doubleText value
  | .string value => quote value
  | .array items => "[" ++ ",".intercalate (compactItems items) ++ "]"
  | .object fields => "\x7b" ++ ",".intercalate (compactFields fields) ++ "\x7d"

/-- The compact texts of the items of an array. -/
def compactItems : List Json → List String
  | [] => []
  | item :: items => item.compact :: compactItems items

/-- The compact texts of the fields of an object. -/
def compactFields : List (String × Json) → List String
  | [] => []
  | (name, value) :: fields => (quote name ++ ":" ++ value.compact) :: compactFields fields

end

end LiquidHover.Json
