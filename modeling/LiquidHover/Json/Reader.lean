/-
**Reading JSON.** A strict reader of one value. Nesting is bounded, names may repeat (the last one
counts), and after the value only blanks may follow.

* `Json.readString?` — a string after its opening quote; escapes of half a surrogate pair are
  refused.
* `Json.readValue?` — a value within a number of levels of nesting.
* `Json.parse?` — a whole text, at most `Json.depthLimit` levels deep.
-/
import LiquidHover.Json.Number
import LiquidHover.Text.Hex

namespace LiquidHover.Json

open Text (charOf? readHex?)

/-- The number of levels of arrays and objects that a text may have. -/
def depthLimit : Nat := 127

/-- The text without leading spaces, tabs and line breaks. -/
def skipBlanks (text : List Char) : List Char :=
  text.dropWhile fun c => c == ' ' || c == '\n' || c == '\t' || c == '\r'

/-- The character of an escape with four digits. The first half of a surrogate pair needs the second
half in an escape directly after it. -/
def readUnit? (text : List Char) : Option (Char × List Char) := do
  let (unit, rest) ← readHex? 4 text
  if 0xD800 ≤ unit ∧ unit ≤ 0xDBFF then
    match rest with
    | '\\' :: 'u' :: more =>
      let (low, after) ← readHex? 4 more
      if 0xDC00 ≤ low ∧ low ≤ 0xDFFF then
        (charOf? (0x10000 + (unit - 0xD800) * 0x400 + (low - 0xDC00))).map (·, after)
      else none
    | _ => none
  else (charOf? unit).map (·, rest)

/-- The character of an escape, after its backslash. -/
def readEscape? : List Char → Option (Char × List Char)
  | '"' :: rest => some ('"', rest)
  | '\\' :: rest => some ('\\', rest)
  | '/' :: rest => some ('/', rest)
  | 'b' :: rest => some ('\x08', rest)
  | 'f' :: rest => some ('\x0c', rest)
  | 'n' :: rest => some ('\n', rest)
  | 'r' :: rest => some ('\r', rest)
  | 't' :: rest => some ('\t', rest)
  | 'u' :: rest => readUnit? rest
  | _ => none

/-- The characters of a string up to its closing quote, in reverse in front of `read`. Each round
reads at least one character, so `fuel` is the length of the text. -/
def readCharacters? (read : List Char) : (fuel : Nat) → List Char → Option (List Char × List Char)
  | 0, _ => none
  | fuel + 1, text =>
    match text with
    | [] => none
    | '"' :: rest => some (read.reverse, rest)
    | '\\' :: rest =>
      match readEscape? rest with
      | some (c, after) => readCharacters? (c :: read) fuel after
      | none => none
    | c :: rest => if c.toNat < 0x20 then none else readCharacters? (c :: read) fuel rest

/-- The string after an opening quote. -/
def readString? (text : List Char) : Option (String × List Char) :=
  (readCharacters? [] text.length text).map fun (read, rest) => (String.ofList read, rest)

/-- The value of a keyword with which a text begins. -/
def readKeyword? (text : List Char) : Option (Json × List Char) :=
  match text with
  | 'n' :: 'u' :: 'l' :: 'l' :: rest => some (.null, rest)
  | 't' :: 'r' :: 'u' :: 'e' :: rest => some (.bool true, rest)
  | 'f' :: 'a' :: 'l' :: 's' :: 'e' :: rest => some (.bool false, rest)
  | _ => none

/-- A value that holds no others. -/
def readScalar? (text : List Char) : Option (Json × List Char) :=
  match text with
  | '"' :: rest => (readString? rest).map fun (value, after) => (.string value, after)
  | c :: _ => if c.isDigit || c == '-' then readNumber? text else readKeyword? text
  | [] => none

/-- The items of an array from the first of the remaining ones up to the closing bracket. Each round
reads at least one character, so `fuel` is the length of the text. -/
def readItems? (item? : List Char → Option (Json × List Char)) (read : List Json) :
    (fuel : Nat) → List Char → Option (List Json × List Char)
  | 0, _ => none
  | fuel + 1, text =>
    match item? (skipBlanks text) with
    | none => none
    | some (item, rest) =>
      match skipBlanks rest with
      | ',' :: more => readItems? item? (item :: read) fuel more
      | ']' :: after => some ((item :: read).reverse, after)
      | _ => none

/-- The fields of an object from the first of the remaining ones up to the closing brace. -/
def readFields? (item? : List Char → Option (Json × List Char)) (read : List (String × Json)) :
    (fuel : Nat) → List Char → Option (List (String × Json) × List Char)
  | 0, _ => none
  | fuel + 1, text =>
    match skipBlanks text with
    | '"' :: named =>
      match readString? named with
      | none => none
      | some (name, rest) =>
        match skipBlanks rest with
        | ':' :: value =>
          match item? (skipBlanks value) with
          | none => none
          | some (item, after) =>
            let fields := Keyed.insert name item read
            match skipBlanks after with
            | ',' :: more => readFields? item? fields fuel more
            | '}' :: tail => some (fields, tail)
            | _ => none
        | _ => none
    | _ => none

/-- The value with which a text begins, with at most `depth` levels of arrays and objects. -/
def readValue? : (depth : Nat) → List Char → Option (Json × List Char)
  | 0, text => readScalar? text
  | depth + 1, text =>
    match text with
    | '[' :: rest =>
      match skipBlanks rest with
      | ']' :: after => some (.array [], after)
      | items =>
        (readItems? (readValue? depth) [] items.length items).map fun (read, after) =>
          (.array read, after)
    | '{' :: rest =>
      match skipBlanks rest with
      | '}' :: after => some (.object [], after)
      | fields =>
        (readFields? (readValue? depth) [] fields.length fields).map fun (read, after) =>
          (.object read, after)
    | _ => readScalar? text

/-- The value of a whole text, with at most `depth` levels. -/
def parseWithin? (depth : Nat) (text : List Char) : Option Json :=
  match readValue? depth (skipBlanks text) with
  | some (value, rest) => if (skipBlanks rest).isEmpty then some value else none
  | none => none

/-- The value of a whole text. -/
def parse? (text : String) : Option Json := parseWithin? depthLimit text.toList

end LiquidHover.Json
