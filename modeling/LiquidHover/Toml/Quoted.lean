/-
**Quoted values.** The strings of a TOML document: between `"` with escapes, between `'` without, and
both also over several lines between three quotes.

* `readBasic?`, `readLiteral?` — a string on one line, after its opening quote.
* `readLong?` — a string over several lines, after its three opening quotes.
-/
import LiquidHover.Text.Hex

namespace LiquidHover.Toml

open Text (readCodePoint?)

/-- Whether a character may stand in a string or a comment: no control character but the tab. -/
def isPrintable (c : Char) : Bool := c == '\t' || (0x20 ≤ c.toNat && c.toNat != 0x7F)

/-- Whether a character is a space or a tab. -/
def isSpace (c : Char) : Bool := c == ' ' || c == '\t'

/-- The text after a line break, when it begins with one. -/
def afterNewline? : List Char → Option (List Char)
  | '\n' :: rest => some rest
  | '\r' :: '\n' :: rest => some rest
  | _ => none

/-- The character of an escape, after its backslash. -/
def readEscape? : List Char → Option (Char × List Char)
  | 'b' :: rest => some ('\x08', rest)
  | 't' :: rest => some ('\t', rest)
  | 'n' :: rest => some ('\n', rest)
  | 'f' :: rest => some ('\x0c', rest)
  | 'r' :: rest => some ('\r', rest)
  | 'e' :: rest => some ('\x1b', rest)
  | '"' :: rest => some ('"', rest)
  | '\\' :: rest => some ('\\', rest)
  | 'x' :: rest => readCodePoint? 2 rest
  | 'u' :: rest => readCodePoint? 4 rest
  | 'U' :: rest => readCodePoint? 8 rest
  | _ => none

/-- The characters of a string with escapes on one line, in reverse in front of `read`. Each round
reads at least one character, so `fuel` is the length of the text. -/
def readBasicFrom? (read : List Char) : (fuel : Nat) → List Char → Option (List Char × List Char)
  | 0, _ => none
  | fuel + 1, text =>
    match text with
    | [] => none
    | '"' :: rest => some (read.reverse, rest)
    | '\\' :: rest =>
      match readEscape? rest with
      | some (c, after) => readBasicFrom? (c :: read) fuel after
      | none => none
    | c :: rest => if isPrintable c then readBasicFrom? (c :: read) fuel rest else none

/-- A string with escapes on one line. -/
def readBasic? (text : List Char) : Option (List Char × List Char) :=
  readBasicFrom? [] text.length text

/-- A string without escapes on one line. -/
def readLiteral? (text : List Char) : Option (List Char × List Char) :=
  let body := text.takeWhile (· != '\'')
  match text.dropWhile (· != '\'') with
  | _ :: rest => if body.all isPrintable then some (body, rest) else none
  | [] => none

/-- The text without leading spaces, tabs and line breaks. -/
def skipLines : List Char → List Char
  | ' ' :: rest => skipLines rest
  | '\t' :: rest => skipLines rest
  | '\n' :: rest => skipLines rest
  | '\r' :: '\n' :: rest => skipLines rest
  | text => text

/-- How many of the quotes with which a text begins belong to the end of a string over several lines:
three close it, and up to two in front of those are its last characters. -/
def closingRun (quote : Char) (text : List Char) : Nat :=
  min (text.takeWhile (· == quote)).length 5

/-- The characters of a string over several lines, in reverse in front of `read`. A backslash at the
end of a line skips the line break and all blanks after it. -/
def readLongFrom? (quote : Char) (escapes : Bool) (read : List Char) :
    (fuel : Nat) → List Char → Option (List Char × List Char)
  | 0, _ => none
  | fuel + 1, text =>
    match text with
    | [] => none
    | c :: rest =>
      if c = quote then
        let run := closingRun quote text
        if 3 ≤ run then
          some ((List.replicate (run - 3) quote ++ read).reverse, text.drop run)
        else readLongFrom? quote escapes (c :: read) fuel rest
      else if escapes && c == '\\' then
        match afterNewline? (rest.dropWhile isSpace) with
        | some after => readLongFrom? quote escapes read fuel (skipLines after)
        | none =>
          match readEscape? rest with
          | some (d, after) => readLongFrom? quote escapes (d :: read) fuel after
          | none => none
      else
        match afterNewline? text with
        | some after => readLongFrom? quote escapes ('\n' :: read) fuel after
        | none => if isPrintable c then readLongFrom? quote escapes (c :: read) fuel rest else none

/-- A string over several lines. A line break directly after the opening quotes is not part of it. -/
def readLong? (quote : Char) (escapes : Bool) (text : List Char) : Option (List Char × List Char) :=
  let body := (afterNewline? text).getD text
  readLongFrom? quote escapes [] body.length body

end LiquidHover.Toml
