/-
**Blank characters.** The characters with the Unicode property `White_Space`, and trimming by them.

* `isBlank` — the class. Information separators (U+001C to U+001F), the zero-width space and the
  byte order mark are not in it.
* `trimStart`, `trimEnd`, `trim` — the text without its blank ends.
-/

namespace LiquidHover.Text

/-- Whether a character has the property `White_Space`. -/
def isBlank (c : Char) : Bool :=
  let code := c.toNat
  (0x09 ≤ code && code ≤ 0x0D) || code == 0x20 || code == 0x85 || code == 0xA0 || code == 0x1680
    || (0x2000 ≤ code && code ≤ 0x200A) || code == 0x2028 || code == 0x2029 || code == 0x202F
    || code == 0x205F || code == 0x3000

example : [0x08, 0x0E, 0x1C, 0x1F, 0x180E, 0x200B, 0x2060, 0xFEFF].all
    (fun code => !isBlank (Char.ofNat code)) = true := by
  decide +kernel

/-- The text without the leading characters that satisfy `drop`. -/
def stripStart (drop : Char → Bool) (text : List Char) : List Char := text.dropWhile drop

/-- The text without the trailing characters that satisfy `drop`. -/
def stripEnd (drop : Char → Bool) (text : List Char) : List Char :=
  (text.reverse.dropWhile drop).reverse

/-- The text without leading blanks. -/
def trimStart (text : List Char) : List Char := stripStart isBlank text

/-- The text without trailing blanks. -/
def trimEnd (text : List Char) : List Char := stripEnd isBlank text

/-- The text without blanks at either end. -/
def trim (text : List Char) : List Char := trimEnd (trimStart text)

/-- The number of leading blanks. -/
def blankPrefixLength (text : List Char) : Nat := (text.takeWhile isBlank).length

theorem length_trimStart (text : List Char) :
    (trimStart text).length + blankPrefixLength text = text.length := by
  have whole := congrArg List.length (List.takeWhile_append_dropWhile (p := isBlank) (l := text))
  rw [List.length_append] at whole
  simp only [trimStart, stripStart, blankPrefixLength]
  omega

end LiquidHover.Text
