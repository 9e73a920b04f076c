/-
**Parts of a text by bytes.** A text can be cut at a byte offset if a character begins there or the text
ends there. Inside a character and past the end there is no place to cut.

* `cutAt?` — what stands before a byte offset, and what stands behind it.
* `slice?` — what stands between two byte offsets.
-/

namespace LiquidHover.Text

/-- The text before and the text behind a byte offset. -/
def cutAt? : (offset : Nat) → List Char → Option (List Char × List Char)
  | 0, text => some ([], text)
  | _ + 1, [] => none
  | offset + 1, c :: rest =>
    if c.utf8Size ≤ offset + 1 then
      (cutAt? (offset + 1 - c.utf8Size) rest).map fun (front, back) => (c :: front, back)
    else none

/-- The text between two byte offsets. -/
def slice? (text : List Char) (start stop : Nat) : Option (List Char) :=
  if start ≤ stop then do
    let (_, behind) ← cutAt? start text
    let (part, _) ← cutAt? (stop - start) behind
    return part
  else none

end LiquidHover.Text
