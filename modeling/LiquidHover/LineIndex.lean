/-
**Lines by their places.** The lines of a text can be found again without reading the text from its
start, if the byte offsets at which they begin are known. Offsets have 32 bits.

* `LineIndex.ofText` — the places of the lines of a text, found in one pass.
* `LineIndex.raw?` — a line with its terminator, cut out of the text.
* `LineIndex.line?` — the same line without its terminator; `LineIndex.lineAt?` takes any number.
-/
import LiquidHover.Lines
import LiquidHover.Text.Slice

namespace LiquidHover

/-- The places of the lines of a text. -/
structure LineIndex where
  /-- The byte offset at which each line begins. -/
  starts : Array UInt32
  /-- The number of bytes of the text. -/
  size : UInt32
  deriving DecidableEq, Repr

namespace LineIndex

/-- Before anything is read there is one line, which begins at the start. -/
def empty : LineIndex := ⟨#[0], 0⟩

/-- The index after one more character. Behind a line feed another line begins. -/
def read (index : LineIndex) (c : Char) : LineIndex :=
  let size := index.size + .ofNat c.utf8Size
  { starts := if c = '\n' then index.starts.push size else index.starts, size }

/-- The places of the lines of a text. -/
def ofText (text : List Char) : LineIndex := text.foldl read empty

/-- The number of lines. -/
def count (index : LineIndex) : Nat := index.starts.size

/-- Where a line begins, and where the next one begins or the text ends. -/
def stretch? (index : LineIndex) (number : UInt32) : Option (UInt32 × UInt32) :=
  index.starts[number.toNat]?.map fun start =>
    (start, index.starts[number.toNat + 1]?.getD index.size)

/-- A line of the text with its terminator. -/
def raw? (index : LineIndex) (text : List Char) (number : UInt32) : Option (List Char) := do
  let (start, stop) ← index.stretch? number
  Text.slice? text start.toNat stop.toNat

/-- A line without its terminator: a line feed and one carriage return before it. Without a line feed
the line is the last one and is kept as it is. -/
def dropTerminator (raw : List Char) : List Char :=
  if raw.getLast? = some '\n' then Lines.dropReturn raw.dropLast else raw

/-- A line of the text, counted from zero. -/
def line? (index : LineIndex) (text : List Char) (number : UInt32) : Option (List Char) :=
  (index.raw? text number).map dropTerminator

/-- A line of the text by any number. Lines whose number has more than 32 bits cannot be asked for. -/
def lineAt? (index : LineIndex) (text : List Char) (number : Nat) : Option (List Char) :=
  if number < UInt32.size then index.line? text (.ofNat number) else none

end LineIndex

end LiquidHover
