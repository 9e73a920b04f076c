/-
**Spans in machine words.** The two numbers of a span are words of 32 bits, and the offsets that are handed in are
words of 64. A number with too many bits is clamped, so no operation wraps.

* `Word.addUpTo`, `Word.subDownTo`, `Word.narrow?` — sums, differences and conversions of words.
* `PackedSpan.ofParts`, `PackedSpan.ofBounds` — a span from offsets.
* `PackedSpan.stop`, `PackedSpan.shift`, `PackedSpan.covers` — the operations of spans.
* `PackedSpan.unpack` — the span with these numbers.
-/
import LiquidHover.Span

namespace LiquidHover

namespace Word

variable {width : Nat}

/-- The sum of two words; the largest word if their sum wraps. -/
def addUpTo (first second : BitVec width) : BitVec width :=
  if first + second < first then .allOnes width else first + second

/-- The difference of two words; zero if the second is larger. -/
def subDownTo (first second : BitVec width) : BitVec width :=
  if second ≤ first then first - second else 0

/-- An offset in 32 bits, if it has no more. -/
def narrow? (offset : BitVec 64) : Option (BitVec 32) :=
  if offset ≤ (BitVec.allOnes 32).setWidth 64 then some (offset.setWidth 32) else none

end Word

open Word

/-- A span in two words. -/
structure PackedSpan where
  start : BitVec 32
  length : BitVec 32
  deriving DecidableEq, Repr

namespace PackedSpan

/-- The span of `length` characters from `start`. -/
def ofParts (start length : BitVec 64) : PackedSpan :=
  let first := (narrow? start).getD (.allOnes 32)
  { start := first, length := (narrow? length).getD (subDownTo (.allOnes 32) first) }

/-- The span from `start` up to, and not including, `stop`; empty when the bounds are inverted. -/
def ofBounds (start stop : BitVec 64) : PackedSpan := ofParts start (subDownTo stop start)

/-- The offset one past the last character. -/
def stop (span : PackedSpan) : BitVec 32 := addUpTo span.start span.length

/-- The span moved right by `distance` characters. -/
def shift (span : PackedSpan) (distance : BitVec 64) : PackedSpan :=
  ofParts (addUpTo (span.start.setWidth 64) distance) (span.length.setWidth 64)

/-- Whether `offset` lies between the two ends. -/
def covers (span : PackedSpan) (offset : BitVec 64) : Bool :=
  decide (span.start.setWidth 64 ≤ offset) && decide (offset ≤ span.stop.setWidth 64)

/-- The span with the numbers of the two words. -/
def unpack (span : PackedSpan) : Span where
  start := span.start.toNat
  length := span.length.toNat
  start_le := Nat.le_of_lt_succ span.start.isLt
  length_le := Nat.le_of_lt_succ span.length.isLt

end PackedSpan

end LiquidHover
