/-
**Spans of a line.** A span is a stretch of characters of one line, given by the offset of its first
character and its length. Both numbers are bounded by `Span.limit`: a constructor that is handed a
larger number clamps it, so no operation on spans wraps.

* `Span.ofParts`, `Span.ofBounds` — the two constructors, from a length or from an exclusive end.
* `Span.stop` — the exclusive end, itself clamped.
* `Span.covers` — the cursor test, inclusive on both ends.
-/

namespace LiquidHover

/-- The largest offset, length and column that is ever reported. -/
def Span.limit : Nat := 4294967295

/-- A stretch of characters of one line. -/
structure Span where
  /-- Offset of the first character. -/
  start : Nat
  /-- Number of characters. -/
  length : Nat
  start_le : start ≤ Span.limit
  length_le : length ≤ Span.limit
  deriving DecidableEq, Repr

namespace Span

/-- The length that is kept for a span at `start`: a length beyond the limit becomes the distance
from the start to the limit. -/
def clampLength (start length : Nat) : Nat :=
  if length ≤ limit then length else limit - start

theorem clampLength_le (start length : Nat) : clampLength start length ≤ limit := by
  unfold clampLength
  split
  · assumption
  · exact Nat.sub_le _ _

/-- The span of `length` characters from `start`. -/
def ofParts (start length : Nat) : Span where
  start := min start limit
  length := clampLength (min start limit) length
  start_le := Nat.min_le_right _ _
  length_le := clampLength_le _ _

/-- The span from `start` up to, and not including, `stop`; empty when the bounds are inverted. -/
def ofBounds (start stop : Nat) : Span := ofParts start (stop - start)

/-- The offset one past the last character. -/
def stop (span : Span) : Nat := min (span.start + span.length) limit

/-- The span moved right by `distance` characters. -/
def shift (span : Span) (distance : Nat) : Span := ofParts (span.start + distance) span.length

/-- Whether `offset` lies between the two ends. A cursor directly after the last character still
counts as being on the span. -/
def covers (span : Span) (offset : Nat) : Bool :=
  decide (span.start ≤ offset) && decide (offset ≤ span.stop)

theorem covers_iff {span : Span} {offset : Nat} :
    span.covers offset = true ↔ span.start ≤ offset ∧ offset ≤ span.stop := by
  simp [covers]

@[simp] theorem ofParts_start (start length : Nat) :
    (ofParts start length).start = min start limit := rfl

theorem ofParts_stop {start length : Nat} (within : start + length ≤ limit) :
    (ofParts start length).stop = start + length := by
  simp only [stop, ofParts, clampLength]
  rw [if_pos (by omega)]
  omega

/-- **Moving a span keeps its length.** -/
@[simp] theorem shift_length (span : Span) (distance : Nat) :
    (span.shift distance).length = span.length := by
  simp [shift, ofParts, clampLength, span.length_le]

end Span

end LiquidHover
