/-
**Where a text stands in another.** `OccursAt pattern text position` says that the characters of
`text` from `position` on begin with `pattern`.

* `occursAt_iff_extract` — the same, as a cut out of the text.
* `OccursAt.trans` — a part of a part is a part, at the sum of the two positions.
* `occursAt_append_left` — positions count on behind a text in front.
-/
import Mathlib.Data.List.Infix

namespace LiquidHover.Text

/-- The pattern stands in the text from a position on. -/
def OccursAt (pattern text : List Char) (position : Nat) : Prop :=
  pattern <+: text.drop position

instance (pattern text : List Char) (position : Nat) : Decidable (OccursAt pattern text position) :=
  inferInstanceAs (Decidable (pattern <+: text.drop position))

variable {pattern part text : List Char} {position offset : Nat}

/-- What occurs at a position can be cut out there. -/
theorem occursAt_iff_extract :
    OccursAt pattern text position ↔
      text.extract position (position + pattern.length) = pattern := by
  rw [OccursAt, List.prefix_iff_eq_take, List.extract_eq_take_drop, Nat.add_sub_cancel_left]
  exact eq_comm

/-- What is cut out of a text between two places is empty unless they are in order. -/
theorem lt_of_extract_eq {start stop : Nat} (written : text.extract start stop = part)
    (nonempty : part ≠ []) : start < stop := by
  refine Nat.lt_of_not_le fun reversed => nonempty ?_
  rw [← written, List.extract_eq_take_drop, Nat.sub_eq_zero_of_le reversed, List.take_zero]

theorem occursAt_drop :
    OccursAt pattern (text.drop offset) position ↔ OccursAt pattern text (offset + position) := by
  rw [OccursAt, OccursAt, List.drop_drop]

/-- **Positions count on behind a text in front.** -/
theorem occursAt_append_left (front : List Char) :
    OccursAt pattern (front ++ text) (front.length + position) ↔ OccursAt pattern text position := by
  rw [OccursAt, List.drop_length_add_append, OccursAt]

/-- A text occurs where it was put. -/
theorem occursAt_middle (front back : List Char) :
    OccursAt pattern (front ++ pattern ++ back) front.length := by
  rw [OccursAt, List.append_assoc, List.drop_left]
  exact List.prefix_append _ _

/-- What occurs stays where it is when text is added behind. -/
theorem OccursAt.append_right (occurs : OccursAt pattern text position) (back : List Char) :
    OccursAt pattern (text ++ back) position := by
  rw [OccursAt, List.drop_append]
  exact occurs.trans (List.prefix_append _ _)

/-- What occurs in front of what was added was there before. -/
theorem OccursAt.of_append_right {back : List Char} (occurs : OccursAt pattern (text ++ back) position)
    (room : position + pattern.length ≤ text.length) : OccursAt pattern text position := by
  rw [OccursAt, List.drop_append_of_le_length (by omega)] at occurs
  refine List.prefix_of_prefix_length_le occurs (List.prefix_append _ _) ?_
  rw [List.length_drop]
  omega

/-- **A part of a part is a part.** -/
theorem OccursAt.trans (inner : OccursAt pattern part offset) (outer : OccursAt part text position) :
    OccursAt pattern text (position + offset) := by
  obtain ⟨back, whole⟩ := outer
  rw [← occursAt_drop, ← whole]
  exact inner.append_right back

/-- What occurs ends within the text. -/
theorem OccursAt.add_length_le (occurs : OccursAt pattern text position)
    (nonempty : pattern ≠ []) : position + pattern.length ≤ text.length := by
  have room := List.IsPrefix.length_le occurs
  have positive := List.length_pos_iff.mpr nonempty
  rw [List.length_drop] at room
  omega

end LiquidHover.Text
