/-
**Columns and offsets.** The column of an offset is the width of the text before it, and the offset of
a column is that of the character which the column falls into.

* `widthOf_take_le_of_offsetOf?` — a column is not before the character that it falls into.
* `offsetOf?_widthOf_take`, `offsetOf?_columnOf` — at the start of a character the offset is exact.
* `columnOf_mono`, `columnOf_le_widthOf` — columns grow with offsets, up to the width of the line.
* `IsFloorMap`, `isFloorMap_of_narrow` — the two conversions together: the offset of a column is the last
  one whose column is not behind it.
* `widthOf_le_utf8ByteSize` — in no encoding is a text wider than it has bytes.
-/
import LiquidHover.Column
import Mathlib.Data.String.Basic
import Mathlib.Order.Monotone.Defs

namespace LiquidHover.Encoding

variable {encoding : Encoding} {line : List Char} {column offset : Nat}

/-! ### Widths -/

theorem widthOf_append (encoding : Encoding) (front back : List Char) :
    encoding.widthOf (front ++ back) = encoding.widthOf front + encoding.widthOf back := by
  induction front with
  | nil => rw [List.nil_append, widthOf, Nat.zero_add]
  | cons c front ih => rw [List.cons_append, widthOf, widthOf, ih, Nat.add_assoc]

/-- Every character has a width. -/
theorem length_le_widthOf (encoding : Encoding) (line : List Char) :
    line.length ≤ encoding.widthOf line := by
  induction line with
  | nil => exact Nat.le_refl _
  | cons c rest ih =>
    have positive := encoding.width_pos c
    rw [List.length_cons, widthOf]
    omega

/-- A part is not wider than the whole. -/
theorem widthOf_take_le (encoding : Encoding) (line : List Char) (offset : Nat) :
    encoding.widthOf (line.take offset) ≤ encoding.widthOf line := by
  have whole := encoding.widthOf_append (line.take offset) (line.drop offset)
  rw [List.take_append_drop] at whole
  omega

theorem widthOf_take_mono (encoding : Encoding) (line : List Char) {first second : Nat}
    (ordered : first ≤ second) :
    encoding.widthOf (line.take first) ≤ encoding.widthOf (line.take second) := by
  have shorter := encoding.widthOf_take_le (line.take second) first
  rwa [List.take_take, Nat.min_eq_left ordered] at shorter

/-! ### From offsets to columns -/

theorem columnOf_mono (encoding : Encoding) (line : List Char) {first second : Nat}
    (ordered : first ≤ second) : encoding.columnOf line first ≤ encoding.columnOf line second := by
  have wider := encoding.widthOf_take_mono line ordered
  unfold columnOf
  omega

theorem columnOf_le_widthOf (encoding : Encoding) (line : List Char) (offset : Nat) :
    encoding.columnOf line offset ≤ encoding.widthOf line :=
  (Nat.min_le_left _ _).trans (encoding.widthOf_take_le line offset)

/-- In a line that is not too wide no column is clamped. -/
theorem columnOf_eq (narrow : encoding.widthOf line ≤ Span.limit) (offset : Nat) :
    encoding.columnOf line offset = encoding.widthOf (line.take offset) :=
  Nat.min_eq_left ((encoding.widthOf_take_le line offset).trans narrow)

/-! ### From columns to offsets -/

/-- **A column is not before the character that it falls into.** -/
theorem widthOf_take_le_of_offsetOf? (found : encoding.offsetOf? line column = some offset) :
    encoding.widthOf (line.take offset) ≤ column := by
  induction line generalizing column offset with
  | nil => simp [widthOf]
  | cons c rest ih =>
    simp only [offsetOf?] at found
    split at found
    · cases found
      exact Nat.zero_le _
    · rename_i behind
      obtain ⟨offset', found', rfl⟩ := Option.map_eq_some_iff.mp found
      have before := ih found'
      rw [List.take_succ_cons, widthOf]
      omega

/-- **At the start of a character the offset is exact**, and so it is at the end of the line. -/
theorem offsetOf?_widthOf_take (encoding : Encoding) (inside : offset ≤ line.length) :
    encoding.offsetOf? line (encoding.widthOf (line.take offset)) = some offset := by
  induction line generalizing offset with
  | nil =>
    obtain rfl := Nat.le_zero.mp inside
    rfl
  | cons c rest ih =>
    cases offset with
    | zero => exact if_pos (encoding.width_pos c)
    | succ offset =>
      have later := ih (Nat.le_of_succ_le_succ inside)
      rw [List.take_succ_cons, widthOf, offsetOf?, if_neg (by omega), Nat.add_sub_cancel_left, later]
      rfl

theorem offsetOf?_columnOf (narrow : encoding.widthOf line ≤ Span.limit)
    (inside : offset ≤ line.length) :
    encoding.offsetOf? line (encoding.columnOf line offset) = some offset := by
  rw [columnOf_eq narrow]
  exact encoding.offsetOf?_widthOf_take inside

/-- Only a column past the end of the line falls into no character. -/
theorem offsetOf?_eq_none_iff :
    encoding.offsetOf? line column = none ↔ encoding.widthOf line < column := by
  induction line generalizing column with
  | nil =>
    rw [offsetOf?, widthOf]
    split <;> simp <;> omega
  | cons c rest ih =>
    rw [offsetOf?, widthOf]
    split
    · simp only [reduceCtorEq, false_iff]
      omega
    · rw [Option.map_eq_none_iff, ih]
      omega

theorem le_length_of_offsetOf? (found : encoding.offsetOf? line column = some offset) :
    offset ≤ line.length := by
  induction line generalizing column offset with
  | nil =>
    rw [offsetOf?] at found
    split at found <;> cases found
    exact Nat.le_refl _
  | cons c rest ih =>
    rw [offsetOf?] at found
    split at found
    · cases found
      exact Nat.zero_le _
    · obtain ⟨offset', found', rfl⟩ := Option.map_eq_some_iff.mp found
      exact Nat.succ_le_succ (ih found')

/-- **A column is before the end of the character that it falls into.** -/
theorem lt_widthOf_take_succ_of_offsetOf? (found : encoding.offsetOf? line column = some offset)
    (inside : offset < line.length) : column < encoding.widthOf (line.take (offset + 1)) := by
  induction line generalizing column offset with
  | nil => exact absurd inside (Nat.not_lt_zero _)
  | cons c rest ih =>
    rw [offsetOf?] at found
    split at found
    · rename_i within
      cases found
      simpa [widthOf] using within
    · obtain ⟨offset', found', rfl⟩ := Option.map_eq_some_iff.mp found
      have before := ih found' (Nat.lt_of_succ_lt_succ inside)
      rw [List.take_succ_cons, widthOf]
      omega

/-- A smaller column falls into the same character or into an earlier one. -/
theorem le_of_offsetOf? {column' offset' : Nat} (ordered : column ≤ column')
    (found : encoding.offsetOf? line column = some offset)
    (found' : encoding.offsetOf? line column' = some offset') : offset ≤ offset' := by
  by_contra crossed
  have later : offset' + 1 ≤ offset := Nat.lt_of_not_le crossed
  have inside : offset' < line.length := later.trans (le_length_of_offsetOf? found)
  have impossible : column < column := calc
    column ≤ column' := ordered
    _ < encoding.widthOf (line.take (offset' + 1)) := lt_widthOf_take_succ_of_offsetOf? found' inside
    _ ≤ encoding.widthOf (line.take offset) := encoding.widthOf_take_mono line later
    _ ≤ column := widthOf_take_le_of_offsetOf? found
  exact Nat.lt_irrefl _ impossible

/-! ### Both directions -/

/-- The columns of the characters of a line, and the way back from any column: the offset of a column is
the last one whose column is not behind it. -/
structure IsFloorMap (encoding : Encoding) (line : List Char) : Prop where
  offset_column : ∀ offset ≤ line.length,
    encoding.offsetOf? line (encoding.columnOf line offset) = some offset
  past_end : ∀ column, encoding.offsetOf? line column = none ↔ encoding.widthOf line < column
  floor : ∀ column ≤ encoding.widthOf line, ∃ offset,
    encoding.offsetOf? line column = some offset ∧ offset ≤ line.length ∧
      encoding.columnOf line offset ≤ column ∧
      (offset < line.length → column < encoding.columnOf line (offset + 1))
  columns_mono : Monotone (encoding.columnOf line)
  /-- A column past the end counts as behind all others. -/
  offsets_mono : ∀ column column' offset', column ≤ column' →
    encoding.offsetOf? line column' = some offset' →
      ∃ offset ≤ offset', encoding.offsetOf? line column = some offset
  column_at_end : ∀ offset, line.length ≤ offset →
    encoding.columnOf line offset = encoding.widthOf line

/-- **Columns are a floor map.** In a line of less than 2^32 code units the two conversions are inverse to
each other on the characters, and a column inside a character belongs to that character. -/
theorem isFloorMap_of_narrow (encoding : Encoding) (line : List Char)
    (narrow : encoding.widthOf line < 2 ^ 32) : encoding.IsFloorMap line := by
  have unclamped (offset : Nat) :
      encoding.columnOf line offset = encoding.widthOf (line.take offset) :=
    columnOf_eq (Nat.le_of_lt_succ narrow) offset
  have located {column : Nat} (inLine : column ≤ encoding.widthOf line) :
      ∃ offset, encoding.offsetOf? line column = some offset := by
    rw [← Option.ne_none_iff_exists', ne_eq, offsetOf?_eq_none_iff]
    exact Nat.not_lt.mpr inLine
  refine ⟨fun offset inside => offsetOf?_columnOf (Nat.le_of_lt_succ narrow) inside,
    fun column => offsetOf?_eq_none_iff, fun column inLine => ?_,
    fun _ _ ordered => encoding.columnOf_mono line ordered,
    fun column column' offset' ordered found' => ?_, fun offset behind => ?_⟩
  · obtain ⟨offset, found⟩ := located inLine
    refine ⟨offset, found, le_length_of_offsetOf? found, ?_, fun inside => ?_⟩
    · rw [unclamped]
      exact widthOf_take_le_of_offsetOf? found
    · rw [unclamped]
      exact lt_widthOf_take_succ_of_offsetOf? found inside
  · have inLine' : column' ≤ encoding.widthOf line := by
      rw [← Nat.not_lt, ← offsetOf?_eq_none_iff, found']
      exact Option.some_ne_none offset'
    obtain ⟨offset, found⟩ := located (ordered.trans inLine')
    exact ⟨offset, le_of_offsetOf? ordered found found', found⟩
  · rw [unclamped, List.take_of_length_le behind]

/-- Three characters of one, two and one units: the column inside the second one belongs to it, and its
way back ends at the start of it. -/
theorem isFloorMap_of_narrow_surrogates :
    Encoding.utf16.widthOf "a😀é".toList < 2 ^ 32 ∧
      Encoding.utf16.offsetOf? "a😀é".toList 2 = some 1 ∧
      Encoding.utf16.columnOf "a😀é".toList 1 = 1 ∧
      Encoding.utf16.IsFloorMap "a😀é".toList := by
  have narrow : Encoding.utf16.widthOf "a😀é".toList < 2 ^ 32 := by decide +kernel
  exact ⟨narrow, by decide +kernel, by decide +kernel, isFloorMap_of_narrow _ _ narrow⟩

/-! ### Widths and bytes -/

theorem width_le_utf8Size (encoding : Encoding) (c : Char) : encoding.width c ≤ c.utf8Size := by
  cases encoding with
  | utf8 => exact Nat.le_refl _
  | utf16 =>
    simp only [width]
    split
    · exact Char.utf8Size_pos c
    · -- A character of two units has four bytes.
      rename_i beyond
      have high : 65535 < c.val.toNat := Nat.le_of_not_lt beyond
      have bytes : c.utf8Size = 4 := Char.utf8Size_eq_four_iff.mpr (UInt32.lt_iff_toNat_lt.mpr high)
      omega
  | utf32 => exact Char.utf8Size_pos c

theorem widthOf_le_utf8Len (encoding : Encoding) (text : List Char) :
    encoding.widthOf text ≤ String.utf8Len text := by
  induction text with
  | nil => exact Nat.le_refl _
  | cons c rest ih =>
    have first := encoding.width_le_utf8Size c
    rw [widthOf, String.utf8Len_cons]
    omega

/-- **In no encoding is a text wider than it has bytes.** -/
theorem widthOf_le_utf8ByteSize (encoding : Encoding) (text : String) :
    encoding.widthOf text.toList ≤ text.utf8ByteSize := by
  have bytes := String.utf8ByteSize_ofList text.toList
  rw [String.ofList_toList] at bytes
  rw [bytes]
  exact encoding.widthOf_le_utf8Len text.toList

end LiquidHover.Encoding
