/-
**The expressions of a line, and where they stand.** On a line of at most `Span.limit` characters no
offset is clamped: the bounds of an expression are the place of its delimiters, and the content stands
between them at the offset that is given for it.

* `Expression.IsDelimitedIn` — the bounds reach from an opener to the first closer of its kind.
* `Expression.HasContentIn` — the content stands in the line between the delimiters, without blanks at
  its ends.
* `IsScanOf` — the expressions found in a line are in order, are delimited in it, and leave out no
  opener that has a closer.
* `isScanOf_all` — the expressions of every line are such.
-/
import LiquidHover.Proofs.Template.Scan
import LiquidHover.Proofs.Text.Strip
import LiquidHover.Template.Expression

namespace LiquidHover.Template

open Text (OccursAt Stripped isBlank trim blankPrefixLength)

/-! ### Bounds -/

/-- An expression whose bounds reach from an opener of its kind to the first closer after it. -/
structure Expression.IsDelimitedIn (expression : Expression) (line : List Char) : Prop where
  roomy : expression.bounds.start + 4 ≤ expression.bounds.stop
  within : expression.bounds.stop ≤ line.length
  opens : OccursAt expression.kind.opener line expression.bounds.start
  closes : OccursAt expression.kind.closer line (expression.bounds.stop - 2)
  first : ∀ position, expression.bounds.start + 2 ≤ position →
    position < expression.bounds.stop - 2 → ¬ OccursAt expression.kind.closer line position

namespace Delimited

variable {piece : Delimited} {line : List Char}

theorem start_ofDelimited (stands : piece.StandsIn line) (short : line.length ≤ Span.limit) :
    (Expression.ofDelimited piece).bounds.start = piece.start := by
  have stop := stands.stop_le
  show min piece.start Span.limit = piece.start
  unfold Delimited.stop at stop
  omega

theorem stop_ofDelimited (stands : piece.StandsIn line) (short : line.length ≤ Span.limit) :
    (Expression.ofDelimited piece).bounds.stop = piece.stop :=
  Span.ofParts_stop (stands.stop_le.trans short)

/-- **The bounds of a piece that stands in a line are those of its delimiters.** -/
theorem isDelimitedIn_ofDelimited (stands : piece.StandsIn line) (short : line.length ≤ Span.limit) :
    (Expression.ofDelimited piece).IsDelimitedIn line := by
  have start := start_ofDelimited stands short
  have stop := stop_ofDelimited stands short
  constructor
  · rw [start, stop, Delimited.stop, length]
    omega
  · rw [stop]
    exact stands.stop_le
  · rw [start]
    exact stands.opens
  · rw [stop]
    exact stands.closes
  · intro position behind before
    rw [start] at behind
    rw [stop] at before
    exact stands.first position behind (by omega)

end Delimited

/-- Every expression of a line is that of a piece that stands in the line. -/
theorem Expression.exists_piece_of_mem_all {line : List Char} {expression : Expression}
    (member : expression ∈ Expression.all line) :
    ∃ piece : Delimited, piece.StandsIn line ∧ Expression.ofDelimited piece = expression := by
  obtain ⟨piece, found, same⟩ := List.mem_map.mp member
  exact ⟨piece, (Delimited.standsIn_of_mem_scanFrom rfl found).1, same⟩

theorem Expression.isDelimitedIn_of_mem_all {line : List Char} {expression : Expression}
    (short : line.length ≤ Span.limit) (member : expression ∈ Expression.all line) :
    expression.IsDelimitedIn line := by
  obtain ⟨piece, stands, rfl⟩ := exists_piece_of_mem_all member
  exact Delimited.isDelimitedIn_ofDelimited stands short

/-- **The expressions of a line do not overlap**, and they come from left to right. -/
theorem Expression.pairwise_all {line : List Char} (short : line.length ≤ Span.limit) :
    (Expression.all line).Pairwise fun left right => left.bounds.stop ≤ right.bounds.start := by
  have stands : ∀ piece ∈ Delimited.scan line, piece.StandsIn line := fun piece member =>
    (Delimited.standsIn_of_mem_scanFrom rfl member).1
  refine List.pairwise_map.mpr ((Delimited.pairwise_scanFrom rfl).imp_of_mem ?_)
  intro left right leftFound rightFound apart
  rw [Delimited.stop_ofDelimited (stands left leftFound) short,
    Delimited.start_ofDelimited (stands right rightFound) short]
  exact apart

/-! ### Exactly the expressions of a line -/

/-- An opener with a closer of its kind behind it, and without another opener one character before
it. -/
structure Kind.IsOpenedAt (kind : Kind) (line : List Char) (position : Nat) : Prop where
  opens : OccursAt kind.opener line position
  closes : ∃ closing, position + 2 ≤ closing ∧ OccursAt kind.closer line closing
  alone : ∀ other : Kind, ∀ previous, previous + 1 = position →
    ¬ OccursAt other.opener line previous

/-- The expressions that were found are those of the line. An opener inside of one that was found is
part of its text. -/
structure IsScanOf (found : List Expression) (line : List Char) : Prop where
  ordered : found.Pairwise fun left right => left.bounds.stop ≤ right.bounds.start
  sound : ∀ expression ∈ found, expression.IsDelimitedIn line
  -- Strict on the left: the expression that begins at the position is the one that is asked for.
  complete : ∀ kind : Kind, ∀ position, kind.IsOpenedAt line position →
    (∀ expression ∈ found,
      ¬ (expression.bounds.start < position ∧ position < expression.bounds.stop)) →
    ∃ expression ∈ found, expression.kind = kind ∧ expression.bounds.start = position

/-- **A scan gives exactly the expressions of a line.** -/
theorem isScanOf_all (line : List Char) (short : line.length ≤ Span.limit) :
    IsScanOf (Expression.all line) line where
  ordered := Expression.pairwise_all short
  sound := fun _ => Expression.isDelimitedIn_of_mem_all short
  complete := by
    intro kind position opened outside
    obtain ⟨closing, apart, closes⟩ := opened.closes
    obtain ⟨piece, found, placed⟩ := Delimited.found_of_occursAt rfl (Nat.zero_le position)
      opened.opens apart closes fun other previous next _ => opened.alone other previous next
    have stands := (Delimited.standsIn_of_mem_scanFrom rfl found).1
    have member : Expression.ofDelimited piece ∈ Expression.all line :=
      List.mem_map_of_mem found
    have start := Delimited.start_ofDelimited stands short
    rcases placed with ⟨sameKind, samePlace⟩ | inside
    · exact ⟨_, member, sameKind, start.trans samePlace⟩
    · have stop := Delimited.stop_ofDelimited stands short
      exact absurd (by rw [start, stop]; exact inside) (outside _ member)

/-- Behind an accented letter there are an output, an opener that nothing closes, and a tag that
begins inside of that opener. -/
def bracedLine : List Char := "é {{ x }}\x7b\x7b\x7b% if y %\x7d".toList

theorem isScanOf_all_bracedLine :
    bracedLine.length ≤ Span.limit ∧
      (Expression.all bracedLine).map (·.bounds.start) = [2, 11] ∧
      IsScanOf (Expression.all bracedLine) bracedLine :=
  ⟨by decide, by decide +kernel, isScanOf_all bracedLine (by decide)⟩

/-! ### Contents -/

/-- An expression whose content stands between its delimiters, without blanks at its ends. -/
structure Expression.HasContentIn (expression : Expression) (line : List Char) : Prop where
  behind : expression.bounds.start + 2 ≤ expression.contentStart
  before : expression.contentStart + expression.content.length ≤ expression.bounds.stop - 2
  written : OccursAt expression.content line expression.contentStart
  stripped : Stripped isBlank expression.content

/-- What remains without a dash in front ends the text. -/
theorem occursAt_dropLeadingDash (text : List Char) :
    OccursAt (dropLeadingDash text) text (text.length - (dropLeadingDash text).length) := by
  unfold dropLeadingDash
  split
  · cases text with
    | nil => exact List.prefix_refl _
    | cons c rest => simp [OccursAt]
  · rw [Nat.sub_self]
    exact List.prefix_refl _

theorem length_dropLeadingDash_le (text : List Char) :
    (dropLeadingDash text).length ≤ text.length := by
  unfold dropLeadingDash
  split
  · rw [List.length_tail]
    exact Nat.sub_le _ _
  · exact Nat.le_refl _

/-- What remains without a dash behind begins the text. -/
theorem dropTrailingDash_isPrefix (text : List Char) : dropTrailingDash text <+: text := by
  unfold dropTrailingDash
  split
  · exact List.dropLast_prefix text
  · exact List.prefix_refl _

/-- Blanks in front and the trimmed text do not exceed the text. -/
theorem blankPrefixLength_add_length_trim_le (text : List Char) :
    blankPrefixLength text + (trim text).length ≤ text.length := by
  have trimmed : (trim text).length ≤ (Text.trimStart text).length :=
    (Text.stripEnd_isPrefix isBlank _).length_le
  have whole := Text.length_trimStart text
  omega

/-- **The content of a piece that stands in a line stands between its delimiters.** -/
theorem Delimited.hasContentIn_ofDelimited {piece : Delimited} {line : List Char}
    (stands : piece.StandsIn line) (short : line.length ≤ Span.limit) :
    (Expression.ofDelimited piece).HasContentIn line := by
  have start := start_ofDelimited stands short
  have stop := stop_ofDelimited stands short
  let undashed := dropLeadingDash piece.inner
  let body := dropTrailingDash undashed
  let lead := (piece.inner.length - undashed.length) + blankPrefixLength body
  have contentStart : (Expression.ofDelimited piece).contentStart = piece.start + 2 + lead := rfl
  have content : (Expression.ofDelimited piece).content = trim body := rfl
  have undashedShort : undashed.length ≤ piece.inner.length := length_dropLeadingDash_le _
  have bodyShort : body.length ≤ undashed.length := (dropTrailingDash_isPrefix _).length_le
  have contentShort := blankPrefixLength_add_length_trim_le body
  constructor
  · rw [start, contentStart]
    omega
  · rw [stop, contentStart, content, Delimited.stop, length]
    omega
  · rw [contentStart, content]
    have bodyAt : OccursAt body undashed 0 := dropTrailingDash_isPrefix _
    have trimmedAt : OccursAt (trim body) undashed (0 + blankPrefixLength body) :=
      (Text.occursAt_trim body).trans bodyAt
    rw [Nat.zero_add] at trimmedAt
    exact (trimmedAt.trans (occursAt_dropLeadingDash piece.inner)).trans stands.inner
  · exact Text.stripped_trim body

theorem Expression.hasContentIn_of_mem_all {line : List Char} {expression : Expression}
    (short : line.length ≤ Span.limit) (member : expression ∈ Expression.all line) :
    expression.HasContentIn line := by
  obtain ⟨piece, stands, rfl⟩ := exists_piece_of_mem_all member
  exact Delimited.hasContentIn_ofDelimited stands short

end LiquidHover.Template
