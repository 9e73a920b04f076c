/-
**Names stand where their ranges say.** The content of an expression, the names of its filters and the
name of its tag stand in the line at the offsets that are given for them.

* `FilterCall.StandsIn`, `TagCall.StandsIn` — a name that is cut out of the line by its range.
* `FilterCall.place_of_ofSegment?` — where the name of one segment stands.
* `names_stand_in_line` — all names of all expressions of a line.
-/
import LiquidHover.Proofs.Template.Cursor
import LiquidHover.Proofs.Template.Expressions
import LiquidHover.Proofs.Text.Pieces
import LiquidHover.Template.FilterCall
import LiquidHover.Template.TagCall

namespace LiquidHover.Template

open Text (OccursAt isBlank trim trimEnd blankPrefixLength splitUnquoted withOffsets)

/-- The range of a name that stands in a short line is the place of the name, and cuts the name out of
the line. -/
theorem ofParts_of_occursAt {line name : List Char} {start : Nat} (short : line.length ≤ Span.limit)
    (nonempty : name ≠ []) (occurs : OccursAt name line start) :
    (Span.ofParts start name.length).start = start ∧
      (Span.ofParts start name.length).stop = start + name.length ∧
      line.extract (Span.ofParts start name.length).start (Span.ofParts start name.length).stop =
        name := by
  have within := (occurs.add_length_le nonempty).trans short
  have starts : (Span.ofParts start name.length).start = start := by
    show min start Span.limit = start
    omega
  have stops := Span.ofParts_stop within
  refine ⟨starts, stops, ?_⟩
  rw [starts, stops]
  exact Text.occursAt_iff_extract.mp occurs

/-! ### Filters -/

/-- A filter whose name is cut out of the line by its range, within the content of its expression. -/
structure FilterCall.StandsIn (call : FilterCall) (expression : Expression) (line : List Char) :
    Prop where
  named : call.name ≠ []
  written : line.extract call.range.start call.range.stop = call.name
  behind : expression.contentStart ≤ call.range.start
  before : call.range.stop ≤ expression.contentStart + expression.content.length

namespace FilterCall

/-- The name is the start of a trimmed segment. -/
theorem cutName_isPrefix (segment : List Char) : (cutName segment).1 <+: segment := by
  unfold cutName
  split
  · exact (Text.stripEnd_isPrefix isBlank _).trans (List.take_prefix _ _)
  · exact List.prefix_refl _

/-- The filter of a segment is named by what stands behind the blanks of the segment. -/
theorem ofSegment?_eq_some {start : Nat} {segment : List Char} {call : FilterCall}
    (found : ofSegment? start segment = some call) :
    call.name ≠ [] ∧ OccursAt call.name segment (blankPrefixLength segment) ∧
      call.range = .ofParts (start + blankPrefixLength segment) call.name.length := by
  simp only [ofSegment?] at found
  split at found
  · cases found
  · rename_i named
    cases found
    refine ⟨fun empty => named (List.isEmpty_iff.mpr empty), ?_, rfl⟩
    have front : OccursAt (cutName (trim segment)).1 (trim segment) 0 := cutName_isPrefix _
    exact front.trans (Text.occursAt_trim segment)

variable {expression : Expression} {line : List Char}

/-- **Where the filter of a segment stands.** Its name begins behind the blanks of the segment and ends
within the segment. -/
theorem place_of_ofSegment? (content : expression.HasContentIn line) (short : line.length ≤ Span.limit)
    {start : Nat} {segment : List Char}
    (member : (start, segment) ∈
      withOffsets expression.contentStart (splitUnquoted '|' expression.content))
    {call : FilterCall} (found : ofSegment? start segment = some call) :
    start ≤ call.range.start ∧ call.range.stop ≤ start + segment.length ∧
      call.StandsIn expression line := by
  obtain ⟨named, nameAt, range⟩ := ofSegment?_eq_some found
  obtain ⟨offset, place, segmentAt⟩ := Text.occursAt_of_mem_withOffsets '|' member
  rw [Text.joinWith_splitUnquoted] at segmentAt
  have inContent := nameAt.trans segmentAt
  have inLine := inContent.trans content.written
  rw [← Nat.add_assoc, ← place] at inLine
  obtain ⟨starts, stops, written⟩ := ofParts_of_occursAt short named inLine
  have nameEnds := nameAt.add_length_le named
  have contentEnds := inContent.add_length_le named
  rw [← range] at starts stops written
  refine ⟨?_, ?_, named, written, ?_, ?_⟩ <;> omega

/-- **The filters of an expression stand in the line.** -/
theorem standsIn_of_mem (content : expression.HasContentIn line) (short : line.length ≤ Span.limit)
    {call : FilterCall} (member : call ∈ expression.filters) : call.StandsIn expression line := by
  obtain ⟨⟨start, segment⟩, inTail, found⟩ := List.mem_filterMap.mp member
  exact (place_of_ofSegment? content short (List.mem_of_mem_tail inTail) found).2.2

/-- **Between the names of two filters there is a pipe.** -/
theorem pairwise_filters (content : expression.HasContentIn line) (short : line.length ≤ Span.limit) :
    expression.filters.Pairwise fun left right => left.range.stop < right.range.start := by
  refine List.pairwise_filterMap.mpr (List.Pairwise.imp_of_mem ?_
    (Text.pairwise_withOffsets _ _).tail)
  rintro ⟨leftStart, leftSegment⟩ ⟨rightStart, rightSegment⟩ leftMember rightMember apart
  intro left leftFound right rightFound
  have leftPlace := place_of_ofSegment? content short (List.mem_of_mem_tail leftMember) leftFound
  have rightPlace := place_of_ofSegment? content short (List.mem_of_mem_tail rightMember) rightFound
  calc left.range.stop ≤ leftStart + leftSegment.length := leftPlace.2.1
    _ < rightStart := apart
    _ ≤ right.range.start := rightPlace.1

end FilterCall

/-! ### Tags -/

/-- A tag whose name is cut out of the line by its range, at the start of the content of its
expression. -/
structure TagCall.StandsIn (call : TagCall) (expression : Expression) (line : List Char) :
    Prop where
  named : call.name ≠ []
  unbroken : ∀ c ∈ call.name, isBlank c = false
  written : line.extract call.range.start call.range.stop = call.name
  starts : call.range.start = expression.contentStart

/-- **The tag of an expression stands in the line.** -/
theorem TagCall.standsIn_of_tag? {expression : Expression} {line : List Char}
    (content : expression.HasContentIn line) (short : line.length ≤ Span.limit) {call : TagCall}
    (found : expression.tag? = some call) : call.StandsIn expression line := by
  simp only [Expression.tag?] at found
  split at found
  · rename_i keyword
    cases found
    have front : OccursAt (cutKeyword expression.content).1 expression.content 0 :=
      List.takeWhile_prefix _
    have inLine := front.trans content.written
    obtain ⟨starts, _, written⟩ := ofParts_of_occursAt short keyword.2 inLine
    refine ⟨keyword.2, fun c member => ?_, written, starts⟩
    have unbroken := List.mem_takeWhile_imp member
    simpa using unbroken
  · cases found

/-- The name of a tag ends within the content of its expression. -/
theorem TagCall.stop_le_of_tag? {expression : Expression} {line : List Char}
    (content : expression.HasContentIn line) (short : line.length ≤ Span.limit) {call : TagCall}
    (found : expression.tag? = some call) :
    call.range.stop ≤ expression.contentStart + expression.content.length := by
  obtain ⟨front, named, range⟩ := TagCall.range_of_tag? found
  have nameAt : OccursAt call.name expression.content 0 := front
  have inLine := nameAt.trans content.written
  rw [Nat.add_zero] at inLine
  obtain ⟨-, stops, -⟩ := ofParts_of_occursAt short named inLine
  have nameShort := front.length_le
  rw [range]
  omega

/-! ### A whole line -/

/-- **Names stand where their ranges say**, in every expression of a line: the content between the
delimiters, the name of every filter within the content, with a pipe between neighbours, and the name
of the tag at the start of the content. -/
theorem names_stand_in_line (line : List Char) (short : line.length ≤ Span.limit) :
    ∀ expression ∈ Expression.all line,
      expression.HasContentIn line ∧
        (∀ call ∈ expression.filters, call.StandsIn expression line) ∧
        (expression.filters.Pairwise fun left right => left.range.stop < right.range.start) ∧
        ∀ call, expression.tag? = some call → call.StandsIn expression line := by
  intro expression member
  have content := Expression.hasContentIn_of_mem_all short member
  exact ⟨content, fun _ => FilterCall.standsIn_of_mem content short,
    FilterCall.pairwise_filters content short, fun _ => TagCall.standsIn_of_tag? content short⟩

/-- An output and a tag with dashes behind an accented letter, with blanks around names. -/
def dashedLine : List Char := "é {{-  x.y | truncate : 3 |upcase-}} {%- if  x %}".toList

theorem names_stand_in_line_dashedLine :
    dashedLine.length ≤ Span.limit ∧
      (Expression.all dashedLine).map (·.filters.map (·.range.start)) = [[13, 27], []] ∧
      ∀ expression ∈ Expression.all dashedLine,
        expression.HasContentIn dashedLine ∧
          (∀ call ∈ expression.filters, call.StandsIn expression dashedLine) ∧
          (expression.filters.Pairwise fun left right => left.range.stop < right.range.start) ∧
          ∀ call, expression.tag? = some call → call.StandsIn expression dashedLine :=
  ⟨by decide, by decide +kernel, names_stand_in_line dashedLine (by decide)⟩

end LiquidHover.Template
