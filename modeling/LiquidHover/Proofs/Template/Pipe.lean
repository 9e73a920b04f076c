/-
**The variable and the filters are parted by one pipe.** The variable of an expression is looked for in front of the
first pipe of its markup, the filters behind the first pipe of its content. For an output, and for a tag whose keyword
holds no quote and no pipe, these are the same pipe: what is searched for the variable is the segment that the filters
leave out, so the path that is found stands in front of everything of which filters are made.

* `Expression.firstSegment`, `Expression.HasPlainKeyword` — the segment, and the condition on tags.
* `cutKeyword_firstSegment` — the value of a tag is its first segment without the keyword.
* `Expression.StandsBeforeFilters` — a text of the content in front of the pipe and of all filters.
* `value_is_first_segment` — all of it together.
-/
import LiquidHover.Proofs.Template.Names
import LiquidHover.Proofs.Template.Path

namespace LiquidHover.Template

open Text (Closed OccursAt isBlank isQuote trim blankPrefixLength findUnquoted? splitUnquoted withOffsets)

namespace Expression

variable {expression : Expression}

/-- The segment of a content in front of the first pipe, which holds no filter. -/
def firstSegment (expression : Expression) : List Char :=
  (splitUnquoted '|' expression.content).headD []

/-- The keyword of a tag holds no quote and no pipe. -/
def HasPlainKeyword (expression : Expression) : Prop :=
  expression.kind = .tag → ∀ c ∈ (cutKeyword expression.content).1, isQuote c = false ∧ c ≠ '|'

/-! ### The value is the first segment -/

theorem rawValue_of_output (output : expression.kind = .output) :
    expression.rawValue = expression.firstSegment := by
  rw [rawValue_eq_headD, markup, output, firstSegment]

/-- **The value of a tag is its first segment without the keyword** and the blank behind it. -/
theorem cutKeyword_firstSegment (tag : expression.kind = .tag) (plain : expression.HasPlainKeyword) :
    cutKeyword expression.firstSegment = ((cutKeyword expression.content).1, expression.rawValue) := by
  have keyword := plain tag
  rw [rawValue_eq_headD, markup, tag, firstSegment]
  rcases exists_blank_or_forall expression.content with ⟨word, blank, rest, content, breaks, solid⟩ | solid
  · rw [content, cutKeyword_append solid breaks] at keyword
    have closed : Closed (· == '|') (word ++ [blank]) := by
      refine (Text.closed_of_plain fun c member => ?_).append (Text.closed_of_plain fun c member => ?_)
      · exact ⟨(keyword c member).1, beq_eq_false_iff_ne.mpr (keyword c member).2⟩
      · cases List.mem_singleton.mp member
        exact ⟨Text.isQuote_of_isBlank breaks,
          beq_eq_false_iff_ne.mpr (Text.ne_of_isBlank (by decide) breaks)⟩
    have pieces : splitUnquoted '|' expression.content =
        (splitUnquoted '|' rest).modifyHead (word ++ [blank] ++ ·) := by
      have split := Text.splitFrom_append closed.uncut rest
      rw [closed.ended, List.append_assoc] at split
      rw [content]
      exact split
    obtain ⟨first, others, cut⟩ := List.exists_cons_of_ne_nil (Text.splitFrom_ne_nil (· == '|') none rest)
    have cut : splitUnquoted '|' rest = first :: others := cut
    rw [pieces, content, cutKeyword_append solid breaks, cut]
    show cutKeyword (word ++ [blank] ++ first) = (word, first)
    rw [List.append_assoc]
    exact cutKeyword_append solid breaks first
  · rw [cutKeyword_of_forall solid] at keyword ⊢
    have closed : Closed (· == '|') expression.content := Text.closed_of_plain fun c member =>
      ⟨(keyword c member).1, beq_eq_false_iff_ne.mpr (keyword c member).2⟩
    have pieces : splitUnquoted '|' expression.content = [expression.content] :=
      Text.splitUnquotedBy_closed closed
    rw [pieces]
    exact cutKeyword_of_forall solid

/-! ### Where the value stands -/

/-- A text with something behind its keyword is the keyword, a blank and the rest. -/
theorem length_of_cutKeyword {text : List Char} (rest : (cutKeyword text).2 ≠ []) :
    text.length = (cutKeyword text).1.length + 1 + (cutKeyword text).2.length := by
  rcases exists_blank_or_forall text with ⟨word, blank, behind, rfl, breaks, solid⟩ | solid
  · rw [cutKeyword_append solid breaks]
    show (word ++ blank :: behind).length = word.length + 1 + behind.length
    rw [List.length_append, List.length_cons]
    omega
  · rw [cutKeyword_of_forall solid] at rest
    exact absurd rfl rest

theorem markup_isSuffix (expression : Expression) : expression.markup <:+ expression.content := by
  rw [markup]
  cases expression.kind with
  | output => exact List.suffix_refl _
  | tag => exact (List.tail_suffix _).trans (List.dropWhile_suffix _)

theorem rawValue_isPrefix (expression : Expression) : expression.rawValue <+: expression.markup :=
  (Text.isFront_of_findUnquoted? rfl expression.markup).within

/-- The offset of the value in the content. -/
def valueStart (expression : Expression) : Nat :=
  expression.content.length - expression.markup.length + blankPrefixLength expression.rawValue

theorem occursAt_value (expression : Expression) :
    OccursAt expression.value expression.content expression.valueStart := by
  have markupAt : OccursAt expression.markup expression.content
      (expression.content.length - expression.markup.length) := by
    rw [OccursAt, ← List.suffix_iff_eq_drop.mp expression.markup_isSuffix]
  have rawAt : OccursAt expression.rawValue expression.markup 0 := expression.rawValue_isPrefix
  rw [value_eq_trim_rawValue]
  exact (Text.occursAt_trim expression.rawValue).trans (rawAt.trans markupAt)

/-- **The value ends with the first segment.** -/
theorem valueStart_add_length_le (plain : expression.HasPlainKeyword) (nonempty : expression.value ≠ []) :
    expression.valueStart + expression.value.length ≤ expression.firstSegment.length := by
  have trimmed := blankPrefixLength_add_length_trim_le expression.rawValue
  rw [← value_eq_trim_rawValue] at trimmed
  cases kind : expression.kind with
  | output =>
    have whole : expression.markup = expression.content := by rw [markup, kind]
    rw [valueStart, whole, ← rawValue_of_output kind]
    omega
  | tag =>
    have cut := cutKeyword_firstSegment kind plain
    have raw : expression.rawValue ≠ [] := by
      intro empty
      rw [value_eq_trim_rawValue, empty] at nonempty
      exact nonempty rfl
    have behind : expression.markup = (cutKeyword expression.content).2 := by rw [markup, kind]
    have rest : (cutKeyword expression.content).2 ≠ [] := by
      intro empty
      have inside := expression.rawValue_isPrefix
      rw [behind, empty] at inside
      exact raw (List.prefix_nil.mp inside)
    have whole := length_of_cutKeyword rest
    have first : expression.firstSegment.length =
        (cutKeyword expression.content).1.length + 1 + expression.rawValue.length := by
      have behind : (cutKeyword expression.firstSegment).2 ≠ [] := by
        rw [cut]
        exact raw
      have parts := length_of_cutKeyword behind
      rw [cut] at parts
      exact parts
    rw [valueStart, behind]
    omega

/-! ### Where the filters stand -/

/-- A text of the content that ends in front of the first pipe outside literals, and in front of each segment out of
which a filter is read. -/
structure StandsBeforeFilters (expression : Expression) (text : List Char) (place : Nat) : Prop where
  written : OccursAt text expression.content place
  beforePipe : ∀ pipe, findUnquoted? '|' expression.content = some pipe → place + text.length ≤ pipe
  beforeFilters : ∀ call ∈ expression.filters, ∃ start segment,
    FilterCall.ofSegment? (expression.contentStart + start) segment = some call ∧
      OccursAt segment expression.content start ∧ place + text.length < start

/-- The first segment ends at the first pipe. -/
theorem length_firstSegment_le {pipe : Nat} (first : findUnquoted? '|' expression.content = some pipe) :
    expression.firstSegment.length ≤ pipe := by
  rw [firstSegment, Text.headD_splitUnquoted, first]
  exact List.length_take_le _ _

/-- **Filters are read behind the first segment.** -/
theorem exists_segment_of_mem_filters {call : FilterCall} (member : call ∈ expression.filters) :
    ∃ start segment, FilterCall.ofSegment? (expression.contentStart + start) segment = some call ∧
      OccursAt segment expression.content start ∧ expression.firstSegment.length < start := by
  obtain ⟨⟨place, segment⟩, inTail, found⟩ := List.mem_filterMap.mp member
  obtain ⟨start, rfl, occurs⟩ := Text.occursAt_of_mem_withOffsets '|' (List.mem_of_mem_tail inTail)
  rw [Text.joinWith_splitUnquoted] at occurs
  refine ⟨start, segment, found, occurs, ?_⟩
  obtain ⟨first, others, cut⟩ := List.exists_cons_of_ne_nil
    (Text.splitFrom_ne_nil (· == '|') none expression.content)
  have cut : splitUnquoted '|' expression.content = first :: others := cut
  rw [cut] at inTail
  have behind := Text.le_of_mem_withOffsets inTail
  rw [firstSegment, cut, List.headD_cons]
  omega

end Expression

/-- **What is searched for the variable is the segment that the filters leave out**, in a tag without its keyword. The
path that is found there stands in front of the pipe and of all filters. -/
theorem value_is_first_segment {expression : Expression} (plain : expression.HasPlainKeyword) :
    expression.value = trim expression.rawValue ∧
      (expression.kind = .output → expression.rawValue = expression.firstSegment) ∧
      (expression.kind = .tag →
        cutKeyword expression.firstSegment = ((cutKeyword expression.content).1, expression.rawValue)) ∧
      ∀ mention, expression.reference? = some mention →
        ∃ place, IsFirstPlace expression.value place ∧
          expression.StandsBeforeFilters mention.path (expression.valueStart + place) := by
  refine ⟨expression.value_eq_trim_rawValue, Expression.rawValue_of_output,
    fun tag => Expression.cutKeyword_firstSegment tag plain, fun mention found => ?_⟩
  obtain ⟨path, taken, rfl⟩ := Option.map_eq_some_iff.mp found
  obtain ⟨place, first, longest⟩ := firstPath?_eq_some_iff_isLongestPath.mp taken
  have pathAt : OccursAt path expression.value place := longest.within
  have room := pathAt.add_length_le longest.dotted.ne_nil
  have value := Expression.valueStart_add_length_le plain fun empty => by
    rw [OccursAt, empty, List.drop_nil] at pathAt
    exact longest.dotted.ne_nil (List.prefix_nil.mp pathAt)
  refine ⟨place, first, pathAt.trans expression.occursAt_value, fun pipe cut => ?_, fun call member => ?_⟩
  · have ends := Expression.length_firstSegment_le cut
    show expression.valueStart + place + path.length ≤ pipe
    omega
  · obtain ⟨start, segment, read, occurs, behind⟩ := Expression.exists_segment_of_mem_filters member
    refine ⟨start, segment, read, occurs, ?_⟩
    show expression.valueStart + place + path.length < start
    omega

/-- A tag with a pipe in a literal of its value and a path behind a filter. -/
def quotedPipeTag : Expression :=
  .ofDelimited { kind := .tag, start := 2, inner := " if 'a|b' == item.title | append: x.y ".toList }

theorem value_is_first_segment_quotedPipe :
    quotedPipeTag.HasPlainKeyword ∧
      quotedPipeTag.reference? = some { path := "item.title".toList, range := quotedPipeTag.bounds } ∧
      quotedPipeTag.firstSegment = "if 'a|b' == item.title ".toList ∧
      ∃ place, IsFirstPlace quotedPipeTag.value place ∧
        quotedPipeTag.StandsBeforeFilters "item.title".toList (quotedPipeTag.valueStart + place) := by
  have keyword : (cutKeyword quotedPipeTag.content).1 = ['i', 'f'] := by decide
  have plain : quotedPipeTag.HasPlainKeyword := by
    intro _
    rw [keyword]
    exact List.forall_mem_cons.mpr ⟨by decide, List.forall_mem_singleton.mpr (by decide)⟩
  have found : quotedPipeTag.reference? =
      some { path := "item.title".toList, range := quotedPipeTag.bounds } := by decide
  exact ⟨plain, found, by decide, (value_is_first_segment plain).2.2.2 _ found⟩

end LiquidHover.Template
