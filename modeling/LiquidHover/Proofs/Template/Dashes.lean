/-
**Dashes of whitespace control do not matter.** An expression with a dash inside each of its delimiters is read as the
one without them: only the characters behind the first dash move to the right, and those behind the second one more.

* `Span.MovedBy`, `Expression.MovedBy` — a stretch further right, and an expression that is read further right.
* `Expression.movedBy_of_content` — what is read from an expression depends on its kind, its content and the place of
  the content only.
* `scan_around` — the first piece of a line in which a text was put between delimiters.
* `dashes_transparent` — a line with dashes and the same line without them.
-/
import Mathlib.Data.List.Forall2
import LiquidHover.Proofs.Template.Concatenation
import LiquidHover.Proofs.Template.Names

namespace LiquidHover

/-- The second stretch is the first one further right, and neither end is clamped. -/
structure Span.MovedBy (distance : Nat) (span moved : Span) : Prop where
  start : moved.start = span.start + distance
  stop : moved.stop = span.stop + distance
  length : moved.length = span.length

theorem Span.movedBy_ofParts {start length distance : Nat}
    (within : start + length + distance ≤ Span.limit) :
    (Span.ofParts start length).MovedBy distance (.ofParts (start + distance) length) where
  start := by
    rw [ofParts_start, ofParts_start]
    omega
  stop := by
    rw [ofParts_stop (by omega), ofParts_stop (by omega)]
    omega
  length := by
    have kept : length ≤ limit := by omega
    show clampLength _ length = clampLength _ length
    rw [clampLength, clampLength, if_pos kept, if_pos kept]

namespace Template

open Text (OccursAt blankPrefixLength joinWith splitUnquoted trim withOffsets)

/-! ### What is read further right -/

/-- The same filter with the same parameters, further right. -/
structure FilterCall.MovedBy (distance : Nat) (call moved : FilterCall) : Prop where
  name : moved.name = call.name
  parameters : moved.parameters = call.parameters
  range : call.range.MovedBy distance moved.range

/-- The same tag with the same markup, further right. -/
structure TagCall.MovedBy (distance : Nat) (call moved : TagCall) : Prop where
  name : moved.name = call.name
  parameters : moved.parameters = call.parameters
  markup : moved.markup = call.markup
  range : call.range.MovedBy distance moved.range

/-- The same path. -/
structure Variable.SameNames (mention other : Variable) : Prop where
  path : other.path = mention.path
  root : other.root = mention.root
  properties : other.properties = mention.properties

/-- The same text, further right, from which the same is read. -/
structure Expression.MovedBy (distance : Nat) (expression moved : Expression) : Prop where
  kind : moved.kind = expression.kind
  content : moved.content = expression.content
  contentStart : moved.contentStart = expression.contentStart + distance
  reference : Option.Rel Variable.SameNames expression.reference? moved.reference?
  filters : List.Forall₂ (FilterCall.MovedBy distance) expression.filters moved.filters
  tag : Option.Rel (TagCall.MovedBy distance) expression.tag? moved.tag?

/-- The filter of a segment moves with the segment. -/
theorem FilterCall.movedBy_ofSegment? {start distance : Nat} {segment : List Char}
    (within : start + segment.length + distance ≤ Span.limit) :
    Option.Rel (FilterCall.MovedBy distance) (ofSegment? start segment)
      (ofSegment? (start + distance) segment) := by
  have nameShort := (cutName_isPrefix (trim segment)).length_le
  have room := blankPrefixLength_add_length_trim_le segment
  simp only [ofSegment?]
  split
  · exact .none
  · refine .some ⟨rfl, rfl, ?_⟩
    rw [Nat.add_right_comm]
    exact Span.movedBy_ofParts (by omega)

/-- Pieces further right have the same texts. -/
theorem forall₂_withOffsets (separator : Char) {start distance limit : Nat} {pieces : List (List Char)}
    (within : start + (joinWith separator pieces).length + distance ≤ limit) :
    List.Forall₂ (fun left right : Nat × List Char =>
        right = (left.1 + distance, left.2) ∧ left.1 + left.2.length + distance ≤ limit)
      (withOffsets start pieces) (withOffsets (start + distance) pieces) := by
  induction pieces generalizing start with
  | nil => exact .nil
  | cons piece pieces ih =>
    cases pieces with
    | nil => exact .cons ⟨rfl, within⟩ .nil
    | cons next pieces =>
      rw [joinWith, List.length_append, List.length_cons] at within
      have behind : start + distance + piece.length + 1 = start + piece.length + 1 + distance := by omega
      have within' : start + piece.length + 1 + (joinWith separator (next :: pieces)).length + distance ≤ limit := by
        omega
      have later := ih within'
      rw [← behind] at later
      exact .cons ⟨rfl, by simp only; omega⟩ later

namespace Expression

variable {expression moved : Expression} {distance : Nat}

theorem filters_movedBy (content : moved.content = expression.content)
    (contentStart : moved.contentStart = expression.contentStart + distance)
    (within : expression.contentStart + expression.content.length + distance ≤ Span.limit) :
    List.Forall₂ (FilterCall.MovedBy distance) expression.filters moved.filters := by
  rw [← Text.joinWith_splitUnquoted '|' expression.content] at within
  rw [filters, filters, content, contentStart, ← List.drop_one, ← List.drop_one]
  refine List.rel_filterMap ?_ (List.forall₂_drop 1 (forall₂_withOffsets '|' within))
  rintro ⟨start, segment⟩ _ ⟨rfl, short⟩
  exact FilterCall.movedBy_ofSegment? short

theorem tag?_movedBy (kind : moved.kind = expression.kind) (content : moved.content = expression.content)
    (contentStart : moved.contentStart = expression.contentStart + distance)
    (within : expression.contentStart + expression.content.length + distance ≤ Span.limit) :
    Option.Rel (TagCall.MovedBy distance) expression.tag? moved.tag? := by
  have nameShort : (cutKeyword expression.content).1.length ≤ expression.content.length :=
    (List.takeWhile_prefix _).length_le
  simp only [tag?, kind, content, contentStart]
  split
  · exact .some ⟨rfl, rfl, rfl, Span.movedBy_ofParts (by omega)⟩
  · exact .none

theorem reference?_sameNames (kind : moved.kind = expression.kind)
    (content : moved.content = expression.content) :
    Option.Rel Variable.SameNames expression.reference? moved.reference? := by
  have value : moved.value = expression.value := by
    rw [Expression.value, Expression.value, markup, markup, kind, content]
  rw [reference?, reference?, value]
  cases firstPath? expression.value with
  | none => exact .none
  | some path => exact .some ⟨rfl, rfl, rfl⟩

/-- **What is read from an expression** depends on its kind, its content and the place of the content only. -/
theorem movedBy_of_content (kind : moved.kind = expression.kind)
    (content : moved.content = expression.content)
    (contentStart : moved.contentStart = expression.contentStart + distance)
    (within : expression.contentStart + expression.content.length + distance ≤ Span.limit) :
    expression.MovedBy distance moved :=
  ⟨kind, content, contentStart, reference?_sameNames kind content, filters_movedBy content contentStart within,
    tag?_movedBy kind content contentStart within⟩

/-- The expressions of pieces further right are further right, and the same is read from them. -/
theorem forall₂_movedBy {pieces : List Delimited} {line : List Char}
    (stands : ∀ piece ∈ pieces, piece.StandsIn line) (within : line.length + distance ≤ Span.limit) :
    List.Forall₂ (fun expression moved => expression.MovedBy distance moved ∧
        expression.bounds.MovedBy distance moved.bounds)
      (pieces.map ofDelimited) ((pieces.map (·.shift distance)).map ofDelimited) := by
  rw [List.map_map, List.forall₂_map_left_iff, List.forall₂_map_right_iff, List.forall₂_same]
  intro piece member
  have stands := stands piece member
  have ends := stands.stop_le
  constructor
  · have contentEnds := (Delimited.hasContentIn_ofDelimited stands (by omega)).before
    rw [Delimited.stop_ofDelimited stands (by omega)] at contentEnds
    rw [Function.comp_apply, ofDelimited_shift (by omega)]
    exact movedBy_of_content rfl rfl rfl (by omega)
  · rw [Delimited.stop] at ends
    exact Span.movedBy_ofParts (by omega)

end Expression

/-! ### A text between delimiters -/

/-- A text between the delimiters of a kind. -/
def Kind.around (kind : Kind) (inner : List Char) : List Char := kind.opener ++ inner ++ kind.closer

/-- A text between the two dashes of whitespace control. -/
def dashed (inner : List Char) : List Char := '-' :: inner ++ ['-']

theorem length_around (kind : Kind) (inner : List Char) :
    (kind.around inner).length = inner.length + 4 := by
  rw [Kind.around, List.length_append, List.length_append, length_opener, length_closer]
  omega

theorem length_dashed (inner : List Char) : (dashed inner).length = inner.length + 2 := by
  simp [dashed]

/-- Behind a text the closer stands for the first time. -/
def Kind.EndsFirst (kind : Kind) (inner : List Char) : Prop :=
  ∀ position < inner.length, ¬ OccursAt kind.closer (inner ++ kind.closer) position

instance (kind : Kind) (inner : List Char) : Decidable (kind.EndsFirst inner) :=
  inferInstanceAs (Decidable (∀ position < _, _))

/-- **The first piece of a line is the one that was put there**, when nothing opens before it. -/
theorem scan_around {kind : Kind} {before inner : List Char} (plain : '{' ∉ before)
    (ends : kind.EndsFirst inner) (after : List Char) :
    Delimited.scan (before ++ kind.around inner ++ after) =
      { kind, start := before.length, inner } ::
        Delimited.scanFrom (before.length + inner.length + 4) after := by
  have cut : cutCloser kind (inner ++ kind.closer) = some (inner, []) :=
    cutCloser_eq_some_iff.mpr ⟨(List.append_nil _).symm, ends⟩
  have line : before ++ kind.around inner ++ after =
      before ++ (kind.opener ++ (inner ++ kind.closer ++ after)) := by
    simp only [Kind.around, List.append_assoc]
  rw [line, Delimited.scan, Delimited.scanFrom_append_of_not_mem plain,
    Delimited.scanFrom_opener (cutCloser_append cut after), Nat.zero_add, List.nil_append]

/-- **A dash belongs to no closer.** -/
theorem Kind.EndsFirst.dashed {kind : Kind} {inner : List Char} (ends : kind.EndsFirst inner) :
    kind.EndsFirst (dashed inner) := by
  have mark : '-' ≠ kind.closeMark := by cases kind <;> decide
  intro position before occurs
  rw [length_dashed] at before
  cases position with
  | zero => exact mark (closer_prefix_cons.mp occurs).1
  | succ position =>
    have occurs : OccursAt kind.closer (inner ++ '-' :: kind.closer) position := by
      have behind : OccursAt kind.closer (inner ++ ['-'] ++ kind.closer) position := occurs
      rwa [List.append_assoc] at behind
    rcases Nat.lt_trichotomy (position + 1) inner.length with inside | last | behind
    · have whole := (occurs.of_append_right (by rw [length_closer]; omega)).append_right kind.closer
      exact ends position (by omega) whole
    · -- The second character of the closer would be the dash.
      obtain ⟨front, c, rfl⟩ := (List.eq_nil_or_concat' inner).resolve_left (by rintro rfl; cases last)
      have here : position = front.length + 0 := by simpa using last
      rw [here, List.append_assoc, Text.occursAt_append_left] at occurs
      cases (closer_prefix_cons.mp occurs).2
    · have here : position = inner.length + 0 := by omega
      rw [here, Text.occursAt_append_left] at occurs
      exact mark (closer_prefix_cons.mp occurs).1

/-- **A text without dashes of its own is read between two dashes** as it is read without them, one character further
right. -/
theorem movedBy_dashed {kind : Kind} {start : Nat} {inner : List Char} (front : inner.head? ≠ some '-')
    (back : inner.getLast? ≠ some '-') (within : start + inner.length + 6 ≤ Span.limit) :
    (Expression.ofDelimited { kind, start, inner }).MovedBy 1
      (Expression.ofDelimited { kind, start, inner := dashed inner }) := by
  have leading : dropLeadingDash (dashed inner) = inner ++ ['-'] := rfl
  have trailing : dropTrailingDash (inner ++ ['-']) = inner := by simp [dropTrailingDash]
  have noLeading : dropLeadingDash inner = inner := if_neg front
  have noTrailing : dropTrailingDash inner = inner := if_neg back
  have room := blankPrefixLength_add_length_trim_le inner
  refine Expression.movedBy_of_content rfl ?_ ?_ ?_
  · simp only [Expression.ofDelimited, leading, trailing, noLeading, noTrailing]
  · simp only [Expression.ofDelimited, leading, trailing, noLeading, noTrailing, length_dashed,
      List.length_append, List.length_singleton]
    omega
  · simp only [Expression.ofDelimited, noLeading, noTrailing]
    omega

/-! ### Two lines -/

/-- **Dashes of whitespace control do not matter.** A text without dashes of its own is put between the delimiters of a
kind, behind a text in which nothing opens. With a dash inside each delimiter the first expression begins where it began
and ends two characters further right, its content is the same one character further right, and the same is read from
it; all later expressions are the same two characters further right. -/
theorem dashes_transparent {kind : Kind} {before inner : List Char} (plain : '{' ∉ before)
    (front : inner.head? ≠ some '-') (back : inner.getLast? ≠ some '-') (ends : kind.EndsFirst inner)
    (after : List Char) (short : (before ++ kind.around (dashed inner) ++ after).length ≤ Span.limit) :
    ∃ (first firstDashed : Expression) (later laterDashed : List Expression),
      Expression.all (before ++ kind.around inner ++ after) = first :: later ∧
      Expression.all (before ++ kind.around (dashed inner) ++ after) = firstDashed :: laterDashed ∧
      first.kind = kind ∧ first.bounds.start = before.length ∧
      firstDashed.bounds.start = first.bounds.start ∧
      firstDashed.bounds.stop = first.bounds.stop + 2 ∧
      first.MovedBy 1 firstDashed ∧
      List.Forall₂ (fun expression moved => expression.MovedBy 2 moved ∧
          expression.bounds.MovedBy 2 moved.bounds)
        later laterDashed := by
  have scan := scan_around plain ends after
  have scanDashed := scan_around plain ends.dashed after
  have behind : before.length + (dashed inner).length + 4 = before.length + inner.length + 4 + 2 := by
    rw [length_dashed]
    omega
  rw [behind, Delimited.scanFrom_shift] at scanDashed
  have stands : ∀ piece ∈ Delimited.scanFrom (before.length + inner.length + 4) after,
      piece.StandsIn (before ++ kind.around inner ++ after) := fun piece found =>
    (Delimited.standsIn_of_mem_scanFrom rfl (scan ▸ List.mem_cons_of_mem _ found)).1
  have room : before.length + inner.length + 6 + after.length ≤ Span.limit := by
    rw [List.length_append, List.length_append, length_around, length_dashed] at short
    omega
  have starts : min before.length Span.limit = before.length := Nat.min_eq_left (by omega)
  refine ⟨_, _, _, _, congrArg (List.map Expression.ofDelimited) scan,
    congrArg (List.map Expression.ofDelimited) scanDashed, rfl, starts, rfl, ?_,
    movedBy_dashed front back (by omega), Expression.forall₂_movedBy stands ?_⟩
  · show (Span.ofParts before.length ((dashed inner).length + 4)).stop =
      (Span.ofParts before.length (inner.length + 4)).stop + 2
    rw [length_dashed, Span.ofParts_stop (by omega), Span.ofParts_stop (by omega)]
    omega
  · rw [List.length_append, List.length_append, length_around]
    omega

/-- Stray closers. -/
def strayFront : List Char := "é \x7d\x7d %\x7d ".toList

/-- A value and two filters, with a dash in a literal and a tab at the end. -/
def paddedInner : List Char := " x.y | split: ' - ', 3 |upcase\t".toList

/-- A tag with dashes of its own, and an opener without a closer. -/
def openRest : List Char := " \x7b%-if y-%\x7d \x7b\x7b".toList

theorem dashes_transparent_stray :
    '{' ∉ strayFront ∧ paddedInner.head? ≠ some '-' ∧ paddedInner.getLast? ≠ some '-' ∧
      Kind.output.EndsFirst paddedInner ∧
      (strayFront ++ Kind.output.around (dashed paddedInner) ++ openRest).length ≤ Span.limit ∧
      (Expression.all (strayFront ++ Kind.output.around paddedInner ++ openRest)).map
          (fun found => (found.contentStart, found.filters.map (·.range.start))) =
        [(11, [17, 34]), (47, [])] ∧
      ∃ (first firstDashed : Expression) (later laterDashed : List Expression),
        Expression.all (strayFront ++ Kind.output.around paddedInner ++ openRest) = first :: later ∧
        Expression.all (strayFront ++ Kind.output.around (dashed paddedInner) ++ openRest) =
          firstDashed :: laterDashed ∧
        first.kind = .output ∧ first.bounds.start = strayFront.length ∧
        firstDashed.bounds.start = first.bounds.start ∧
        firstDashed.bounds.stop = first.bounds.stop + 2 ∧
        first.MovedBy 1 firstDashed ∧
        List.Forall₂ (fun expression moved => expression.MovedBy 2 moved ∧
            expression.bounds.MovedBy 2 moved.bounds)
          later laterDashed := by
  have plain : '{' ∉ strayFront := by decide
  have front : paddedInner.head? ≠ some '-' := by decide
  have back : paddedInner.getLast? ≠ some '-' := by decide
  have ends : Kind.output.EndsFirst paddedInner := by decide
  have short : (strayFront ++ Kind.output.around (dashed paddedInner) ++ openRest).length ≤
      Span.limit := by decide
  exact ⟨plain, front, back, ends, short, by decide +kernel,
    dashes_transparent plain front back ends openRest short⟩

end Template

end LiquidHover
