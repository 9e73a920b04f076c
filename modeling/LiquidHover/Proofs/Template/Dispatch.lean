/-
**One answer for every cursor.** On a line of at most `Span.limit` characters a cursor that touches an expression,
a filter or a tag finds it, and whatever is found is touched. Only two expressions can be touched at once, where
one ends and the next begins: then the left one is found.

* `find?_eq_some_of_pairwise` — a search in a row finds a hit when the row excludes all hits before it.
* `Expression.Holds` — the cursors that belong to an expression.
* `Expression.at?_eq_some_iff`, `FilterCall.at?_eq_some_iff`, `TagCall.at?_eq_some_iff` — what each search finds.
* `isDispatchedAt_of_short` — all of them together, at every cursor.
-/
import LiquidHover.Proofs.Template.Cursor
import LiquidHover.Proofs.Template.Names

namespace LiquidHover.Template

/-- **A search in a row finds a hit** when the row excludes all hits in front of it. -/
theorem find?_eq_some_of_pairwise {α : Type} {before : α → α → Prop} {hits : α → Bool} {row : List α}
    (ordered : row.Pairwise before) {item : α} (member : item ∈ row) (hit : hits item = true)
    (missed : ∀ other ∈ row, before other item → hits other = false) :
    row.find? hits = some item := by
  obtain ⟨front, back, rfl⟩ := List.append_of_mem member
  obtain ⟨-, -, across⟩ := List.pairwise_append.mp ordered
  have none : front.find? hits = none := by
    refine List.find?_eq_none.mpr fun other among => Bool.eq_false_iff.mp ?_
    exact missed other (List.mem_append_left _ among) (across other among item List.mem_cons_self)
  rw [List.find?_append, none, Option.none_or, List.find?_cons_of_pos hit]

variable {line : List Char} {offset : Nat}

/-! ### Expressions -/

namespace Expression

variable {expression : Expression}

/-- Whether a cursor belongs to an expression of a line: behind its first offset, or at it when no other
expression ends there. -/
def Holds (expression : Expression) (line : List Char) (offset : Nat) : Prop :=
  expression.bounds.start < offset ∧ offset ≤ expression.bounds.stop ∨
    offset = expression.bounds.start ∧ ∀ other ∈ all line, other.bounds.stop ≠ offset

theorem bounds_lt (short : line.length ≤ Span.limit) (member : expression ∈ all line) :
    expression.bounds.start < expression.bounds.stop := by
  have roomy := (isDelimitedIn_of_mem_all short member).roomy
  omega

/-- An expression is found from the cursors that belong to it. -/
theorem at?_of_holds (short : line.length ≤ Span.limit) (member : expression ∈ all line)
    (holds : expression.Holds line offset) : at? line offset = some expression := by
  have filled := bounds_lt short member
  refine find?_eq_some_of_pairwise (pairwise_all short) member (Span.covers_iff.mpr ?_) ?_
  · rcases holds with ⟨behind, before⟩ | ⟨rfl, -⟩ <;> omega
  · intro other among apart
    refine Bool.eq_false_iff.mpr fun covers => ?_
    have before := (Span.covers_iff.mp covers).2
    rcases holds with ⟨behind, -⟩ | ⟨rfl, alone⟩
    · omega
    · have ends := alone other among
      omega

/-- **The expression under a cursor is the one to which the cursor belongs.** -/
theorem at?_eq_some_iff (short : line.length ≤ Span.limit) :
    at? line offset = some expression ↔ expression ∈ all line ∧ expression.Holds line offset := by
  refine ⟨fun under => ?_, fun ⟨member, holds⟩ => at?_of_holds short member holds⟩
  have member := mem_all_of_at? under
  obtain ⟨starts, stops⟩ := Span.covers_iff.mp (covers_of_at? under)
  refine ⟨member, ?_⟩
  rcases Nat.lt_or_eq_of_le starts with behind | rfl
  · exact Or.inl ⟨behind, stops⟩
  · refine Or.inr ⟨rfl, fun other among ends => ?_⟩
    -- An expression that ends here would have been found instead.
    have left : at? line expression.bounds.start = some other :=
      at?_of_holds short among (Or.inl ⟨ends ▸ bounds_lt short among, ends.ge⟩)
    obtain rfl := Option.some.inj (left.symm.trans under)
    have filled := bounds_lt short among
    omega

/-- A cursor between the delimiters belongs to the expression. -/
theorem at?_of_within_content (short : line.length ≤ Span.limit) (member : expression ∈ all line)
    (behind : expression.contentStart ≤ offset)
    (before : offset ≤ expression.contentStart + expression.content.length) :
    at? line offset = some expression := by
  have content := hasContentIn_of_mem_all short member
  have opener := content.behind
  have closer := content.before
  exact at?_of_holds short member (Or.inl ⟨by omega, by omega⟩)

end Expression

/-! ### Filters and tags -/

/-- **The filter under a cursor is the one whose name the cursor touches.** -/
theorem FilterCall.at?_eq_some_iff (short : line.length ≤ Span.limit) {call : FilterCall} :
    FilterCall.at? line offset = some call ↔
      ∃ expression ∈ Expression.all line, call ∈ expression.filters ∧
        call.range.covers offset = true := by
  constructor
  · intro found
    obtain ⟨expression, under, among, covers⟩ := FilterCall.at?_eq_some found
    exact ⟨expression, Expression.mem_all_of_at? under, among, covers⟩
  · rintro ⟨expression, member, among, covers⟩
    have content := Expression.hasContentIn_of_mem_all short member
    have stands := FilterCall.standsIn_of_mem content short among
    obtain ⟨starts, stops⟩ := Span.covers_iff.mp covers
    have under : Expression.at? line offset = some expression :=
      Expression.at?_of_within_content short member (stands.behind.trans starts)
        (stops.trans stands.before)
    have found : expression.filters.find? (·.range.covers offset) = some call := by
      refine find?_eq_some_of_pairwise (pairwise_filters content short) among covers ?_
      intro other _ apart
      refine Bool.eq_false_iff.mpr fun also => ?_
      have before := (Span.covers_iff.mp also).2
      omega
    rw [FilterCall.at?, under]
    exact found

/-- **The tag under a cursor is the one whose name the cursor touches.** -/
theorem TagCall.at?_eq_some_iff (short : line.length ≤ Span.limit) {call : TagCall} :
    TagCall.at? line offset = some call ↔
      ∃ expression ∈ Expression.all line, expression.tag? = some call ∧
        call.range.covers offset = true := by
  constructor
  · intro found
    obtain ⟨expression, under, tagged, covers⟩ := TagCall.at?_eq_some found
    exact ⟨expression, Expression.mem_all_of_at? under, tagged, covers⟩
  · rintro ⟨expression, member, tagged, covers⟩
    have content := Expression.hasContentIn_of_mem_all short member
    have stands := TagCall.standsIn_of_tag? content short tagged
    have ends := TagCall.stop_le_of_tag? content short tagged
    obtain ⟨starts, stops⟩ := Span.covers_iff.mp covers
    have under : Expression.at? line offset = some expression :=
      Expression.at?_of_within_content short member (stands.starts ▸ starts) (stops.trans ends)
    rw [TagCall.at?, under]
    exact Option.filter_eq_some_iff.mpr ⟨tagged, covers⟩

/-! ### Every cursor -/

/-- What is found at a cursor is what the cursor touches: the expression to which it belongs with the
variable of that expression, the filter whose name it touches, and the tag whose name it touches. -/
structure IsDispatchedAt (line : List Char) (offset : Nat) : Prop where
  expressions : ∀ expression, Expression.at? line offset = some expression ↔
    expression ∈ Expression.all line ∧ expression.Holds line offset
  references : ∀ expression ∈ Expression.all line, expression.Holds line offset →
    Variable.at? line offset = expression.reference?
  leftFirst : ∀ left ∈ Expression.all line, ∀ right ∈ Expression.all line,
    left.bounds.stop = offset → right.bounds.start = offset →
      Expression.at? line offset = some left
  filters : ∀ call, FilterCall.at? line offset = some call ↔
    ∃ expression ∈ Expression.all line, call ∈ expression.filters ∧ call.range.covers offset = true
  onlyFilter : ∀ expression ∈ Expression.all line, ∀ call ∈ expression.filters,
    call.range.covers offset = true →
      ∀ other ∈ Expression.all line, ∀ twin ∈ other.filters, twin.range.covers offset = true →
        twin = call
  tags : ∀ call, TagCall.at? line offset = some call ↔
    ∃ expression ∈ Expression.all line, expression.tag? = some call ∧
      call.range.covers offset = true

/-- **Every cursor finds what it touches and nothing else.** -/
theorem isDispatchedAt_of_short (short : line.length ≤ Span.limit) (offset : Nat) :
    IsDispatchedAt line offset where
  expressions _ := Expression.at?_eq_some_iff short
  references expression member holds := by
    rw [Variable.at?, Expression.at?_of_holds short member holds, Option.bind_some]
  leftFirst left member _ _ ends _ :=
    Expression.at?_of_holds short member (Or.inl ⟨ends ▸ Expression.bounds_lt short member, ends.ge⟩)
  filters _ := FilterCall.at?_eq_some_iff short
  onlyFilter expression member call among covers other member' twin among' covers' := by
    have found := (FilterCall.at?_eq_some_iff short).mpr ⟨expression, member, among, covers⟩
    have found' := (FilterCall.at?_eq_some_iff short).mpr ⟨other, member', among', covers'⟩
    exact Option.some.inj (found'.symm.trans found)
  tags _ := TagCall.at?_eq_some_iff short

/-- An output with two filters and a tag that begins where the output ends. -/
def touchingLine : List Char := "é {{ x | a |b }}{%- if y -%}".toList

/-- Between the two delimiters the output is found, and behind the second filter that filter. -/
theorem isDispatchedAt_of_short_touching :
    touchingLine.length ≤ Span.limit ∧
      (Expression.all touchingLine).map (fun found => (found.bounds.start, found.bounds.stop)) =
        [(2, 16), (16, 28)] ∧
      (Expression.at? touchingLine 16).map (·.bounds.start) = some 2 ∧
      (FilterCall.at? touchingLine 13).map (·.name) = some ['b'] ∧
      IsDispatchedAt touchingLine 16 ∧ IsDispatchedAt touchingLine 13 := by
  have short : touchingLine.length ≤ Span.limit := by decide
  exact ⟨short, by decide +kernel, by decide +kernel, by decide +kernel,
    isDispatchedAt_of_short short 16, isDispatchedAt_of_short short 13⟩

end LiquidHover.Template
