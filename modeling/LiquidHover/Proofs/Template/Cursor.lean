/-
**What stands under a cursor.** The filter, the tag and the variable under a cursor are those of the
expression under it, and their ranges cover it.

* `FilterCall.at?_eq_some`, `TagCall.at?_eq_some`, `Variable.at?_eq_some` — where each comes from.
* `Expression.range_of_reference?`, `TagCall.range_of_tag?` — the ranges of the variable and the tag.
-/
import LiquidHover.Template.FilterCall
import LiquidHover.Template.TagCall
import LiquidHover.Template.Variable

namespace LiquidHover.Template

variable {line : List Char} {offset : Nat} {expression : Expression}

theorem Expression.mem_all_of_at? (under : Expression.at? line offset = some expression) :
    expression ∈ Expression.all line :=
  List.mem_of_find?_eq_some under

theorem Expression.covers_of_at? (under : Expression.at? line offset = some expression) :
    expression.bounds.covers offset = true := by
  have covers := List.find?_some under
  exact covers

theorem FilterCall.at?_eq_some {call : FilterCall} (found : FilterCall.at? line offset = some call) :
    ∃ expression, Expression.at? line offset = some expression ∧ call ∈ expression.filters ∧
      call.range.covers offset = true := by
  obtain ⟨expression, under, found⟩ := Option.bind_eq_some_iff.mp found
  have covers := List.find?_some found
  exact ⟨expression, under, List.mem_of_find?_eq_some found, covers⟩

theorem TagCall.at?_eq_some {call : TagCall} (found : TagCall.at? line offset = some call) :
    ∃ expression, Expression.at? line offset = some expression ∧ expression.tag? = some call ∧
      call.range.covers offset = true := by
  obtain ⟨expression, under, found⟩ := Option.bind_eq_some_iff.mp found
  obtain ⟨found, covers⟩ := Option.filter_eq_some_iff.mp found
  exact ⟨expression, under, found, covers⟩

/-- A variable has the range of its expression. -/
theorem Expression.range_of_reference? {mention : Variable}
    (found : expression.reference? = some mention) : mention.range = expression.bounds := by
  obtain ⟨path, -, rfl⟩ := Option.map_eq_some_iff.mp found
  rfl

theorem Variable.at?_eq_some {mention : Variable} (found : Variable.at? line offset = some mention) :
    ∃ expression, Expression.at? line offset = some expression ∧
      expression.reference? = some mention ∧ mention.range.covers offset = true := by
  obtain ⟨expression, under, found⟩ := Option.bind_eq_some_iff.mp found
  refine ⟨expression, under, found, ?_⟩
  rw [Expression.range_of_reference? found]
  exact Expression.covers_of_at? under

/-- A tag is named by the start of the content. -/
theorem TagCall.range_of_tag? {call : TagCall} (found : expression.tag? = some call) :
    call.name <+: expression.content ∧ call.name ≠ [] ∧
      call.range = .ofParts expression.contentStart call.name.length := by
  simp only [Expression.tag?] at found
  split at found
  · rename_i keyword
    cases found
    exact ⟨List.takeWhile_prefix _, keyword.2, rfl⟩
  · cases found

end LiquidHover.Template
