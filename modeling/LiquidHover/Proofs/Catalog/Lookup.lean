/-
**What a look-up finds.** A table may hold a name more than once. Among the properties of an object the first of a name
is found; among the objects, filters and tags of a catalog it is the last.

* `IsFirst`, `IsLast` — an entry of a kind with no other of the kind in front of it, or behind it.
* `findProperty?_eq_some_iff`, `object?_eq_some_iff`, `tag?_eq_some_iff`, `opener?_eq_some_iff` — what each look-up
  finds.
* `Property.linkedType_eq_iff` — the object that a type names.
-/
import Mathlib.Data.List.Basic
import LiquidHover.Catalog.Lookup

namespace LiquidHover.Catalog

variable {α : Type} {holds : α → Prop} {test : α → Bool} {entries : List α} {entry other : α}

/-- An entry of a kind with none of the kind in front of it. -/
def IsFirst (holds : α → Prop) (entries : List α) (entry : α) : Prop :=
  ∃ before after, entries = before ++ entry :: after ∧ holds entry ∧ ∀ other ∈ before, ¬ holds other

/-- An entry of a kind with none of the kind behind it. -/
def IsLast (holds : α → Prop) (entries : List α) (entry : α) : Prop :=
  ∃ before after, entries = before ++ entry :: after ∧ holds entry ∧ ∀ other ∈ after, ¬ holds other

theorem IsFirst.prop (first : IsFirst holds entries entry) : holds entry := by
  obtain ⟨_, _, _, here, _⟩ := first
  exact here

theorem IsLast.prop (last : IsLast holds entries entry) : holds entry := by
  obtain ⟨_, _, _, here, _⟩ := last
  exact here

theorem IsLast.mem (last : IsLast holds entries entry) : entry ∈ entries := by
  obtain ⟨before, after, rfl, _, _⟩ := last
  exact List.mem_append_right before List.mem_cons_self

theorem isLast_iff_isFirst_reverse : IsLast holds entries entry ↔ IsFirst holds entries.reverse entry := by
  constructor
  · rintro ⟨before, after, rfl, here, none⟩
    refine ⟨after.reverse, before.reverse, by simp, here, fun other member => ?_⟩
    exact none other (List.mem_reverse.mp member)
  · rintro ⟨before, after, reversed, here, none⟩
    refine ⟨after.reverse, before.reverse, ?_, here, fun other member => ?_⟩
    · rw [← List.reverse_reverse entries, reversed]
      simp
    · exact none other (List.mem_reverse.mp member)

theorem find?_eq_some_iff_isFirst (decides : ∀ entry, test entry = true ↔ holds entry) :
    entries.find? test = some entry ↔ IsFirst holds entries entry := by
  rw [List.find?_eq_some_iff_append]
  constructor
  · rintro ⟨here, before, after, whole, none⟩
    refine ⟨before, after, whole, (decides entry).mp here, fun other member also => ?_⟩
    have missed := none other member
    rw [(decides other).mpr also] at missed
    cases missed
  · rintro ⟨before, after, whole, here, none⟩
    refine ⟨(decides entry).mpr here, before, after, whole, fun other member => ?_⟩
    rw [Bool.not_eq_true', Bool.eq_false_iff]
    exact fun also => none other member ((decides other).mp also)

theorem find?_eq_none_iff_of_decides (decides : ∀ entry, test entry = true ↔ holds entry) :
    entries.find? test = none ↔ ∀ entry ∈ entries, ¬ holds entry := by
  simp only [List.find?_eq_none, decides]

theorem findLast?_eq_some_iff (decides : ∀ entry, test entry = true ↔ holds entry) :
    findLast? test entries = some entry ↔ IsLast holds entries entry := by
  rw [findLast?, find?_eq_some_iff_isFirst decides, isLast_iff_isFirst_reverse]

theorem findLast?_eq_none_iff (decides : ∀ entry, test entry = true ↔ holds entry) :
    findLast? test entries = none ↔ ∀ entry ∈ entries, ¬ holds entry := by
  rw [findLast?, find?_eq_none_iff_of_decides decides]
  simp only [List.mem_reverse]

/-! ### Properties -/

section Properties

variable {properties : List Property} {property : Property} {name : String}

/-- **Of properties with one name the first is found.** -/
theorem findProperty?_eq_some_iff :
    findProperty? properties name = some property ↔ IsFirst (·.name = name) properties property :=
  find?_eq_some_iff_isFirst fun _ => beq_iff_eq

theorem findProperty?_eq_none_iff :
    findProperty? properties name = none ↔ ∀ other ∈ properties, other.name ≠ name :=
  find?_eq_none_iff_of_decides fun _ => beq_iff_eq

/-- A type names the object of its elements when it is written as an array, and is else a name itself. -/
def Property.LinksTo (property : Property) (name : String) : Prop :=
  property.typeName = "array<" ++ name ++ ">" ∨
    property.typeName = name ∧ ∀ inner, property.typeName ≠ "array<" ++ inner ++ ">"

theorem Property.elementType?_eq_some_iff {typeName inner : List Char} :
    elementType? typeName = some inner ↔ typeName = "array<".toList ++ inner ++ ['>'] := by
  unfold elementType?
  split
  · rename_i body
    split
    · rename_i closed
      obtain ⟨front, rfl⟩ := List.getLast?_eq_some_iff.mp closed
      simp [eq_comm]
    · rename_i unclosed
      simp only [reduceCtorEq, false_iff]
      intro whole
      have body : body = inner ++ ['>'] := by simpa using whole
      exact unclosed (by simp [body])
  · rename_i plain
    simp only [reduceCtorEq, false_iff]
    intro whole
    exact plain (inner ++ ['>']) (by simpa using whole)

/-- The same for the characters of a type. -/
theorem Property.elementType?_toList_eq_some_iff {typeName inner : String} :
    elementType? typeName.toList = some inner.toList ↔ typeName = "array<" ++ inner ++ ">" := by
  rw [elementType?_eq_some_iff, ← String.toList_inj, String.toList_append, String.toList_append]
  rfl

/-- **The object that a type names.** -/
theorem Property.linkedType_eq_iff : property.linkedType = name ↔ property.LinksTo name := by
  rw [linkedType]
  cases element : elementType? property.typeName.toList with
  | none =>
    have plain : ∀ inner, property.typeName ≠ "array<" ++ inner ++ ">" := by
      intro inner whole
      rw [elementType?_toList_eq_some_iff.mpr whole] at element
      cases element
    exact ⟨fun same => .inr ⟨same, plain⟩, fun links => links.elim (absurd · (plain name)) And.left⟩
  | some inner =>
    have whole : property.typeName = "array<" ++ String.ofList inner ++ ">" :=
      elementType?_toList_eq_some_iff.mp (by rw [element, String.toList_ofList])
    constructor
    · rintro rfl
      exact .inl whole
    · rintro (array | ⟨-, plain⟩)
      · rw [elementType?_toList_eq_some_iff.mpr array] at element
        cases element
        exact String.ofList_toList
      · exact absurd whole (plain _)

end Properties

/-! ### Tables -/

section Tables

variable {catalog : Catalog} {name : String}

/-- **Of objects with one name the last is found.** -/
theorem object?_eq_some_iff {object : Object} :
    catalog.object? name = some object ↔ IsLast (·.name = name) catalog.objects object :=
  findLast?_eq_some_iff fun _ => beq_iff_eq

theorem filter?_eq_none_iff :
    catalog.filter? name = none ↔ ∀ entry ∈ catalog.filters, entry.name ≠ name :=
  findLast?_eq_none_iff fun _ => beq_iff_eq

/-- **Of tags with one name the last is found.** -/
theorem tag?_eq_some_iff {tag : Tag} :
    catalog.tag? name = some tag ↔ IsLast (·.name = name) catalog.tags tag :=
  findLast?_eq_some_iff fun _ => beq_iff_eq

theorem tag?_eq_none_iff : catalog.tag? name = none ↔ ∀ entry ∈ catalog.tags, entry.name ≠ name :=
  findLast?_eq_none_iff fun _ => beq_iff_eq

theorem endsAt_iff (entry : Tag) : (entry.endTag? == some name) = true ↔ entry.form = .block name := by
  rw [beq_iff_eq, Tag.endTag?]
  cases entry.form <;> simp

/-- **Of blocks with one end tag the last is found.** -/
theorem opener?_eq_some_iff {tag : Tag} :
    catalog.opener? name = some tag ↔ IsLast (·.form = .block name) catalog.tags tag :=
  findLast?_eq_some_iff endsAt_iff

theorem opener?_eq_none_iff :
    catalog.opener? name = none ↔ ∀ entry ∈ catalog.tags, entry.form ≠ .block name :=
  findLast?_eq_none_iff endsAt_iff

end Tables

end LiquidHover.Catalog
