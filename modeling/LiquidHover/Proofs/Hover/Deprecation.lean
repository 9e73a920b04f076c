/-
**What a hover reveals about deprecation.** When deprecation warnings are off, a hover depends on the catalog without its
deprecations and on one thing more: which rows of its property table carry the warning mark. Rows are marked whatever the
settings are.

* `tableMarks` — which rows of a property table are marked. `join_propertyRow_eq_iff`: no mark goes unseen.
* `filterPanel_undeprecated`, `tagPanel_undeprecated`, `referenceHead_undeprecated` — what the setting hides.
* `Subject.markdown_eq_iff` — two panels that differ in nothing but deprecation.
* `subject?_undeprecated` — what is looked up does not depend on deprecation.
* `hover_reveals_marks` — the hovers of two catalogs that differ in nothing but deprecation.
-/
import LiquidHover.Hover.Answer
import LiquidHover.Proofs.Catalog.Undeprecated

namespace LiquidHover.Hover

open Catalog (Filter Object Property Tag)
open Template (FilterCall TagCall Variable)

/-! ### Rows -/

/-- The rows of a property table. -/
def tableRows (limit : Nat) (properties : List Property) : List Property :=
  (sortedProperties properties).take limit

/-- Which rows of a property table are marked. -/
def tableMarks (limit : Nat) (properties : List Property) : List Bool :=
  (tableRows limit properties).map (·.deprecated.isSome)

theorem tableRows_map_undeprecated (limit : Nat) (properties : List Property) :
    tableRows limit (properties.map Property.undeprecated) =
      (tableRows limit properties).map Property.undeprecated := by
  rw [tableRows, sortedProperties, tableRows, sortedProperties, List.map_take, List.map_mergeSort]
  intro a _ b _
  rw [Property.undeprecated_name, Property.undeprecated_name]

/-- The cells of a row behind the mark. -/
def rowEnd (property : Property) : String :=
  " | " ++ code property.typeName ++ " | " ++ escapeCell property.description ++ " |\n"

theorem propertyRow_append (property : Property) (rest : String) :
    propertyRow property ++ rest = "| " ++ code property.name ++
      (showIf property.deprecated.isSome (" " ++ warningMark) ++ (rowEnd property ++ rest)) := by
  simp only [propertyRow, rowEnd, String.append_assoc]

/-- A marked row is no unmarked one: they differ right behind the name. -/
theorem marked_ne_unmarked (first second : Property) (rest rest' : String) :
    " " ++ warningMark ++ (rowEnd first ++ rest) ≠ rowEnd second ++ rest' := by
  intro same
  have characters := congrArg String.toList same
  simp only [rowEnd, warningMark, String.toList_append, String.reduceToList, List.cons_append] at characters
  cases (List.cons.inj (List.cons.inj characters).2).1

variable {first second : Property} {rest rest' : String}

/-- **Two rows that differ in nothing but deprecation** are the same exactly if they are equally marked, whatever
follows them. -/
theorem propertyRow_append_eq_iff (alike : first.undeprecated = second.undeprecated) :
    propertyRow first ++ rest = propertyRow second ++ rest' ↔
      first.deprecated.isSome = second.deprecated.isSome ∧ rest = rest' := by
  have name : first.name = second.name := by simpa using congrArg Property.name alike
  have ends : rowEnd first = rowEnd second := by
    have typeName : first.typeName = second.typeName := by simpa using congrArg Property.typeName alike
    have description : first.description = second.description := by
      simpa using congrArg Property.description alike
    rw [rowEnd, typeName, description, rowEnd]
  rw [propertyRow_append, propertyRow_append, name, String.append_right_inj]
  cases first.deprecated.isSome <;> cases second.deprecated.isSome
  case false.false | true.true => simp [ends]
  case false.true => simpa [showIf] using (marked_ne_unmarked second first rest' rest).symm
  case true.false => simpa [showIf] using marked_ne_unmarked first second rest rest'

/-- **The rows of two tables**, by induction on the rows: a row that is not equally marked is a difference that no later
row makes up for. -/
theorem join_propertyRow_eq_iff {rows rows' : List Property}
    (alike : rows.map Property.undeprecated = rows'.map Property.undeprecated) :
    String.join (rows.map propertyRow) = String.join (rows'.map propertyRow) ↔
      rows.map (·.deprecated.isSome) = rows'.map (·.deprecated.isSome) := by
  induction rows generalizing rows' with
  | nil =>
    obtain rfl := List.map_eq_nil_iff.mp alike.symm
    exact iff_of_true rfl rfl
  | cons row rows ih =>
    obtain ⟨row', rows', rfl, same, alike⟩ := List.map_eq_cons_iff.mp alike.symm
    rw [List.map_cons, List.map_cons, String.join_cons, String.join_cons,
      propertyRow_append_eq_iff same.symm, ih alike.symm, List.map_cons, List.map_cons, List.cons.injEq]

/-- Two property tables that differ in nothing but deprecation are the same exactly if their rows are equally marked. -/
theorem propertyTable_eq_iff {limit : Nat} {properties properties' : List Property}
    (alike : properties.map Property.undeprecated = properties'.map Property.undeprecated) :
    propertyTable limit properties = propertyTable limit properties' ↔
      tableMarks limit properties = tableMarks limit properties' := by
  have lengths : properties.length = properties'.length := by simpa using congrArg List.length alike
  have rows : (tableRows limit properties).map Property.undeprecated =
      (tableRows limit properties').map Property.undeprecated := by
    rw [← tableRows_map_undeprecated, alike, tableRows_map_undeprecated]
  cases properties with
  | nil =>
    obtain rfl := List.length_eq_zero_iff.mp lengths.symm
    exact iff_of_true rfl rfl
  | cons property rest =>
    obtain ⟨property', rest', rfl⟩ := List.exists_cons_of_length_eq_add_one lengths.symm
    rw [tableMarks, tableMarks, ← join_propertyRow_eq_iff rows, propertyTable, propertyTable, lengths]
    simp only [List.isEmpty_cons, Bool.not_false, showIf, if_true, String.append_left_inj,
      String.append_right_inj, tableRows]

/-! ### Panels -/

section Panels

variable {settings : Settings} (silent : settings.showDeprecatedWarnings = false)

include silent

theorem deprecationSection_eq_empty (deprecated : Bool) (warning : String) :
    deprecationSection settings deprecated warning = "" := by
  rw [deprecationSection, silent]
  rfl

theorem filterPanel_undeprecated (call : FilterCall) (entry : Filter) :
    filterPanel settings call entry.undeprecated = filterPanel settings call entry := by
  simp only [filterPanel, deprecationSection_eq_empty silent, Filter.undeprecated]

theorem tagPanel_undeprecated (call : TagCall) (entry : Tag) :
    tagPanel settings call entry.undeprecated = tagPanel settings call entry := by
  simp only [tagPanel, deprecationSection_eq_empty silent, Tag.undeprecated]
  rfl

theorem propertySection_undeprecated (property : Property) :
    propertySection settings property.undeprecated = propertySection settings property := by
  rw [propertySection, propertySection, silent, Property.undeprecated_typeName,
    Property.undeprecated_description]
  cases property with
  | mk _ _ _ deprecated _ => cases deprecated <;> rfl

end Panels

/-- The panel of a variable without its table. -/
def referenceHead (settings : Settings) (mention : Variable) (object : Object) (property : Option Property) :
    String :=
  String.join
    [ "## " ++ code (String.ofList mention.path) ++ "\n\n",
      showIf settings.showTypes (labelled "Type" (code object.typeName)),
      descriptionSection settings object.description,
      deprecationSection settings object.deprecated "This object is deprecated",
      (property.map (propertySection settings)).getD "" ]

theorem referencePanel_eq (settings : Settings) (mention : Variable) (object : Object)
    (property : Option Property) :
    referencePanel settings mention object property =
      referenceHead settings mention object property ++ propertyTable settings.maxProperties object.properties := by
  simp only [referencePanel, referenceHead, String.join_cons, String.join_nil, String.append_assoc,
    String.append_empty]

theorem referenceHead_undeprecated {settings : Settings} (silent : settings.showDeprecatedWarnings = false)
    (mention : Variable) (object : Object) (property : Option Property) :
    referenceHead settings mention object.undeprecated (property.map Property.undeprecated) =
      referenceHead settings mention object property := by
  have described : (property.map Property.undeprecated).map (propertySection settings) =
      property.map (propertySection settings) := by
    cases property with
    | none => rfl
    | some property => exact congrArg some (propertySection_undeprecated silent property)
  simp only [referenceHead, deprecationSection_eq_empty silent, described, Object.undeprecated]

/-! ### Subjects -/

namespace Subject

/-- A subject whose entry has nothing in it deprecated. -/
def undeprecated : Subject → Subject
  | .filter call entry => .filter call entry.undeprecated
  | .tag call entry => .tag call entry.undeprecated
  | .reference mention object property =>
    .reference mention object.undeprecated (property.map Property.undeprecated)

/-- Which rows are marked in the panel of a subject. -/
def marks (settings : Settings) : Subject → List Bool
  | .reference _ object _ => tableMarks settings.maxProperties object.properties
  | .filter _ _ | .tag _ _ => []

theorem range_undeprecated (subject : Subject) : subject.undeprecated.range = subject.range := by
  cases subject <;> rfl

/-- **Two panels that differ in nothing but deprecation** are the same exactly if their rows are equally marked. -/
theorem markdown_eq_iff {settings : Settings} (silent : settings.showDeprecatedWarnings = false)
    {first second : Subject} (alike : first.undeprecated = second.undeprecated) :
    first.markdown settings = second.markdown settings ↔ first.marks settings = second.marks settings := by
  cases first with
  | filter call entry =>
    cases second with
    | filter call' entry' =>
      obtain ⟨rfl, same⟩ := Subject.filter.inj alike
      refine iff_of_true ?_ rfl
      rw [markdown, ← filterPanel_undeprecated silent, same, filterPanel_undeprecated silent, markdown]
    | tag | reference => cases alike
  | tag call entry =>
    cases second with
    | tag call' entry' =>
      obtain ⟨rfl, same⟩ := Subject.tag.inj alike
      refine iff_of_true ?_ rfl
      rw [markdown, ← tagPanel_undeprecated silent, same, tagPanel_undeprecated silent, markdown]
    | filter | reference => cases alike
  | reference mention object property =>
    cases second with
    | reference mention' object' property' =>
      obtain ⟨rfl, sameObject, sameProperty⟩ := Subject.reference.inj alike
      have head : referenceHead settings mention object property =
          referenceHead settings mention object' property' := by
        rw [← referenceHead_undeprecated silent, sameObject, sameProperty, referenceHead_undeprecated silent]
      rw [markdown, markdown, referencePanel_eq, referencePanel_eq, head, String.append_right_inj]
      exact propertyTable_eq_iff (congrArg Object.properties sameObject)
    | filter | tag => cases alike

end Subject

/-! ### Look-ups -/

section

variable (catalog : Catalog)

theorem documented?_undeprecated (target : Target) :
    documented? catalog.undeprecated target = (documented? catalog target).map Subject.undeprecated := by
  cases target with
  | filter call =>
    rw [documented?, Catalog.filter?_undeprecated, Option.map_map, documented?, Option.map_map]
    rfl
  | tag call =>
    simp only [documented?, Catalog.tag?_undeprecated, Catalog.opener?_undeprecated, ← Option.map_or,
      Option.map_map]
    rfl
  | reference mention =>
    rw [documented?, Catalog.object?_undeprecated, documented?, Option.map_map, Option.map_map]
    congr 1
    funext object
    simp only [Function.comp_apply, Catalog.resolve?_undeprecated, Subject.undeprecated]

/-- **What is looked up** does not depend on deprecation. -/
theorem subject?_undeprecated (settings : Settings) (line : List Char) (offset : Nat) :
    subject? catalog.undeprecated settings line offset =
      (subject? catalog settings line offset).map Subject.undeprecated := by
  rw [subject?, subject?, List.map_findSome?]
  congr 1
  funext target
  exact documented?_undeprecated catalog target

end

/-! ### Two catalogs -/

/-- Which rows of the property table of a hover are marked; without a table there are none. -/
def shownMarks (catalog : Catalog) (settings : Settings) (line : List Char) (offset : Nat) : List Bool :=
  ((subject? catalog settings line offset).map (Subject.marks settings)).getD []

/-- The hovers of two catalogs stand at the same characters, and are the same exactly if the rows of their tables are
equally marked. -/
structure RevealsMarks (first second : Catalog) (settings : Settings) (line : List Char) (offset : Nat) :
    Prop where
  range : (Hover.at? first settings line offset).map (·.range) =
    (Hover.at? second settings line offset).map (·.range)
  same_iff : Hover.at? first settings line offset = Hover.at? second settings line offset ↔
    shownMarks first settings line offset = shownMarks second settings line offset

/-- **With deprecation warnings off** the marks on rows are what hovers reveal about deprecation, and all that they
reveal. -/
theorem hover_reveals_marks {first second : Catalog} {settings : Settings}
    (silent : settings.showDeprecatedWarnings = false) (alike : first.undeprecated = second.undeprecated)
    (line : List Char) (offset : Nat) : RevealsMarks first second settings line offset := by
  have subjects : (subject? first settings line offset).map Subject.undeprecated =
      (subject? second settings line offset).map Subject.undeprecated := by
    rw [← subject?_undeprecated, alike, subject?_undeprecated]
  cases found : subject? first settings line offset with
  | none =>
    have found' : subject? second settings line offset = none := by
      rw [found] at subjects
      exact Option.map_eq_none_iff.mp subjects.symm
    exact ⟨by simp [Hover.at?, found, found'], by simp [Hover.at?, shownMarks, found, found']⟩
  | some subject =>
    rw [found] at subjects
    obtain ⟨subject', found', same⟩ := Option.map_eq_some_iff.mp subjects.symm
    have ranges : subject.range = subject'.range := by
      rw [← subject.range_undeprecated, ← same, subject'.range_undeprecated]
    constructor
    · simp [Hover.at?, found, found', ranges]
    · simpa [Hover.at?, shownMarks, found, found', ranges] using Subject.markdown_eq_iff silent same.symm

/-- An object with one property, either of which can be deprecated. -/
def gadgets (deprecated : Bool) (note : Option String) : Catalog where
  objects :=
    [ { name := "gadget"
        typeName := "Gadget"
        description := "A gadget"
        deprecated
        properties := [{ name := "old", typeName := "string", description := "Gone", deprecated := note }] } ]
  filters := []
  tags := []

/-- Settings that hide deprecation warnings. -/
def silentSettings : Settings := { showDeprecatedWarnings := false }

/-- A use of that property. -/
def gadgetLine : List Char := "\x7b\x7b gadget.old \x7d\x7d".toList

/-- The note on a property and the deprecation of an object are hidden. -/
theorem hover_reveals_marks_gadgets :
    silentSettings.showDeprecatedWarnings = false ∧
      (gadgets true (some "Use new")).undeprecated = (gadgets false (some "Use none")).undeprecated ∧
      RevealsMarks (gadgets true (some "Use new")) (gadgets false (some "Use none")) silentSettings gadgetLine 4 ∧
      Hover.at? (gadgets true (some "Use new")) silentSettings gadgetLine 4 =
        Hover.at? (gadgets false (some "Use none")) silentSettings gadgetLine 4 := by
  have reveals : RevealsMarks (gadgets true (some "Use new")) (gadgets false (some "Use none")) silentSettings
      gadgetLine 4 := hover_reveals_marks (by rfl) (by rfl) gadgetLine 4
  exact ⟨rfl, rfl, reveals, reveals.same_iff.mpr (by decide +kernel)⟩

/-- Whether a property is deprecated at all is not hidden. -/
theorem hover_shows_deprecated_row :
    silentSettings.showDeprecatedWarnings = false ∧
      (gadgets false (some "Use new")).undeprecated = (gadgets false none).undeprecated ∧
      Hover.at? (gadgets false (some "Use new")) silentSettings gadgetLine 4 ≠
        Hover.at? (gadgets false none) silentSettings gadgetLine 4 :=
  ⟨rfl, rfl, by decide +kernel⟩

end LiquidHover.Hover
