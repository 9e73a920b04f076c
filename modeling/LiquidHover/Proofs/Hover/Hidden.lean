/-
**What hidden sections reveal.** The panels of filters and tags read nothing of a section that the settings hide, and no
setting but those of their own sections.

* `Filter.shown`, `Tag.shown` — an entry without what the settings hide.
* `filterPanel_eq_shown`, `tagPanel_eq_shown` — to hide sections of an entry is to show all sections of the entry without
  them.
* `FiltersAgree`, `TagsAgree` — entries that differ only in what is hidden.
* `SameForFilters`, `SameForTags` — settings that hide the same sections.
* `panels_hide` — such entries have the same panel under such settings.
-/
import LiquidHover.Hover.Panel

namespace LiquidHover

/-! ### Entries without what is hidden -/

namespace Catalog

/-- A filter without what its panel hides. The panel has the name that stands in the template, so this one is hidden
always. -/
def Filter.shown (settings : Settings) (entry : Filter) : Filter where
  name := ""
  category := entry.category
  description := if settings.showDescription then entry.description else ""
  usage := entry.usage
  returnType := if settings.showTypes then entry.returnType else ""
  parameters := if settings.showFilterParameters then entry.parameters else []
  examples := if settings.showFilterExamples then entry.examples else []
  deprecated := if settings.showDeprecatedWarnings then entry.deprecated else false

/-- A tag without what its panel hides. -/
def Tag.shown (settings : Settings) (entry : Tag) : Tag where
  name := entry.name
  category := entry.category
  description := if settings.showDescription then entry.description else ""
  usage := entry.usage
  form := entry.form
  parameters := if settings.showFilterParameters then entry.parameters else []
  examples := if settings.showTagExamples then entry.examples else []
  deprecated := if settings.showDeprecatedWarnings then entry.deprecated else false

end Catalog

namespace Hover

open Catalog (Filter Parameter Tag)
open Template (FilterCall TagCall)

/-! ### Sections

A hidden section is the section of an empty text, of an empty list or of what is not deprecated, all of which leave it
out. -/

section Sections

variable (settings : Settings)

theorem descriptionSection_eq_shown (description : String) :
    descriptionSection settings description =
      descriptionSection {} (if settings.showDescription then description else "") := by
  rw [descriptionSection]
  cases settings.showDescription <;> rfl

theorem deprecationSection_eq_shown (deprecated : Bool) (warning : String) :
    deprecationSection settings deprecated warning =
      deprecationSection {} (if settings.showDeprecatedWarnings then deprecated else false) warning := by
  rw [deprecationSection]
  cases settings.showDeprecatedWarnings <;> rfl

theorem parameterTable_eq_shown (header : String) (last : Parameter → String) (parameters : List Parameter) :
    parameterTable settings header last parameters =
      parameterTable {} header last (if settings.showFilterParameters then parameters else []) := by
  rw [parameterTable]
  cases settings.showFilterParameters <;> rfl

theorem examplesSection_eq_shown (shown : Bool) (examples : List String) :
    examplesSection shown examples = examplesSection true (if shown then examples else []) := by
  cases shown <;> rfl

/-- The section of what a filter returns. -/
theorem returns_eq_shown (shown : Bool) (returnType : String) :
    showIf (shown && !returnType.isEmpty) (labelled "Returns" (code returnType)) =
      showIf (!(if shown then returnType else "").isEmpty)
        (labelled "Returns" (code (if shown then returnType else ""))) := by
  cases shown <;> rfl

/-! ### Panels -/

/-- **The panel of a filter** is the panel that shows everything, of the filter without what is hidden. -/
theorem filterPanel_eq_shown (call : FilterCall) (entry : Filter) :
    filterPanel settings call entry = filterPanel {} call (entry.shown settings) := by
  rw [filterPanel, descriptionSection_eq_shown, returns_eq_shown, deprecationSection_eq_shown,
    parameterTable_eq_shown, examplesSection_eq_shown]
  rfl

/-- **The panel of a tag** is the panel that shows everything, of the tag without what is hidden. -/
theorem tagPanel_eq_shown (call : TagCall) (entry : Tag) :
    tagPanel settings call entry = tagPanel {} call (entry.shown settings) := by
  rw [tagPanel, descriptionSection_eq_shown, deprecationSection_eq_shown, parameterTable_eq_shown,
    examplesSection_eq_shown]
  rfl

end Sections

/-! ### Entries and settings that a panel does not tell apart -/

/-- Settings that hide the same sections of filters. -/
structure SameForFilters (settings settings' : Settings) : Prop where
  descriptions : settings.showDescription = settings'.showDescription
  types : settings.showTypes = settings'.showTypes
  warnings : settings.showDeprecatedWarnings = settings'.showDeprecatedWarnings
  parameters : settings.showFilterParameters = settings'.showFilterParameters
  examples : settings.showFilterExamples = settings'.showFilterExamples

/-- Settings that hide the same sections of tags. -/
structure SameForTags (settings settings' : Settings) : Prop where
  descriptions : settings.showDescription = settings'.showDescription
  warnings : settings.showDeprecatedWarnings = settings'.showDeprecatedWarnings
  parameters : settings.showFilterParameters = settings'.showFilterParameters
  examples : settings.showTagExamples = settings'.showTagExamples

/-- Filters that agree on everything that is not hidden. Their names may differ. -/
structure FiltersAgree (settings : Settings) (first second : Filter) : Prop where
  category : first.category = second.category
  usage : first.usage = second.usage
  description : settings.showDescription = true → first.description = second.description
  returnType : settings.showTypes = true → first.returnType = second.returnType
  deprecated : settings.showDeprecatedWarnings = true → first.deprecated = second.deprecated
  parameters : settings.showFilterParameters = true → first.parameters = second.parameters
  examples : settings.showFilterExamples = true → first.examples = second.examples

/-- Tags that agree on everything that is not hidden. -/
structure TagsAgree (settings : Settings) (first second : Tag) : Prop where
  name : first.name = second.name
  category : first.category = second.category
  usage : first.usage = second.usage
  form : first.form = second.form
  description : settings.showDescription = true → first.description = second.description
  deprecated : settings.showDeprecatedWarnings = true → first.deprecated = second.deprecated
  parameters : settings.showFilterParameters = true → first.parameters = second.parameters
  examples : settings.showTagExamples = true → first.examples = second.examples

/-- What is hidden may be anything. -/
theorem shown_congr {α : Type} {shown : Bool} {first second hidden : α} (same : shown = true → first = second) :
    (if shown then first else hidden) = if shown then second else hidden := by
  cases shown with
  | false => rfl
  | true => rw [same rfl]

section Agreement

variable {settings settings' : Settings}

theorem SameForFilters.shown_eq (same : SameForFilters settings settings') (entry : Filter) :
    entry.shown settings = entry.shown settings' := by
  rw [Filter.shown, same.descriptions, same.types, same.warnings, same.parameters, same.examples, Filter.shown]

theorem SameForTags.shown_eq (same : SameForTags settings settings') (entry : Tag) :
    entry.shown settings = entry.shown settings' := by
  rw [Tag.shown, same.descriptions, same.warnings, same.parameters, same.examples, Tag.shown]

theorem FiltersAgree.shown_eq {first second : Filter} (agree : FiltersAgree settings first second) :
    first.shown settings = second.shown settings := by
  rw [Filter.shown, agree.category, agree.usage, shown_congr agree.description, shown_congr agree.returnType,
    shown_congr agree.deprecated, shown_congr agree.parameters, shown_congr agree.examples, Filter.shown]

theorem TagsAgree.shown_eq {first second : Tag} (agree : TagsAgree settings first second) :
    first.shown settings = second.shown settings := by
  rw [Tag.shown, agree.name, agree.category, agree.usage, agree.form, shown_congr agree.description,
    shown_congr agree.deprecated, shown_congr agree.parameters, shown_congr agree.examples, Tag.shown]

end Agreement

/-- **What is hidden is not revealed.** Two filters that agree on what is not hidden have the same panel, and so have two
such tags; and no setting counts but those that hide sections of the panel. -/
theorem panels_hide (settings settings' : Settings) :
    (SameForFilters settings settings' → ∀ (call : FilterCall) (first second : Filter),
      FiltersAgree settings first second →
        filterPanel settings call first = filterPanel settings' call second) ∧
    (SameForTags settings settings' → ∀ (call : TagCall) (first second : Tag),
      TagsAgree settings first second →
        tagPanel settings call first = tagPanel settings' call second) := by
  constructor
  · intro same call first second agree
    rw [filterPanel_eq_shown, agree.shown_eq, same.shown_eq, ← filterPanel_eq_shown]
  · intro same call first second agree
    rw [tagPanel_eq_shown, agree.shown_eq, same.shown_eq, ← tagPanel_eq_shown]

/-- Settings that show types and examples and hide the rest. -/
def terse : Settings :=
  { showDescription := false, showDeprecatedWarnings := false, showFilterParameters := false }

/-- The same sections of filters are hidden. -/
def terseInFilters : Settings := { terse with enableFilterHover := false, maxProperties := 0, showTagExamples := false }

/-- The same sections of tags are hidden. -/
def terseInTags : Settings := { terse with debug := true, showTypes := false, showFilterExamples := false }

/-- A filter of which all is open that those settings hide. -/
def resize (description : String) (parameters : List Parameter) (deprecated : Bool) : Filter where
  name := "resize"
  category := .media
  description
  returnType := "string"
  parameters
  examples := ["\x7b\x7b image | resize: 'large' \x7d\x7d"]
  deprecated

/-- A tag of which all is open that those settings hide. -/
def render (description : String) (parameters : List Parameter) (deprecated : Bool) : Tag where
  name := "render"
  category := .theme
  description
  form := .selfClosing
  parameters
  examples := ["\x7b% render 'card' %\x7d"]
  deprecated

/-- What is open makes no difference. -/
theorem panels_hide_terse :
    let size : Parameter := { name := "size", typeName := "string", description := "Width | height" }
    let filterCall : FilterCall := ⟨"resize".toList, ["large".toList], .ofParts 11 6⟩
    let tagCall : TagCall := ⟨"render".toList, ["card".toList], "'card'".toList, .ofParts 3 6⟩
    SameForFilters terse terseInFilters ∧ SameForTags terse terseInTags ∧
      FiltersAgree terse (resize "Resizes" [size] true) (resize "" [] false) ∧
      TagsAgree terse (render "Renders" [size] true) (render "" [] false) ∧
      filterPanel terse filterCall (resize "Resizes" [size] true) =
        filterPanel terseInFilters filterCall (resize "" [] false) ∧
      tagPanel terse tagCall (render "Renders" [size] true) = tagPanel terseInTags tagCall (render "" [] false) := by
  intro size filterCall tagCall
  have filters : SameForFilters terse terseInFilters := ⟨rfl, rfl, rfl, rfl, rfl⟩
  have tags : SameForTags terse terseInTags := ⟨rfl, rfl, rfl, rfl⟩
  have filtersAgree : FiltersAgree terse (resize "Resizes" [size] true) (resize "" [] false) :=
    ⟨rfl, rfl, nofun, fun _ => rfl, nofun, nofun, fun _ => rfl⟩
  have tagsAgree : TagsAgree terse (render "Renders" [size] true) (render "" [] false) :=
    ⟨rfl, rfl, rfl, rfl, nofun, nofun, nofun, fun _ => rfl⟩
  exact ⟨filters, tags, filtersAgree, tagsAgree,
    (panels_hide terse terseInFilters).1 filters filterCall _ _ filtersAgree,
    (panels_hide terse terseInTags).2 tags tagCall _ _ tagsAgree⟩

end Hover
end LiquidHover
