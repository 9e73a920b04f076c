/-
**Which tag a hover shows.** On the name of a tag a hover shows the last tag of that name, and if no tag has it, the
last block that ends at it. In the second case, and in no other, the panel has a line that tells which tag is closed.

* `DocumentsTag` — the entry for the name of a tag. `known_iff`: there is one exactly if the name is that of a tag or
  the end of a block.
* `subject?_of_tag` — on the name of a tag the subject is that entry, or else the variable of the expression.
* `IsTagPanel`, `not_isTagPanel_referencePanel` — the heading of a tag's panel, which no panel of a variable has.
* `tagPanel_eq`, `hasLine_tagHeading_append` — the parts of a tag's panel and their lines.
* `tag_hover_shows` — the hover on the name of a tag.
-/
import LiquidHover.Hover.Answer
import LiquidHover.Proofs.Catalog.Lookup
import LiquidHover.Proofs.Template.Cursor
import LiquidHover.Proofs.Template.Path
import LiquidHover.Proofs.Text.Lines

namespace LiquidHover.Hover

open Catalog (IsLast Object Property Tag TagForm)
open Template (FilterCall TagCall Variable)

/-! ### The entry of a name -/

/-- The entry for the name of a tag: the last tag of that name, and if there is none, the last block that ends at it. -/
inductive DocumentsTag (catalog : Catalog) (name : String) (entry : Tag) : Prop where
  | named (last : IsLast (·.name = name) catalog.tags entry)
  | ended (unnamed : ∀ other ∈ catalog.tags, other.name ≠ name)
      (last : IsLast (·.form = .block name) catalog.tags entry)

variable {catalog : Catalog} {name : String} {entry : Tag}

theorem documentsTag_iff :
    (catalog.tag? name).or (catalog.opener? name) = some entry ↔ DocumentsTag catalog name entry := by
  rw [Option.or_eq_some_iff, Catalog.tag?_eq_some_iff, Catalog.tag?_eq_none_iff,
    Catalog.opener?_eq_some_iff]
  constructor
  · rintro (last | ⟨unnamed, last⟩)
    · exact .named last
    · exact .ended unnamed last
  · rintro (last | ⟨unnamed, last⟩)
    · exact .inl last
    · exact .inr ⟨unnamed, last⟩

/-- **A name has an entry** exactly if it is the name of a tag or the end of a block. -/
theorem known_iff :
    (∃ entry, DocumentsTag catalog name entry) ↔
      ∃ entry ∈ catalog.tags, entry.name = name ∨ entry.form = .block name := by
  simp only [← documentsTag_iff, ← Option.isSome_iff_exists, ← Option.ne_none_iff_isSome, ne_eq,
    Option.or_eq_none_iff, Catalog.tag?_eq_none_iff, Catalog.opener?_eq_none_iff]
  constructor
  · intro known
    by_contra unknown
    refine known ⟨fun entry member named => ?_, fun entry member ended => ?_⟩
    · exact unknown ⟨entry, member, .inl named⟩
    · exact unknown ⟨entry, member, .inr ended⟩
  · rintro ⟨entry, member, named | ended⟩ ⟨unnamed, unended⟩
    · exact unnamed entry member named
    · exact unended entry member ended

/-- The entry has the name exactly if some tag has it. -/
theorem DocumentsTag.name_eq_iff (documents : DocumentsTag catalog name entry) :
    name = entry.name ↔ ∃ other ∈ catalog.tags, other.name = name := by
  cases documents with
  | named last => exact iff_of_true last.prop.symm ⟨entry, last.mem, last.prop⟩
  | ended unnamed last =>
    refine iff_of_false (fun same => unnamed entry last.mem same.symm) ?_
    rintro ⟨other, member, same⟩
    exact unnamed other member same

/-! ### The subject -/

variable {settings : Settings} {line : List Char} {offset : Nat} {call : TagCall}

/-- **On the name of a tag** the subject is its entry, or else the variable of the expression, unless a filter is under
the cursor as well. -/
theorem subject?_of_tag (enabled : settings.enabled = true) (asked : settings.enableTagHover = true)
    (unfiltered : settings.enableFilterHover = true → ∀ filter, FilterCall.at? line offset = some filter →
      ∀ entry ∈ catalog.filters, entry.name ≠ String.ofList filter.name)
    (under : TagCall.at? line offset = some call) :
    subject? catalog settings line offset =
      (documented? catalog (.tag call)).or
        ((Variable.at? line offset).bind fun mention => documented? catalog (.reference mention)) := by
  have noFilter : (if settings.enableFilterHover then
      (FilterCall.at? line offset).toList.map Target.filter else []).findSome?
        (documented? catalog) = none := by
    split
    · rename_i shown
      cases found : FilterCall.at? line offset with
      | none => rfl
      | some filter =>
        have unknown := Catalog.filter?_eq_none_iff.mpr (unfiltered shown filter found)
        simp [documented?, unknown]
    · rfl
  rw [subject?, targets, if_pos enabled, if_pos asked, under, List.append_assoc, List.findSome?_append,
    noFilter, Option.none_or, List.findSome?_append]
  congr 1
  · simp
  · cases Variable.at? line offset <;> simp

/-! ### Names without line feeds -/

/-- The name of a tag has no blank in it. -/
theorem isBlank_of_mem_name (under : TagCall.at? line offset = some call) :
    ∀ c ∈ call.name, Text.isBlank c = false := by
  obtain ⟨expression, -, tagged, -⟩ := TagCall.at?_eq_some under
  simp only [Template.Expression.tag?] at tagged
  split at tagged
  · cases tagged
    intro c member
    simpa using List.mem_takeWhile_imp member
  · cases tagged

theorem lineFeed_not_mem_name (under : TagCall.at? line offset = some call) : '\n' ∉ call.name := by
  intro member
  have solid := isBlank_of_mem_name under _ member
  cases solid

theorem isWord_or_eq_of_mem_takePath {text : List Char} {c : Char} (member : c ∈ Template.takePath text) :
    Template.isWord c = true ∨ c = '.' := by
  fun_induction Template.takePath text with
  | case1 => cases member
  | case2 d rest goes ih =>
    rcases List.mem_cons.mp member with rfl | later
    · simp only [Bool.or_eq_true, Bool.and_eq_true, beq_iff_eq] at goes
      exact goes.imp_right And.left
    · exact ih later
  | case3 => cases member

/-- The path of a variable stands on one line. -/
theorem lineFeed_not_mem_path {mention : Variable} (under : Variable.at? line offset = some mention) :
    '\n' ∉ mention.path := by
  obtain ⟨expression, -, refers, -⟩ := Variable.at?_eq_some under
  obtain ⟨path, found, rfl⟩ := Option.map_eq_some_iff.mp refers
  obtain ⟨place, -, rfl⟩ := Template.firstPath?_eq_some_iff.mp found
  intro member
  rcases isWord_or_eq_of_mem_takePath member with word | point
  · cases word
  · cases point

/-! ### Lines of markdown -/

/-- A line of a text begins with a label. -/
def HasLine (label text : String) : Prop :=
  ∃ line ∈ Text.splitAt '\n' text.toList, label.toList <+: line

theorem splitAt_lineFeed {front : String} (whole : '\n' ∉ front.toList) (rest : String) :
    Text.splitAt '\n' (front ++ "\n" ++ rest).toList =
      front.toList :: Text.splitAt '\n' rest.toList := by
  rw [String.toList_append, String.toList_append, List.append_assoc]
  exact Text.splitAt_append whole rest.toList

/-- The lines behind a first line without the label. -/
theorem hasLine_lineFeed {label front : String} (whole : '\n' ∉ front.toList)
    (other : ¬ label.toList <+: front.toList) (rest : String) :
    HasLine label (front ++ "\n" ++ rest) ↔ HasLine label rest := by
  rw [HasLine, splitAt_lineFeed whole, HasLine, List.exists_mem_cons_iff]
  exact or_iff_right other

/-- A text that begins with a label has a line that does. -/
theorem hasLine_append {label : String} (whole : '\n' ∉ label.toList) (rest : String) :
    HasLine label (label ++ rest) := by
  rw [HasLine, String.toList_append]
  by_cases broken : '\n' ∈ rest.toList
  · obtain ⟨front, back, parts, unbroken⟩ := List.eq_append_cons_of_mem broken
    have line : '\n' ∉ label.toList ++ front := by simp [whole, unbroken]
    rw [parts, ← List.append_assoc, Text.splitAt_append line]
    exact ⟨_, List.mem_cons_self, List.prefix_append _ _⟩
  · have line : '\n' ∉ label.toList ++ rest.toList := by simp [whole, broken]
    rw [Text.splitAt_of_not_mem line]
    exact ⟨_, List.mem_cons_self, List.prefix_append _ _⟩

/-! ### Headings -/

/-- A panel with the heading of a tag's name. -/
def IsTagPanel (name markdown : String) : Prop :=
  ∃ rest, markdown = "## " ++ code name ++ " Tag\n\n" ++ rest

theorem isTagPanel_tagPanel (settings : Settings) (call : TagCall) (entry : Tag) :
    IsTagPanel (String.ofList call.name) (tagPanel settings call entry) := by
  rw [tagPanel, String.join_cons]
  exact ⟨_, rfl⟩

/-- **No panel of a variable has the heading of a tag.** Their first lines end differently. -/
theorem not_isTagPanel_referencePanel {name : List Char} {mention : Variable} (solid : '\n' ∉ name)
    (solid' : '\n' ∉ mention.path) (settings : Settings) (object : Object) (property : Option Property) :
    ¬ IsTagPanel (String.ofList name) (referencePanel settings mention object property) := by
  rintro ⟨rest, same⟩
  obtain ⟨sections, panel⟩ : ∃ sections, referencePanel settings mention object property =
      "## " ++ code (String.ofList mention.path) ++ "\n\n" ++ sections := ⟨_, String.join_cons⟩
  have lines : ("## `" ++ String.ofList mention.path ++ "`") ++ "\n" ++ ("\n" ++ sections) =
      ("## `" ++ String.ofList name ++ "` Tag") ++ "\n" ++ ("\n" ++ rest) := by
    rw [panel] at same
    simpa [← String.toList_inj, code] using same
  have pieces := congrArg (fun text : String => Text.splitAt '\n' text.toList) lines
  have whole : '\n' ∉ ("## `" ++ String.ofList mention.path ++ "`").toList := by simp [solid']
  have whole' : '\n' ∉ ("## `" ++ String.ofList name ++ "` Tag").toList := by simp [solid]
  simp only [splitAt_lineFeed whole, splitAt_lineFeed whole'] at pieces
  have ends := congrArg List.getLast? (List.cons.inj pieces).1
  simp only [String.toList_append, List.getLast?_append] at ends
  cases ends

/-! ### The panel of a tag -/

/-- What stands above the line that tells which tag is closed. -/
def tagHeading (name : String) (entry : Tag) : String :=
  "## " ++ code name ++ " Tag\n\n" ++ labelled "Category" entry.category.title

/-- What stands below the line that tells which tag is closed, whatever the name under the cursor is. -/
def tagBody (settings : Settings) (parameters : List (List Char)) (entry : Tag) : String :=
  String.join
    [ descriptionSection settings entry.description,
      usageSection entry.usage,
      formSection entry.form,
      deprecationSection settings entry.deprecated
        "This tag is deprecated and should be avoided.",
      parameterTable settings requiredHeader requiredCell entry.parameters,
      currentParameters parameters,
      examplesSection settings.showTagExamples entry.examples ]

/-- The line that tells which tag is closed. -/
def closesLine (entry : Tag) : String := labelled "Closes" (code entry.name)

theorem tagPanel_eq (settings : Settings) (call : TagCall) (entry : Tag) :
    tagPanel settings call entry =
      tagHeading (String.ofList call.name) entry ++
        showIf (String.ofList call.name ≠ entry.name) (closesLine entry) ++
        tagBody settings call.parameters entry := by
  simp only [tagPanel, tagHeading, tagBody, closesLine, String.join_cons, String.append_assoc]

/-- The heading of a tag's panel has no line that tells which tag is closed. -/
theorem hasLine_tagHeading_append {name : List Char} (solid : '\n' ∉ name) (entry : Tag) (rest : String) :
    HasLine "**Closes:**" (tagHeading (String.ofList name) entry ++ rest) ↔ HasLine "**Closes:**" rest := by
  have lines : tagHeading (String.ofList name) entry ++ rest =
      ("## `" ++ String.ofList name ++ "` Tag") ++ "\n" ++ ("" ++ "\n" ++
        (("**Category:** " ++ entry.category.title) ++ "\n" ++ ("" ++ "\n" ++ rest))) := by
    apply String.toList_inj.mp
    simp [tagHeading, labelled, code]
  have title : '\n' ∉ entry.category.title.toList := by cases entry.category <;> decide
  rw [lines, hasLine_lineFeed, hasLine_lineFeed, hasLine_lineFeed,
    hasLine_lineFeed]
  all_goals simp [solid, title]

/-! ### The hover -/

/-- A hover that shows an entry for the name of a tag. Its panel is the heading and the body, and between them, exactly
when no tag has the name, the line that tells which tag is closed. No other part of the panel depends on the name, so a
line with that label is this one, unless the texts of the entry bring one of their own. -/
structure ShowsTag (catalog : Catalog) (settings : Settings) (call : TagCall) (entry : Tag) (hover : Hover) :
    Prop where
  documents : DocumentsTag catalog (String.ofList call.name) entry
  range : hover.range = call.range
  named : (∃ other ∈ catalog.tags, other.name = String.ofList call.name) →
    hover.markdown = tagHeading (String.ofList call.name) entry ++ tagBody settings call.parameters entry
  closes : (∀ other ∈ catalog.tags, other.name ≠ String.ofList call.name) →
    hover.markdown = tagHeading (String.ofList call.name) entry ++ closesLine entry ++
      tagBody settings call.parameters entry
  hasLine : HasLine "**Closes:**" hover.markdown ↔
    (∀ other ∈ catalog.tags, other.name ≠ String.ofList call.name) ∨
      HasLine "**Closes:**" (tagBody settings call.parameters entry)

/-- The panel of the entry for a name shows it. -/
theorem showsTag_tagPanel (solid : '\n' ∉ call.name)
    (documents : DocumentsTag catalog (String.ofList call.name) entry) :
    ShowsTag catalog settings call entry ⟨tagPanel settings call entry, call.range⟩ where
  documents := documents
  range := rfl
  named owned := by
    have same := documents.name_eq_iff.mpr owned
    rw [tagPanel_eq, showIf, if_neg (by simp [same]), String.append_empty]
  closes unnamed := by
    have differs : String.ofList call.name ≠ entry.name := fun same => by
      obtain ⟨other, member, also⟩ := documents.name_eq_iff.mp same
      exact unnamed other member also
    rw [tagPanel_eq, showIf, if_pos (by simp [differs])]
  hasLine := by
    show HasLine _ (tagPanel settings call entry) ↔ _
    rw [tagPanel_eq, String.append_assoc, hasLine_tagHeading_append solid]
    by_cases same : String.ofList call.name = entry.name
    · obtain ⟨other, member, also⟩ := documents.name_eq_iff.mp same
      rw [showIf, if_neg (by simp [same]), String.empty_append, or_iff_right]
      exact fun unnamed => unnamed other member also
    · have unnamed : ∀ other ∈ catalog.tags, other.name ≠ String.ofList call.name :=
        fun other member also => same (documents.name_eq_iff.mpr ⟨other, member, also⟩)
      rw [showIf, if_pos (by simp [same])]
      refine iff_of_true ?_ (.inl unnamed)
      have line : closesLine entry ++ tagBody settings call.parameters entry =
          "**Closes:**" ++ (" " ++ code entry.name ++ "\n\n" ++ tagBody settings call.parameters entry) := by
        simp [← String.toList_inj, closesLine, labelled]
      rw [line]
      exact hasLine_append (by decide) _

/-- Without an entry there is no panel with the heading of the name. -/
theorem exists_documentsTag_of_isTagPanel {hover : Hover} (enabled : settings.enabled = true)
    (asked : settings.enableTagHover = true)
    (unfiltered : settings.enableFilterHover = true → ∀ filter, FilterCall.at? line offset = some filter →
      ∀ entry ∈ catalog.filters, entry.name ≠ String.ofList filter.name)
    (under : TagCall.at? line offset = some call)
    (answer : Hover.at? catalog settings line offset = some hover)
    (heading : IsTagPanel (String.ofList call.name) hover.markdown) :
    ∃ entry, DocumentsTag catalog (String.ofList call.name) entry := by
  by_contra unknown
  have undocumented : documented? catalog (.tag call) = none := by
    rw [documented?, Option.map_eq_none_iff, Option.eq_none_iff_forall_ne_some]
    exact fun entry found => unknown ⟨entry, documentsTag_iff.mp found⟩
  rw [Hover.at?, subject?_of_tag enabled asked unfiltered under, undocumented, Option.none_or,
    Option.map_eq_some_iff] at answer
  obtain ⟨subject, refers, rfl⟩ := answer
  obtain ⟨mention, underVariable, found⟩ := Option.bind_eq_some_iff.mp refers
  obtain ⟨object, -, rfl⟩ := Option.map_eq_some_iff.mp found
  exact not_isTagPanel_referencePanel (lineFeed_not_mem_name under) (lineFeed_not_mem_path underVariable)
    settings object _ heading

/-- **The hover on the name of a tag.** When tags are asked for and no known filter is under the cursor, there is a
panel with the heading of a tag exactly if the name is that of a tag or the end of a block, and it shows the last tag of
that name, or, if there is none, the last block that ends at it. -/
theorem tag_hover_shows (enabled : settings.enabled = true) (asked : settings.enableTagHover = true)
    (unfiltered : settings.enableFilterHover = true → ∀ filter, FilterCall.at? line offset = some filter →
      ∀ entry ∈ catalog.filters, entry.name ≠ String.ofList filter.name)
    (under : TagCall.at? line offset = some call) :
    ((∃ hover, Hover.at? catalog settings line offset = some hover ∧
        IsTagPanel (String.ofList call.name) hover.markdown) ↔
      ∃ entry ∈ catalog.tags, entry.name = String.ofList call.name ∨
        entry.form = .block (String.ofList call.name)) ∧
    ∀ hover, Hover.at? catalog settings line offset = some hover →
      IsTagPanel (String.ofList call.name) hover.markdown →
        ∃ entry, ShowsTag catalog settings call entry hover := by
  have solid := lineFeed_not_mem_name under
  have subject : subject? catalog settings line offset = _ := subject?_of_tag enabled asked unfiltered under
  have shown (entry : Tag) (documents : DocumentsTag catalog (String.ofList call.name) entry) :
      Hover.at? catalog settings line offset = some ⟨tagPanel settings call entry, call.range⟩ := by
    rw [Hover.at?, subject, documented?, documentsTag_iff.mpr documents]
    rfl
  have known (hover : Hover) (answer : Hover.at? catalog settings line offset = some hover) :=
    exists_documentsTag_of_isTagPanel enabled asked unfiltered under answer
  constructor
  · rw [← known_iff]
    constructor
    · rintro ⟨hover, answer, heading⟩
      exact known hover answer heading
    · rintro ⟨entry, documents⟩
      exact ⟨_, shown entry documents, isTagPanel_tagPanel settings call entry⟩
  · intro hover answer heading
    obtain ⟨entry, documents⟩ := known hover answer heading
    obtain rfl : _ = hover := Option.some.inj ((shown entry documents).symm.trans answer)
    exact ⟨entry, showsTag_tagPanel solid documents⟩

/-- A block that ends at `end|up`, with a description that brings a line with the label. -/
def block (name : String) (category : Catalog.TagCategory) : Tag :=
  { name, category, description := "*Closes:** nothing", form := .block "end|up" }

/-- Two blocks with the same end. -/
def sharedEnd : Catalog := { objects := [], filters := [], tags := [block "if" .conditional, block "for" .iteration] }

/-- The end of a block that reads like a filter as well. -/
def endLine : List Char := "\x7b%- end|up -%\x7d".toList

/-- The keyword of that line. -/
def endCall : TagCall := { name := "end|up".toList, parameters := [], markup := [], range := .ofParts 4 6 }

/-- With a filter under the cursor that the catalog does not know, the later block is shown. -/
theorem tag_hover_shows_sharedEnd :
    TagCall.at? endLine 9 = some endCall ∧
      (FilterCall.at? endLine 9).map (·.name) = some "up".toList ∧
      ∃ hover, Hover.at? sharedEnd {} endLine 9 = some hover ∧
        IsTagPanel "end|up" hover.markdown ∧
        ShowsTag sharedEnd {} endCall (block "for" .iteration) hover := by
  have under : TagCall.at? endLine 9 = some endCall := by decide +kernel
  have shows := @tag_hover_shows sharedEnd {} endLine 9 endCall rfl rfl
    (fun _ _ _ _ member => absurd member List.not_mem_nil) under
  obtain ⟨hover, answer, heading⟩ := shows.1.mpr ⟨block "if" .conditional, by decide, .inr (by decide)⟩
  obtain ⟨entry, shown⟩ := shows.2 hover answer heading
  have found := documentsTag_iff.mpr shown.documents
  have later : (sharedEnd.tag? "end|up").or (sharedEnd.opener? "end|up") = some (block "for" .iteration) := by
    decide +kernel
  obtain rfl : block "for" .iteration = entry := Option.some.inj (later.symm.trans found)
  exact ⟨under, by decide +kernel, hover, answer, heading, shown⟩

end LiquidHover.Hover
