/-
**Panels.** The markdown that a hover shows. A panel is a heading and a row of sections, of which the
settings can hide some; tables are set off by a rule.

* `filterPanel`, `tagPanel`, `referencePanel` — the panels of the three kinds of subjects.
* `propertyTable` — the properties of an object, sorted by name and cut after a number of rows.
* `Subject.markdown` — the panel of a subject.
-/
import LiquidHover.Hover.Subject

namespace LiquidHover.Hover

open Catalog (Filter Object Parameter Property Tag TagForm)

/-- A text that is shown under a condition. -/
def showIf (shown : Bool) (text : String) : String := if shown then text else ""

/-- The line that sets off a table. -/
def rule : String := "---\n\n"

/-- The mark of what should no longer be used. -/
def warningMark : String := "⚠️"

/-- A text as inline code. -/
def code (text : String) : String := "`" ++ text ++ "`"

/-- A paragraph of a label and a text. -/
def labelled (label text : String) : String := "**" ++ label ++ ":** " ++ text ++ "\n\n"

/-- A text in which no bar ends a table cell. -/
def escapeCell (text : String) : String :=
  String.ofList (text.toList.flatMap fun c => if c = '|' then ['\\', '|'] else [c])

/-! ### Sections -/

def descriptionSection (settings : Settings) (description : String) : String :=
  showIf (settings.showDescription && !description.isEmpty) ("*" ++ description ++ "*\n\n")

def usageSection : Option String → String
  | some usage => labelled "Syntax" (code usage)
  | none => ""

def deprecationSection (settings : Settings) (deprecated : Bool) (warning : String) : String :=
  showIf (settings.showDeprecatedWarnings && deprecated)
    (warningMark ++ " " ++ labelled "Deprecated" warning)

/-- The description of a parameter, with the values that it accepts. -/
def parameterDescription (parameter : Parameter) : String :=
  escapeCell parameter.description ++
    showIf (!parameter.values.isEmpty)
      (" (one of " ++ ", ".intercalate (parameter.values.map code) ++ ")")

/-- A row of a parameter table, with its last cell. -/
def parameterRow (last : Parameter → String) (parameter : Parameter) : String :=
  "| " ++ code parameter.name ++ " | " ++ code parameter.typeName ++ " | "
    ++ parameterDescription parameter ++ " | " ++ last parameter ++ " |\n"

/-- The table of parameters under a header. -/
def parameterTable (settings : Settings) (header : String) (last : Parameter → String)
    (parameters : List Parameter) : String :=
  showIf (settings.showFilterParameters && !parameters.isEmpty)
    (rule ++ "### Parameters\n\n" ++ header ++ String.join (parameters.map (parameterRow last)))

/-- The header of a table whose last cells are default values. -/
def defaultHeader : String :=
  "| Parameter | Type | Description | Default |\n|-----------|------|-------------|--------|\n"

/-- The default value of a parameter as a cell. -/
def defaultCell (parameter : Parameter) : String := (parameter.default?.map code).getD ""

/-- The header of a table whose last cells tell which parameters are required. -/
def requiredHeader : String :=
  "| Parameter | Type | Description | Required |\n|-----------|------|-------------|----------|\n"

/-- Whether a parameter is required, as a cell. -/
def requiredCell (parameter : Parameter) : String := showIf parameter.required "yes"

/-- The parameters that stand in the template, numbered from one. -/
def currentParameters (parameters : List (List Char)) : String :=
  showIf (!parameters.isEmpty)
    (rule ++ "### Current Parameters\n\n"
      ++ String.join ((parameters.zipIdx 1).map fun (parameter, number) =>
        toString number ++ ". " ++ code (String.ofList parameter) ++ "\n")
      ++ "\n")

def examplesSection (shown : Bool) (examples : List String) : String :=
  showIf (shown && !examples.isEmpty)
    (rule ++ "### Examples\n\n"
      ++ String.join (examples.map fun text => "```liquid\n" ++ text ++ "\n```\n\n"))

/-! ### Property tables -/

/-- The properties of an object in the order of their names; equal names keep their order. -/
def sortedProperties (properties : List Property) : List Property :=
  properties.mergeSort fun a b => decide (a.name ≤ b.name)

/-- A row of a property table. -/
def propertyRow (property : Property) : String :=
  "| " ++ code property.name ++ showIf property.deprecated.isSome (" " ++ warningMark) ++ " | "
    ++ code property.typeName ++ " | " ++ escapeCell property.description ++ " |\n"

/-- The header of a property table. -/
def propertyHeader : String :=
  "| Property | Type | Description |\n|----------|------|-------------|\n"

/-- The note under a table that does not show all properties. -/
def propertyFooter (limit count : Nat) : String :=
  showIf (limit < count)
    ("\n*Showing " ++ toString limit ++ " of " ++ toString count ++ " properties*\n")

/-- The table of the first `limit` properties. -/
def propertyTable (limit : Nat) (properties : List Property) : String :=
  showIf (!properties.isEmpty)
    (rule ++ "### Available Properties\n\n" ++ propertyHeader
      ++ String.join (((sortedProperties properties).take limit).map propertyRow)
      ++ propertyFooter limit properties.length)

/-! ### Panels -/

/-- The panel of a filter. -/
def filterPanel (settings : Settings) (call : Template.FilterCall) (entry : Filter) : String :=
  String.join
    [ "## " ++ code (String.ofList call.name) ++ " Filter\n\n",
      labelled "Category" entry.category.title,
      descriptionSection settings entry.description,
      showIf (settings.showTypes && !entry.returnType.isEmpty)
        (labelled "Returns" (code entry.returnType)),
      usageSection entry.usage,
      deprecationSection settings entry.deprecated
        "This filter is deprecated and should be avoided.",
      parameterTable settings defaultHeader defaultCell entry.parameters,
      currentParameters call.parameters,
      examplesSection settings.showFilterExamples entry.examples ]

/-- How the panel of a tag describes its form. -/
def formSection : TagForm → String
  | .block endTag => labelled "End tag" (code endTag)
  | .selfClosing => "*Self-closing tag*\n\n"
  | .intermediate => ""

/-- The panel of a tag. A closing tag is shown under the entry of the tag that it closes. -/
def tagPanel (settings : Settings) (call : Template.TagCall) (entry : Tag) : String :=
  let name := String.ofList call.name
  String.join
    [ "## " ++ code name ++ " Tag\n\n",
      labelled "Category" entry.category.title,
      showIf (name ≠ entry.name) (labelled "Closes" (code entry.name)),
      descriptionSection settings entry.description,
      usageSection entry.usage,
      formSection entry.form,
      deprecationSection settings entry.deprecated
        "This tag is deprecated and should be avoided.",
      parameterTable settings requiredHeader requiredCell entry.parameters,
      currentParameters call.parameters,
      examplesSection settings.showTagExamples entry.examples ]

/-- What is known about the property at the end of a path. -/
def propertySection (settings : Settings) (property : Property) : String :=
  labelled "Property Type" (code property.typeName)
    ++ showIf (!property.description.isEmpty) (labelled "Description" property.description)
    ++ match property.deprecated with
      | some note =>
        showIf settings.showDeprecatedWarnings
          (warningMark ++ " " ++ labelled "Property Deprecated" note)
      | none => ""

/-- The panel of a variable. -/
def referencePanel (settings : Settings) (mention : Template.Variable) (object : Object)
    (property : Option Property) : String :=
  String.join
    [ "## " ++ code (String.ofList mention.path) ++ "\n\n",
      showIf settings.showTypes (labelled "Type" (code object.typeName)),
      descriptionSection settings object.description,
      deprecationSection settings object.deprecated "This object is deprecated",
      (property.map (propertySection settings)).getD "",
      propertyTable settings.maxProperties object.properties ]

/-- The panel of a subject. -/
def Subject.markdown (settings : Settings) : Subject → String
  | .filter call entry => filterPanel settings call entry
  | .tag call entry => tagPanel settings call entry
  | .reference mention object property => referencePanel settings mention object property

end LiquidHover.Hover
