/-
**Keys of settings.** Each setting has a name with underscores, and all but two of them a second name
in camel case.
-/

namespace LiquidHover.Settings

/-- The settings. -/
inductive Key where
  | enabled
  | enableFilterHover
  | enableTagHover
  | showTypes
  | showDescription
  | showDeprecatedWarnings
  | showFilterParameters
  | showFilterExamples
  | showTagExamples
  | maxProperties
  | debug
  deriving DecidableEq, Repr

namespace Key

/-- Every key once. -/
def all : List Key :=
  [.enabled, .enableFilterHover, .enableTagHover, .showTypes, .showDescription,
    .showDeprecatedWarnings, .showFilterParameters, .showFilterExamples, .showTagExamples,
    .maxProperties, .debug]

/-- The name with underscores. -/
def name : Key → String
  | .enabled => "enabled"
  | .enableFilterHover => "enable_filter_hover"
  | .enableTagHover => "enable_tag_hover"
  | .showTypes => "show_types"
  | .showDescription => "show_description"
  | .showDeprecatedWarnings => "show_deprecated_warnings"
  | .showFilterParameters => "show_filter_parameters"
  | .showFilterExamples => "show_filter_examples"
  | .showTagExamples => "show_tag_examples"
  | .maxProperties => "max_properties_in_hover"
  | .debug => "debug"

/-- The second name of a key. -/
def camelName? : Key → Option String
  | .enabled => none
  | .enableFilterHover => some "enableFilterHover"
  | .enableTagHover => some "enableTagHover"
  | .showTypes => some "showTypes"
  | .showDescription => some "showDescription"
  | .showDeprecatedWarnings => some "showDeprecatedWarnings"
  | .showFilterParameters => some "showFilterParameters"
  | .showFilterExamples => some "showFilterExamples"
  | .showTagExamples => some "showTagExamples"
  | .maxProperties => some "maxPropertiesInHover"
  | .debug => none

theorem mem_all (key : Key) : key ∈ all := by
  cases key <;> decide

end Key

/-- A name with every capital replaced by an underscore and its small letter; `started` tells whether
characters precede. -/
def snakeFrom (started : Bool) : List Char → List Char
  | [] => []
  | c :: rest =>
    if c.isUpper then
      if started then '_' :: c.toLower :: snakeFrom true rest else c.toLower :: snakeFrom true rest
    else c :: snakeFrom true rest

/-- A name with underscores for a name in camel case. A capital at the start gets no underscore. -/
def snakeCase (name : String) : String := String.ofList (snakeFrom false name.toList)

end LiquidHover.Settings
