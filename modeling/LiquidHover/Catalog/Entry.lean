/-
**Entries of a catalog.** What is documented about the objects, filters and tags of the template
language. A property's type may name another object, also as the element of an array, and the
properties of that object are then reached through it.

* `Object`, `Property` — the data that templates read.
* `Filter`, `Tag`, `Parameter` — what templates apply.
* `Property.linkedType` — the object that a property's type names.
-/
import LiquidHover.Catalog.Category

namespace LiquidHover.Catalog

/-- A property of an object. -/
structure Property where
  name : String
  /-- A plain type, the name of an object, or `array<name>`. -/
  typeName : String
  description : String
  /-- A note on what to use instead, when the property should no longer be used. -/
  deprecated : Option String := none
  /-- Properties that are documented in place. -/
  properties : List Property := []
  deriving Repr, Inhabited

namespace Property

/-- A property that is not deprecated and has no properties in place. -/
def leaf (name typeName description : String) : Property := { name, typeName, description }

/-- The name between `array<` and `>`, when a type is written so. -/
def elementType? (typeName : List Char) : Option (List Char) :=
  match typeName with
  | 'a' :: 'r' :: 'r' :: 'a' :: 'y' :: '<' :: inner =>
    if inner.getLast? = some '>' then some inner.dropLast else none
  | _ => none

/-- The name of the object to which a property's type refers. -/
def linkedType (property : Property) : String :=
  match elementType? property.typeName.toList with
  | some inner => String.ofList inner
  | none => property.typeName

end Property

/-- The first property with a name. -/
def findProperty? (properties : List Property) (name : String) : Option Property :=
  properties.find? (·.name == name)

/-- A global object. -/
structure Object where
  name : String
  typeName : String
  description : String
  deprecated : Bool := false
  properties : List Property := []
  deriving Repr, Inhabited

/-- An argument of a filter or tag. -/
structure Parameter where
  name : String
  typeName : String
  description : String
  default? : Option String := none
  required : Bool := false
  /-- The accepted values, when there are only finitely many. -/
  values : List String := []
  deriving DecidableEq, Repr

/-- A filter. -/
structure Filter where
  name : String
  category : FilterCategory
  description : String
  /-- How the filter is written. -/
  usage : Option String := none
  returnType : String
  parameters : List Parameter := []
  examples : List String := []
  deprecated : Bool := false
  deriving DecidableEq, Repr

/-- How a tag is closed. -/
inductive TagForm where
  /-- The tag opens a block that ends at `endTag`. -/
  | block (endTag : String)
  /-- The tag stands alone. -/
  | selfClosing
  /-- The tag stands inside the block of another one. -/
  | intermediate
  deriving DecidableEq, Repr

/-- A tag. -/
structure Tag where
  name : String
  category : TagCategory
  description : String
  /-- How the tag is written. -/
  usage : Option String := none
  form : TagForm
  parameters : List Parameter := []
  examples : List String := []
  deprecated : Bool := false
  deriving DecidableEq, Repr

/-- The tag at which the block of a tag ends. -/
def Tag.endTag? (tag : Tag) : Option String :=
  match tag.form with
  | .block endTag => some endTag
  | .selfClosing | .intermediate => none

end LiquidHover.Catalog
