/-
**Lookups in a catalog.** A catalog is three tables. Names may repeat: a lookup finds the last entry
of its name, a listing shows all of them in table order.

* `Catalog.object?`, `Catalog.filter?`, `Catalog.tag?` — an entry by its name.
* `Catalog.opener?` — the block tag that a closing tag ends.
* `Catalog.step?`, `Catalog.resolve?` — walking a path of properties.
* `Catalog.filtersIn`, `Catalog.tagsIn` — the entries of a category.
-/
import LiquidHover.Catalog.Entry

namespace LiquidHover

/-- The documented objects, filters and tags. -/
structure Catalog where
  objects : List Catalog.Object
  filters : List Catalog.Filter
  tags : List Catalog.Tag
  deriving Repr

namespace Catalog

/-- The last entry that satisfies a test. -/
def findLast? {α : Type} (test : α → Bool) (entries : List α) : Option α :=
  entries.reverse.find? test

/-- The last object with a name. -/
def object? (catalog : Catalog) (name : String) : Option Object :=
  findLast? (·.name == name) catalog.objects

/-- The last filter with a name. -/
def filter? (catalog : Catalog) (name : String) : Option Filter :=
  findLast? (·.name == name) catalog.filters

/-- The last tag with a name. -/
def tag? (catalog : Catalog) (name : String) : Option Tag :=
  findLast? (·.name == name) catalog.tags

/-- The last tag whose block ends at the tag with the given name. -/
def opener? (catalog : Catalog) (name : String) : Option Tag :=
  findLast? (·.endTag? == some name) catalog.tags

/-- One step of a walk: the property in place with the given name, and without one the property of
the object that the type names. -/
def step? (catalog : Catalog) (property : Property) (name : String) : Option Property :=
  (findProperty? property.properties name).or
    ((catalog.object? property.linkedType).bind fun object => findProperty? object.properties name)

/-- The property at the end of a path of an object; none for the empty path. -/
def resolve? (catalog : Catalog) (object : Object) : List String → Option Property
  | [] => none
  | first :: rest =>
    (findProperty? object.properties first).bind fun property => rest.foldlM catalog.step? property

/-- The filters of a category, in table order. -/
def filtersIn (catalog : Catalog) (category : FilterCategory) : List Filter :=
  catalog.filters.filter (·.category = category)

/-- The tags of a category, in table order. -/
def tagsIn (catalog : Catalog) (category : TagCategory) : List Tag :=
  catalog.tags.filter (·.category = category)

end Catalog

end LiquidHover
