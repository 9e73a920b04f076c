/-
**Catalogs without deprecations.** Two catalogs differ in nothing but deprecation when they are the same without it. No
look-up reads what is deprecated, so it is the same to look up first and to take the deprecations away first.

* `Property.undeprecated`, `Object.undeprecated`, `Filter.undeprecated`, `Tag.undeprecated`, `undeprecated` — an entry,
  or a catalog, with nothing in it deprecated, at any depth.
* `findLast?_map`, `findProperty?_undeprecated`, `object?_undeprecated` — the look-ups of one name.
* `step?_undeprecated`, `resolve?_undeprecated` — one step along a path, and a whole path.
-/
import LiquidHover.Catalog.Lookup

namespace LiquidHover.Catalog

/-! ### Entries -/

mutual

/-- A property with nothing in it deprecated. -/
def Property.undeprecated : Property → Property
  | ⟨name, typeName, description, _, properties⟩ =>
    ⟨name, typeName, description, none, undeprecatedAll properties⟩

/-- Properties with nothing in them deprecated. -/
def Property.undeprecatedAll : List Property → List Property
  | [] => []
  | property :: rest => property.undeprecated :: undeprecatedAll rest

end

theorem Property.undeprecatedAll_eq_map (properties : List Property) :
    undeprecatedAll properties = properties.map undeprecated := by
  induction properties with
  | nil => rfl
  | cons property rest ih => rw [undeprecatedAll, ih, List.map_cons]

section

variable (property : Property)

@[simp] theorem Property.undeprecated_name : property.undeprecated.name = property.name := by
  cases property; rfl

@[simp] theorem Property.undeprecated_typeName : property.undeprecated.typeName = property.typeName := by
  cases property; rfl

@[simp] theorem Property.undeprecated_description :
    property.undeprecated.description = property.description := by
  cases property; rfl

@[simp] theorem Property.undeprecated_properties :
    property.undeprecated.properties = property.properties.map undeprecated := by
  cases property
  exact undeprecatedAll_eq_map _

@[simp] theorem Property.undeprecated_linkedType : property.undeprecated.linkedType = property.linkedType := by
  rw [linkedType, undeprecated_typeName, linkedType]

end

/-- An object with nothing in it deprecated. -/
def Object.undeprecated (object : Object) : Object :=
  { object with deprecated := false, properties := object.properties.map Property.undeprecated }

/-- A filter that is not deprecated. -/
def Filter.undeprecated (entry : Filter) : Filter := { entry with deprecated := false }

/-- A tag that is not deprecated. -/
def Tag.undeprecated (entry : Tag) : Tag := { entry with deprecated := false }

/-- A catalog with nothing in it deprecated. -/
def undeprecated (catalog : Catalog) : Catalog where
  objects := catalog.objects.map Object.undeprecated
  filters := catalog.filters.map Filter.undeprecated
  tags := catalog.tags.map Tag.undeprecated

/-! ### Look-ups of a name -/

theorem findLast?_map {α β : Type} (test : β → Bool) (f : α → β) (entries : List α) :
    findLast? test (entries.map f) = (findLast? (test ∘ f) entries).map f := by
  rw [findLast?, ← List.map_reverse, List.find?_map, findLast?]

section

variable (catalog : Catalog) (name : String)

theorem findProperty?_undeprecated (properties : List Property) :
    findProperty? (properties.map Property.undeprecated) name =
      (findProperty? properties name).map Property.undeprecated := by
  rw [findProperty?, List.find?_map, findProperty?]
  congr 2
  funext property
  simp

theorem object?_undeprecated :
    catalog.undeprecated.object? name = (catalog.object? name).map Object.undeprecated :=
  findLast?_map _ _ _

theorem filter?_undeprecated :
    catalog.undeprecated.filter? name = (catalog.filter? name).map Filter.undeprecated :=
  findLast?_map _ _ _

theorem tag?_undeprecated :
    catalog.undeprecated.tag? name = (catalog.tag? name).map Tag.undeprecated :=
  findLast?_map _ _ _

theorem opener?_undeprecated :
    catalog.undeprecated.opener? name = (catalog.opener? name).map Tag.undeprecated :=
  findLast?_map _ _ _

end

/-! ### Paths -/

section

variable (catalog : Catalog)

/-- **One step along a path.** -/
theorem step?_undeprecated (property : Property) (name : String) :
    catalog.undeprecated.step? property.undeprecated name =
      (catalog.step? property name).map Property.undeprecated := by
  have linked : ((catalog.object? property.linkedType).map Object.undeprecated).bind
        (fun object => findProperty? object.properties name) =
      ((catalog.object? property.linkedType).bind fun object => findProperty? object.properties name).map
        Property.undeprecated := by
    cases catalog.object? property.linkedType with
    | none => rfl
    | some object => exact findProperty?_undeprecated name object.properties
  rw [step?, Property.undeprecated_properties, Property.undeprecated_linkedType, findProperty?_undeprecated,
    object?_undeprecated, linked, step?]
  cases findProperty? property.properties name <;> rfl

/-- The steps along a path, by induction on its names. -/
theorem foldlM_step?_undeprecated (names : List String) (property : Property) :
    names.foldlM catalog.undeprecated.step? property.undeprecated =
      (names.foldlM catalog.step? property).map Property.undeprecated := by
  induction names generalizing property with
  | nil => rfl
  | cons name names ih =>
    rw [List.foldlM_cons, List.foldlM_cons, step?_undeprecated]
    cases catalog.step? property name with
    | none => rfl
    | some next => exact ih next

/-- **A path** leads to the same property, but for what is deprecated. -/
theorem resolve?_undeprecated (object : Object) (path : List String) :
    catalog.undeprecated.resolve? object.undeprecated path =
      (catalog.resolve? object path).map Property.undeprecated := by
  cases path with
  | nil => rfl
  | cons first rest =>
    have begins : findProperty? object.undeprecated.properties first =
        (findProperty? object.properties first).map Property.undeprecated :=
      findProperty?_undeprecated first object.properties
    rw [resolve?, begins, resolve?]
    cases findProperty? object.properties first with
    | none => rfl
    | some property => exact foldlM_step?_undeprecated catalog rest property

end

end LiquidHover.Catalog
