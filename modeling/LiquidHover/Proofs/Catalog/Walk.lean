/-
**Walking through properties.** A path is followed one name after the other. From a property a name leads to the first
property in place that has it; without one it leads to the first property with that name of the last object that the
type names. Types may name each other in a circle, so a path can be of any length.

* `Step` — where a name leads from a property.
* `Walk` — where a row of names leads.
* `step?_eq_some_iff`, `foldlM_step?_eq_some_iff` — one step of the look-up, and a run of it.
* `followsPath_resolve?` — the look-up of a path is the walk along it.
-/
import Mathlib.Data.List.Induction
import LiquidHover.Proofs.Catalog.Lookup

namespace LiquidHover.Catalog

/-- Where a name leads from a property. -/
inductive Step (catalog : Catalog) (property : Property) (name : String) : Property → Prop where
  | inPlace {next : Property} (found : IsFirst (·.name = name) property.properties next) :
      Step catalog property name next
  | linked {linkedName : String} {object : Object} {next : Property}
      (absent : ∀ other ∈ property.properties, other.name ≠ name)
      (links : property.LinksTo linkedName)
      (documented : IsLast (·.name = linkedName) catalog.objects object)
      (found : IsFirst (·.name = name) object.properties next) :
      Step catalog property name next

/-- Where a row of names leads from a property. -/
inductive Walk (catalog : Catalog) : Property → List String → Property → Prop where
  | here (property : Property) : Walk catalog property [] property
  | further {property next last : Property} {name : String} {names : List String}
      (step : Step catalog property name next) (rest : Walk catalog next names last) :
      Walk catalog property (name :: names) last

variable {catalog : Catalog} {object : Object} {property next last : Property} {name : String}
  {names path : List String}

/-! ### One step -/

/-- **One step of the look-up.** -/
theorem step?_eq_some_iff : catalog.step? property name = some next ↔ Step catalog property name next := by
  rw [step?]
  cases inPlace : findProperty? property.properties name with
  | some found =>
    have first := findProperty?_eq_some_iff.mp inPlace
    rw [Option.some_or, Option.some.injEq]
    constructor
    · rintro rfl
      exact .inPlace first
    · rintro (first' | ⟨absent, -, -, -⟩)
      · rw [findProperty?_eq_some_iff.mpr first'] at inPlace
        exact (Option.some.inj inPlace).symm
      · rw [findProperty?_eq_none_iff.mpr absent] at inPlace
        cases inPlace
  | none =>
    have absent := findProperty?_eq_none_iff.mp inPlace
    rw [Option.none_or, Option.bind_eq_some_iff]
    constructor
    · rintro ⟨object, documented, found⟩
      exact .linked absent (Property.linkedType_eq_iff.mp rfl) (object?_eq_some_iff.mp documented)
        (findProperty?_eq_some_iff.mp found)
    · rintro (first | ⟨-, links, documented, found⟩)
      · rw [findProperty?_eq_some_iff.mpr first] at inPlace
        cases inPlace
      · rw [← Property.linkedType_eq_iff] at links
        subst links
        exact ⟨_, object?_eq_some_iff.mpr documented, findProperty?_eq_some_iff.mpr found⟩

/-- A name leads to a property of that name. -/
theorem Step.name_eq (step : Step catalog property name next) : next.name = name := by
  cases step with
  | inPlace found => exact found.prop
  | linked absent links documented found => exact found.prop

/-! ### A row of names -/

/-- **A run of the look-up**, by induction on the names. -/
theorem foldlM_step?_eq_some_iff :
    names.foldlM catalog.step? property = some last ↔ Walk catalog property names last := by
  induction names generalizing property with
  | nil =>
    constructor
    · rintro ⟨⟩
      exact .here _
    · rintro ⟨⟩
      rfl
  | cons name names ih =>
    rw [List.foldlM_cons, Option.bind_eq_bind, Option.bind_eq_some_iff]
    constructor
    · rintro ⟨next, step, rest⟩
      exact .further (step?_eq_some_iff.mp step) (ih.mp rest)
    · rintro ⟨⟩
      rename_i next step rest
      exact ⟨next, step?_eq_some_iff.mpr step, ih.mpr rest⟩

/-- **The look-up of a path** begins at the first property with its first name and walks along the others. -/
theorem resolve?_eq_some_iff :
    catalog.resolve? object path = some last ↔
      ∃ (first : String) (rest : List String) (root : Property), path = first :: rest ∧
        IsFirst (·.name = first) object.properties root ∧ Walk catalog root rest last := by
  cases path with
  | nil => simp [resolve?]
  | cons first rest =>
    rw [resolve?, Option.bind_eq_some_iff]
    constructor
    · rintro ⟨root, begins, walks⟩
      exact ⟨first, rest, root, rfl, findProperty?_eq_some_iff.mp begins, foldlM_step?_eq_some_iff.mp walks⟩
    · rintro ⟨_, _, root, same, begins, walks⟩
      cases same
      exact ⟨root, findProperty?_eq_some_iff.mpr begins, foldlM_step?_eq_some_iff.mpr walks⟩

/-- A walk along a path and then one more name takes one more step. -/
theorem walk_concat_iff :
    Walk catalog property (names ++ [name]) last ↔
      ∃ next, Walk catalog property names next ∧ Step catalog next name last := by
  constructor
  · intro walks
    induction names generalizing property with
    | nil =>
      obtain ⟨_⟩ | ⟨step, ⟨_⟩⟩ := walks
      exact ⟨property, .here property, step⟩
    | cons first names ih =>
      obtain ⟨_⟩ | ⟨step, rest⟩ := walks
      obtain ⟨next, walks, leads⟩ := ih rest
      exact ⟨next, .further step walks, leads⟩
  · rintro ⟨next, walks, leads⟩
    induction walks with
    | here property => exact .further leads (.here last)
    | further step rest ih => exact .further step (ih leads)

/-- A walk ends at a property with the last name. -/
theorem Walk.getLast?_cons (walks : Walk catalog property names last) :
    (property.name :: names).getLast? = some last.name := by
  induction walks with
  | here property => rfl
  | further step rest ih =>
    rw [List.getLast?_cons_cons, ← step.name_eq]
    exact ih

/-- One name more is one step more. -/
theorem resolve?_concat_eq_some_iff (nonempty : path ≠ []) :
    catalog.resolve? object (path ++ [name]) = some last ↔
      ∃ property, catalog.resolve? object path = some property ∧ Step catalog property name last := by
  obtain ⟨first, rest, rfl⟩ := List.exists_cons_of_ne_nil nonempty
  simp only [resolve?_eq_some_iff, List.cons_append, List.cons.injEq]
  constructor
  · rintro ⟨_, _, root, ⟨rfl, rfl⟩, begins, walks⟩
    obtain ⟨property, walks, leads⟩ := walk_concat_iff.mp walks
    exact ⟨property, ⟨first, rest, root, ⟨rfl, rfl⟩, begins, walks⟩, leads⟩
  · rintro ⟨property, ⟨_, _, root, ⟨rfl, rfl⟩, begins, walks⟩, leads⟩
    exact ⟨first, rest ++ [name], root, ⟨rfl, rfl⟩, begins, walk_concat_iff.mpr ⟨property, walks, leads⟩⟩

/-- No front of a path that leads somewhere leads nowhere. -/
theorem exists_resolve?_of_isPrefix {front : List String} (nonempty : front ≠ []) (within : front <+: path)
    (found : catalog.resolve? object path = some last) :
    ∃ earlier, catalog.resolve? object front = some earlier := by
  obtain ⟨back, rfl⟩ := within
  induction back using List.reverseRecOn generalizing last with
  | nil => exact ⟨last, by rwa [List.append_nil] at found⟩
  | append_singleton back name ih =>
    rw [← List.append_assoc, resolve?_concat_eq_some_iff (by simp [nonempty])] at found
    obtain ⟨property, found, -⟩ := found
    exact ih found

/-! ### Every path -/

/-- A path is followed name by name: the look-up begins at the first property of the object that has the first name,
and takes a step for every other name. Each further name is one step more, no front of a path that leads somewhere leads
nowhere, and the property at the end has the last name. -/
structure FollowsPath (catalog : Catalog) (object : Object) (path : List String) : Prop where
  walks : ∀ property, catalog.resolve? object path = some property ↔
    ∃ (first : String) (rest : List String) (root : Property), path = first :: rest ∧
      IsFirst (·.name = first) object.properties root ∧ Walk catalog root rest property
  further : path ≠ [] → ∀ name last, catalog.resolve? object (path ++ [name]) = some last ↔
    ∃ property, catalog.resolve? object path = some property ∧ Step catalog property name last
  fronts : ∀ property, catalog.resolve? object path = some property →
    ∀ front, front ≠ [] → front <+: path → ∃ earlier, catalog.resolve? object front = some earlier
  lastName : ∀ property, catalog.resolve? object path = some property →
    path.getLast? = some property.name

/-- **The look-up of a path is the walk along it**, for every catalog, every object and every path. -/
theorem followsPath_resolve? (catalog : Catalog) (object : Object) (path : List String) :
    FollowsPath catalog object path where
  walks _ := resolve?_eq_some_iff
  further nonempty _ _ := resolve?_concat_eq_some_iff nonempty
  fronts _ found _ nonempty within := exists_resolve?_of_isPrefix nonempty within found
  lastName property found := by
    obtain ⟨first, rest, root, rfl, begins, walks⟩ := resolve?_eq_some_iff.mp found
    obtain rfl : root.name = first := begins.prop
    exact walks.getLast?_cons

/-- An object with a property of its own type, and with a second property of the same name. -/
def ring : Object where
  name := "ring"
  typeName := "ring"
  description := ""
  properties := [.leaf "next" "array<ring>" "around", .leaf "next" "string" ""]

/-- A path around a circle of types can be of any length. -/
example : ((Catalog.mk [ring] [] []).resolve? ring ["next", "next", "next"]).map (·.description) = some "around" := by
  decide

end LiquidHover.Catalog
