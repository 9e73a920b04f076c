/-
**The table of an object's properties.** The panel of a variable ends with the properties of its object, in the order of
their names and cut after a number of rows. The description in a row can be read back, whatever characters it holds.

* `IsSortedByName` — the stable order by name, byte by byte. There is exactly one: `isSortedByName_sortedProperties`,
  `IsSortedByName.unique`.
* `IsRowOf` — the cells of a row: `isRowOf_propertyRow`.
* `IsTableOf` — the rows of a table and the note below them.
* `referencePanel_ends_with_table` — the panel of a variable.
-/
import LiquidHover.Proofs.Hover.Deprecation
import LiquidHover.Proofs.Text.ByteOrder
import LiquidHover.Proofs.Text.Cells

namespace LiquidHover.Hover

open Catalog (Object Property)
open Template (Variable)
open Text (bytes cells cellsFrom escapeBars unescapeBars)

/-! ### The order of the rows -/

/-- Properties in the order of their names, byte by byte. Properties of one name are in the order that they had. -/
structure IsSortedByName (sorted properties : List Property) : Prop where
  perm : sorted.Perm properties
  ordered : sorted.Pairwise fun first second => bytes first.name ≤ bytes second.name
  stable : ∀ name, sorted.filter (·.name = name) = properties.filter (·.name = name)

theorem name_le_trans (first second third : Property) (left : decide (first.name ≤ second.name) = true)
    (right : decide (second.name ≤ third.name) = true) : decide (first.name ≤ third.name) = true :=
  decide_eq_true (le_trans (of_decide_eq_true left) (of_decide_eq_true right))

theorem name_le_total (first second : Property) :
    (decide (first.name ≤ second.name) || decide (second.name ≤ first.name)) = true := by
  simpa using le_total first.name second.name

/-- Properties of one name are not moved past each other. -/
theorem filter_sortedProperties (properties : List Property) (name : String) :
    (sortedProperties properties).filter (·.name = name) = properties.filter (·.name = name) := by
  have alike : (properties.filter (·.name = name)).Pairwise fun first second =>
      decide (first.name ≤ second.name) = true := by
    refine List.pairwise_of_forall_mem_list fun first member second member' => ?_
    have named := of_decide_eq_true (List.mem_filter.mp member).2
    have named' := of_decide_eq_true (List.mem_filter.mp member').2
    exact decide_eq_true (named.trans named'.symm).le
  have kept : (properties.filter (·.name = name)).Sublist (sortedProperties properties) :=
    List.sublist_mergeSort name_le_trans name_le_total alike List.filter_sublist
  have among : (properties.filter (·.name = name)).Sublist ((sortedProperties properties).filter (·.name = name)) := by
    have both := kept.filter (·.name = name)
    rwa [List.filter_filter, show (fun property : Property => decide (property.name = name) &&
      decide (property.name = name)) = fun property => decide (property.name = name) by simp] at both
  have count := ((List.mergeSort_perm properties fun a b => decide (a.name ≤ b.name)).filter
    (·.name = name)).length_eq
  exact (among.eq_of_length count.symm).symm

/-- **The rows are in the stable order by name.** -/
theorem isSortedByName_sortedProperties (properties : List Property) :
    IsSortedByName (sortedProperties properties) properties where
  perm := List.mergeSort_perm _ _
  ordered := (List.pairwise_mergeSort name_le_trans name_le_total properties).imp fun before =>
    Text.bytes_le_bytes_iff.mpr (of_decide_eq_true before)
  stable := filter_sortedProperties properties

/-- Rows that hold the same properties of each name hold the same properties. -/
theorem mem_of_filter_eq {first second : List Property}
    (alike : ∀ name, first.filter (·.name = name) = second.filter (·.name = name)) {property : Property}
    (member : property ∈ second) : property ∈ first := by
  have among : property ∈ second.filter (·.name = property.name) :=
    List.mem_filter.mpr ⟨member, decide_eq_true rfl⟩
  rw [← alike] at among
  exact (List.mem_filter.mp among).1

/-- The first name of a row in the order of names is the least. -/
theorem name_le_of_mem {first property : Property} {rest : List Property}
    (ordered : (first :: rest).Pairwise fun a b => bytes a.name ≤ bytes b.name)
    (member : property ∈ first :: rest) : first.name ≤ property.name := by
  rcases List.mem_cons.mp member with rfl | later
  · exact le_rfl
  · exact Text.bytes_le_bytes_iff.mp ((List.pairwise_cons.mp ordered).1 property later)

/-- Two rows in the order of their names are the same when they hold the same properties of each name in the same order,
by induction on the rows: either begins with the first of all properties of the least name. -/
theorem eq_of_filter_eq {first second : List Property}
    (ordered : first.Pairwise fun a b => bytes a.name ≤ bytes b.name)
    (ordered' : second.Pairwise fun a b => bytes a.name ≤ bytes b.name)
    (alike : ∀ name, first.filter (·.name = name) = second.filter (·.name = name)) : first = second := by
  induction first generalizing second with
  | nil =>
    refine (List.eq_nil_iff_forall_not_mem.mpr fun property member => ?_).symm
    cases mem_of_filter_eq alike member
  | cons a first ih =>
    have member : a ∈ second := mem_of_filter_eq (fun name => (alike name).symm) List.mem_cons_self
    cases second with
    | nil => cases member
    | cons b second =>
      have named : a.name = b.name := le_antisymm
        (name_le_of_mem ordered (mem_of_filter_eq alike List.mem_cons_self)) (name_le_of_mem ordered' member)
      have heads := alike b.name
      rw [List.filter_cons_of_pos (by simpa using named), List.filter_cons_of_pos (by simp)] at heads
      obtain ⟨rfl, rest⟩ := List.cons.inj heads
      congr 1
      refine ih (List.pairwise_cons.mp ordered).2 (List.pairwise_cons.mp ordered').2 fun name => ?_
      by_cases here : a.name = name
      · rw [← here, rest]
      · have others := alike name
        rwa [List.filter_cons_of_neg (by simpa using here), List.filter_cons_of_neg (by simpa using here)] at others

/-- **There is one stable order by name.** -/
theorem IsSortedByName.unique {first second properties : List Property} (sorted : IsSortedByName first properties)
    (sorted' : IsSortedByName second properties) : first = second :=
  eq_of_filter_eq sorted.ordered sorted'.ordered fun name => (sorted.stable name).trans (sorted'.stable name).symm

/-! ### The cells of a row -/

/-- The first cell of a row. -/
def nameCell (property : Property) : String :=
  code property.name ++ showIf property.deprecated.isSome (" " ++ warningMark)

/-- A row with three cells between its outer bars, each with a blank on either side. The description is read off the
third. -/
def IsRowOf (property : Property) (row : String) : Prop :=
  ∃ description, cells row.toList =
      [ [], ' ' :: (nameCell property).toList ++ [' '], ' ' :: (code property.typeName).toList ++ [' '],
        ' ' :: description ++ [' '], ['\n'] ] ∧
    unescapeBars description = property.description.toList

theorem toList_escapeCell (text : String) : (escapeCell text).toList = escapeBars text.toList :=
  String.toList_ofList

/-- The row of a property with its bars set apart. -/
theorem toList_propertyRow (property : Property) :
    (propertyRow property).toList =
      '|' :: (' ' :: (nameCell property).toList ++ ' ' :: '|' :: (' ' :: (code property.typeName).toList ++
        ' ' :: '|' :: (' ' :: escapeBars property.description.toList ++ [' ', '|', '\n']))) := by
  simp [propertyRow, nameCell, ← toList_escapeCell]

theorem bar_not_mem_code {text : String} (plain : '|' ∉ text.toList) : '|' ∉ (code text).toList := by
  simp [code, plain]

theorem bar_not_mem_nameCell {property : Property} (plain : '|' ∉ property.name.toList) :
    '|' ∉ (nameCell property).toList := by
  rw [nameCell, String.toList_append, List.mem_append, not_or]
  refine ⟨bar_not_mem_code plain, ?_⟩
  cases property.deprecated.isSome <;> decide

/-- **The cells of a row**, for every description. -/
theorem isRowOf_propertyRow {property : Property} (plainName : '|' ∉ property.name.toList)
    (plainType : '|' ∉ property.typeName.toList) : IsRowOf property (propertyRow property) := by
  have first : '|' ∉ ' ' :: (nameCell property).toList := by simp [bar_not_mem_nameCell plainName]
  have second : '|' ∉ ' ' :: (code property.typeName).toList := by simp [bar_not_mem_code plainType]
  have third : cellsFrom false (' ' :: escapeBars property.description.toList) =
      [' ' :: escapeBars property.description.toList] := by
    rw [Text.cellsFrom_cons (Or.inl (by decide)), Text.cellsFrom_escapeBars]
    rfl
  refine ⟨escapeBars property.description.toList, ?_, Text.unescapeBars_escapeBars _⟩
  rw [cells, toList_propertyRow, cellsFrom, if_pos ⟨rfl, rfl⟩,
    Text.cellsFrom_append (Text.cellsFrom_of_not_mem first _),
    Text.cellsFrom_append (Text.cellsFrom_of_not_mem second _), Text.cellsFrom_append third]
  rfl

/-! ### The table -/

/-- A table of properties. Without properties there is none; otherwise it has a row for each of the first properties in
the order of names, up to a limit, and a note when some are left out. -/
structure IsTableOf (limit : Nat) (properties : List Property) (table : String) : Prop where
  empty : properties = [] → table = ""
  rows : properties ≠ [] → ∀ sorted, IsSortedByName sorted properties →
    ∃ rows : List String, rows.length = min properties.length limit ∧
      rows = (sorted.take rows.length).map propertyRow ∧
      table = rule ++ "### Available Properties\n\n" ++ propertyHeader ++ String.join rows ++
        if limit < properties.length then
          "\n*Showing " ++ toString limit ++ " of " ++ toString properties.length ++ " properties*\n"
        else ""

theorem isTableOf_propertyTable (limit : Nat) (properties : List Property) :
    IsTableOf limit properties (propertyTable limit properties) where
  empty none := by
    rw [none]
    rfl
  rows some sorted inOrder := by
    obtain rfl := inOrder.unique (isSortedByName_sortedProperties properties)
    have shown : (!properties.isEmpty) = true := by simpa using some
    refine ⟨((sortedProperties properties).take limit).map propertyRow, ?_, ?_, ?_⟩
    · rw [List.length_map, List.length_take, inOrder.perm.length_eq, Nat.min_comm]
    · rw [List.length_map, List.length_take, ← List.take_eq_take_min]
    · rw [propertyTable, showIf, if_pos shown, propertyFooter, showIf]
      simp only [decide_eq_true_eq]

/-- **The panel of a variable ends with the table of its object's properties.** They stand in the one stable order by
name, and each row whose name and type hold no bar has three cells, of which the last gives the description. -/
theorem referencePanel_ends_with_table (settings : Settings) (mention : Variable) (object : Object)
    (property : Option Property) :
    (∃ table, referencePanel settings mention object property =
        referenceHead settings mention object property ++ table ∧
      IsTableOf settings.maxProperties object.properties table) ∧
    (∃ sorted, IsSortedByName sorted object.properties) ∧
    ∀ entry : Property, '|' ∉ entry.name.toList → '|' ∉ entry.typeName.toList →
      IsRowOf entry (propertyRow entry) :=
  ⟨⟨_, referencePanel_eq settings mention object property, isTableOf_propertyTable _ _⟩,
    ⟨_, isSortedByName_sortedProperties _⟩, fun _ => isRowOf_propertyRow⟩

/-- A property with a description that holds a bar behind a backslash, and one at its end. -/
def label : Property := { name := "label", typeName := "string", description := "a\\|b|", deprecated := some "Use tag" }

/-- A property of a name that another one has as well. -/
def boardNumber (description : String) : Property := { name := "board", typeName := "number", description }

/-- An object with these properties, which are not in the order of their names. -/
def shelf : Object where
  name := "shelf"
  typeName := "Shelf"
  description := "A shelf"
  properties := [label, boardNumber "From below", boardNumber "From above"]

/-- A use of that object. -/
def shelfMention : Variable := ⟨"shelf".toList, .ofParts 3 5⟩

theorem isSortedByName_shelf :
    IsSortedByName [boardNumber "From below", boardNumber "From above", label] shelf.properties where
  perm := List.perm_append_singleton label [boardNumber "From below", boardNumber "From above"]
  ordered := by
    simp only [Text.bytes_le_bytes_iff]
    decide
  stable name := by
    by_cases board : "board" = name
    · subst board
      rfl
    · simp [shelf, boardNumber, List.filter_cons, board]

/-- A table of two of three properties. -/
theorem referencePanel_ends_with_table_shelf :
    shelf.properties ≠ [] ∧
      IsSortedByName [boardNumber "From below", boardNumber "From above", label] shelf.properties ∧
      '|' ∉ label.name.toList ∧ '|' ∉ label.typeName.toList ∧ IsRowOf label (propertyRow label) ∧
      referencePanel { maxProperties := 2 } shelfMention shelf none =
        referenceHead { maxProperties := 2 } shelfMention shelf none ++
          ("---\n\n### Available Properties\n\n| Property | Type | Description |\n" ++
            "|----------|------|-------------|\n| `board` | `number` | From below |\n" ++
            "| `board` | `number` | From above |\n\n*Showing 2 of 3 properties*\n") := by
  obtain ⟨⟨table, panel, isTable⟩, -, isRow⟩ :=
    referencePanel_ends_with_table { maxProperties := 2 } shelfMention shelf none
  obtain ⟨rows, count, shown, table⟩ := isTable.rows nofun _ isSortedByName_shelf
  refine ⟨nofun, isSortedByName_shelf, by decide, by decide, isRow label (by decide) (by decide), ?_⟩
  have rows : rows = [propertyRow (boardNumber "From below"), propertyRow (boardNumber "From above")] := by
    rw [shown, count]
    rfl
  rw [panel, table, rows]
  decide +kernel

end LiquidHover.Hover
