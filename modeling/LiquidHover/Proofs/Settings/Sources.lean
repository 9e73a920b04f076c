/-
**What the sources give.** A source of settings is a configuration file or what the editor sends. This module
says what each of them gives under a name, without layers, and that its layer gives just that.

* `fileAt?`, `fileGives?` — a configuration file, and what it gives under a name.
* `AbsentOr` — a file that is missing, or whose table has a property.
* `filesGive?` — what the last file gives under a name.
* `editorGives?` — what the editor gives to a setting, under either of its names.
* `PlainFields` — editor settings that name each setting at most once and hold no compound values.
* `merged`, `load_eq`, `lookup_merged` — the settings of a project come from one merged layer, in which the
  editor counts before the files and a later file before an earlier one.
-/
import LiquidHover.Proofs.Settings.Kept
import LiquidHover.Proofs.Settings.Layers
import LiquidHover.Proofs.Toml.Keys

namespace LiquidHover.Settings

/-! ### Configuration files -/

/-- The content of the file that is read for a path. -/
def fileAt? (disk : Disk) (path : String) : Option (List UInt8) :=
  (Files.content? disk path).or (Files.content? disk (secondPath path))

/-- The table of the file that is read for a path, if it is well-formed. -/
def tableAt? (disk : Disk) (path : String) : Option Toml.Table :=
  (fileAt? disk path).bind fun bytes => Toml.parse? (fileText bytes)

/-- What the file for a path gives under a name. -/
def fileGives? (disk : Disk) (path name : String) : Option Given :=
  (tableAt? disk path).bind fun table => (table.get? name).map ofNode

/-- There is no file for a path, or it is well-formed and its table has a property. -/
def AbsentOr (holds : Toml.Table → Prop) (disk : Disk) (path : String) : Prop :=
  ∀ bytes, fileAt? disk path = some bytes →
    ∃ table, Toml.parse? (fileText bytes) = some table ∧ holds table

instance (holds : Toml.Table → Prop) [DecidablePred holds] (disk : Disk) (path : String) :
    Decidable (AbsentOr holds disk path) :=
  inferInstanceAs (Decidable (∀ bytes ∈ fileAt? disk path,
    ∃ table ∈ Toml.parse? (fileText bytes), holds table))

/-- A table whose keys do not reach into values. -/
def PlainKeys (table : Toml.Table) : Prop := ∀ entry ∈ table.entries, pathRoot? entry.1 = none

/-- The layer of the file for a path; the empty one without a file. -/
def layerAt (disk : Disk) (path : String) : Layer := ((tableAt? disk path).map ofTable).getD []

variable {disk : Disk} {path : String}

theorem AbsentOr.imp {holds other : Toml.Table → Prop} (weaker : ∀ table, holds table → other table)
    (file : AbsentOr holds disk path) : AbsentOr other disk path := by
  intro bytes found
  obtain ⟨table, parsed, held⟩ := file bytes found
  exact ⟨table, parsed, weaker table held⟩

theorem AbsentOr.of_tableAt? {holds : Toml.Table → Prop} (file : AbsentOr holds disk path)
    {table : Toml.Table} (read : tableAt? disk path = some table) : holds table := by
  obtain ⟨bytes, found, parsed⟩ := Option.bind_eq_some_iff.mp read
  obtain ⟨table', parsed', held⟩ := file bytes found
  rw [parsed] at parsed'
  cases parsed'
  exact held

/-- What a file gives under a name is in its table. -/
theorem AbsentOr.exists_of_fileGives? {holds : Toml.Table → Prop} {name : String} {given : Given}
    (file : AbsentOr holds disk path) (gives : fileGives? disk path name = some given) :
    ∃ table node, holds table ∧ (name, node) ∈ table.entries ∧ ofNode node = given := by
  obtain ⟨table, read, found⟩ := Option.bind_eq_some_iff.mp gives
  obtain ⟨node, held, same⟩ := Option.map_eq_some_iff.mp found
  exact ⟨table, node, file.of_tableAt? read, Keyed.mem_of_lookup held, same⟩

/-- A file that is missing or well-formed is read. -/
theorem pathLayer_eq {holds : Toml.Table → Prop} (file : AbsentOr holds disk path) :
    pathLayer disk path = .ok (layerAt disk path) := by
  have source : (Files.content? disk path).or (Files.content? disk (secondPath path)) =
      fileAt? disk path := rfl
  unfold pathLayer
  rw [source]
  cases found : fileAt? disk path with
  | none => simp [layerAt, tableAt?, found]
  | some bytes =>
    obtain ⟨table, parsed, -⟩ := file bytes found
    simp [fileLayer, layerAt, tableAt?, found, parsed]

theorem lookup_layerAt (disk : Disk) (path name : String) :
    (layerAt disk path).lookup name = fileGives? disk path name := by
  unfold layerAt fileGives?
  cases tableAt? disk path with
  | none => rfl
  | some table => exact Keyed.lookup_map ofNode name table.entries

theorem flat_layerAt (file : AbsentOr PlainKeys disk path) : Flat (layerAt disk path) := by
  unfold layerAt
  cases read : tableAt? disk path with
  | none => exact flat_nil
  | some table =>
    obtain ⟨bytes, -, parsed⟩ := Option.bind_eq_some_iff.mp read
    constructor
    · show ((table.entries.map fun entry => (entry.1, ofNode entry.2)).map Prod.fst).Nodup
      rw [List.map_map]
      exact Toml.distinct_of_parse? parsed
    · intro entry member
      obtain ⟨source, among, rfl⟩ := List.mem_map.mp member
      exact file.of_tableAt? read source among

/-! ### The editor's settings -/

/-- A value that is not null. -/
def present? : Json → Option Json
  | .null => none
  | value => some value

/-- What the editor gives to a setting, under either of its names. A null gives nothing. -/
def editorGives? (fields : Option (List (String × Json))) (key : Key) : Option Given :=
  fields.bind fun fields => (fields.findSome? fun field =>
    if key.IsNamed field.1 then present? field.2 else none).map ofJson

/-- Whether a value is neither an array nor an object, nor a whole number beyond 64 bits with a sign. -/
def isPlain : Json → Bool
  | .null | .bool _ | .double _ | .string _ => true
  | .int value => Number.fitsSigned64 value
  | .array _ | .object _ => false

/-- Editor settings under names of settings, each setting named at most once, with plain values. -/
@[mk_iff]
structure PlainFields (fields : List (String × Json)) : Prop where
  named : ∀ field ∈ fields, ∃ key : Key, key.IsNamed field.1
  plain : ∀ field ∈ fields, isPlain field.2 = true
  single : fields.Pairwise fun first second => ∀ key : Key, key.IsNamed first.1 → ¬ key.IsNamed second.1

instance (fields : List (String × Json)) : Decidable (PlainFields fields) :=
  decidable_of_iff _ (plainFields_iff fields).symm

section Fields

variable {fields : List (String × Json)} {name : String} {value : Json}

theorem present?_of_ne (present : value ≠ .null) : present? value = some value := by
  cases value with
  | null => exact absurd rfl present
  | bool | int | double | string | array | object => rfl

theorem eq_of_present? {kept : Json} (present : present? value = some kept) : value = kept := by
  cases value <;> cases present <;> rfl

/-- What the editor gives to a setting is the value of a field with one of its names. -/
theorem exists_of_editorGives? {sent : Option (List (String × Json))} {key : Key} {given : Given}
    (gives : editorGives? sent key = some given) :
    ∃ fields ∈ sent, ∃ field ∈ fields, key.IsNamed field.1 ∧ ofJson field.2 = given := by
  obtain ⟨fields, known, found⟩ := Option.bind_eq_some_iff.mp gives
  obtain ⟨value, held, same⟩ := Option.map_eq_some_iff.mp found
  obtain ⟨field, member, fits⟩ := List.exists_of_findSome?_eq_some held
  obtain ⟨named, present⟩ := Option.ite_none_right_eq_some.mp fits
  exact ⟨fields, known, field, member, named, by rw [eq_of_present? present, same]⟩

/-- **What is kept under the name of a setting** is the value of the one field that names it. -/
theorem lookup_normalize (plain : PlainFields fields) (key : Key) :
    (normalize fields).lookup key.name =
      fields.findSome? fun field => if key.IsNamed field.1 then present? field.2 else none := by
  obtain ⟨named, -, single⟩ := plain
  induction fields using List.reverseRecOn with
  | nil => rfl
  | append_singleton fields last ih =>
    obtain ⟨name, value⟩ := last
    obtain ⟨single, -, apart⟩ := List.pairwise_append.mp single
    have before := ih (fun field among => named field (List.mem_append_left _ among)) single
    rw [List.findSome?_append, ← before, List.findSome?_singleton]
    by_cases null : value = .null
    · rw [null, normalize_append_null]
      simp [present?]
    · rw [normalize_append fields name null, Keyed.lookup_insert]
      by_cases here : key.IsNamed name
      · -- No earlier field names the setting.
        have absent : (normalize fields).lookup key.name = none := by
          rw [before, List.findSome?_eq_none_iff]
          intro field among
          exact if_neg fun also => apart field among _ List.mem_cons_self key also here
        rw [absent, if_pos (Key.snakeCase_of_isNamed here).symm, if_pos here, present?_of_ne null]
        rfl
      · obtain ⟨other, namedOther⟩ := named (name, value) (List.mem_append_right _ List.mem_cons_self)
        have different : key.name ≠ snakeCase name := by
          rw [Key.snakeCase_of_isNamed namedOther]
          exact fun same => here (Key.name_injective same ▸ namedOther)
        rw [if_neg different, if_neg here, Option.or_none]

/-- The name of what is kept is the first name of a setting. -/
theorem PlainFields.named_of_mem_normalize (plain : PlainFields fields) {entry : String × Json}
    (member : entry ∈ normalize fields) : ∃ key : Key, entry.1 = key.name := by
  obtain ⟨-, name, among, same⟩ := exists_of_mem_normalize member
  obtain ⟨key, named⟩ := plain.named (name, entry.2) among
  exact ⟨key, same.trans (Key.snakeCase_of_isNamed named)⟩

/-- A plain value that is not null can be carried. -/
theorem isCarried_of_isPlain (plain : isPlain value = true) (present : value ≠ .null) :
    IsCarried value := by
  cases value with
  | null => exact absurd rfl present
  | int number =>
    simp only [isPlain, Number.fitsSigned64, Bool.and_eq_true, decide_eq_true_eq] at plain
    exact ⟨rfl, decide_eq_true plain.2, Nat.zero_le _, fun headed => by cases headed⟩
  | bool | double | string => exact ⟨rfl, rfl, Nat.zero_le _, fun headed => by cases headed⟩
  | array | object => cases plain

/-- **Plain editor settings can be read.** -/
theorem editorLayer_eq (plain : PlainFields fields) :
    editorLayer (.object fields) = .ok (ofOverrides fields) := by
  refine editorLayer_eq_ok fun entry member => ?_
  obtain ⟨present, name, among, -⟩ := exists_of_mem_normalize member
  exact isCarried_of_isPlain (plain.plain (name, entry.2) among) present

theorem lookup_ofOverrides (fields : List (String × Json)) (name : String) :
    (ofOverrides fields).lookup name = ((normalize fields).lookup name).map ofJson :=
  Keyed.lookup_map ofJson name (normalize fields)

theorem flat_ofOverrides (plain : PlainFields fields) : Flat (ofOverrides fields) := by
  constructor
  · show (((normalize fields).map fun entry => (entry.1, ofJson entry.2)).map Prod.fst).Nodup
    rw [List.map_map]
    exact Keyed.nodup_of_sorted (sorted_normalize fields)
  · intro entry member
    obtain ⟨source, among, rfl⟩ := List.mem_map.mp member
    obtain ⟨key, named⟩ := plain.named_of_mem_normalize among
    exact Key.pathRoot?_of_isNamed (Or.inl named)

end Fields

/-! ### All sources -/

/-- The layer of the editor's settings; the empty one without any. -/
def editorTop (fields : Option (List (String × Json))) : Layer := (fields.map ofOverrides).getD []

/-- All layers of a project, laid over each other. -/
def merged (disk : Disk) (root : String) (fields : Option (List (String × Json))) : Layer :=
  ((configPaths disk root).map (layerAt disk) ++ [editorTop fields]).foldl merge []

/-- What the last file gives under a name that gives anything. -/
def filesGive? (disk : Disk) (root name : String) : Option Given :=
  (configPaths disk root).reverse.findSome? (fileGives? disk · name)

section Merged

variable {root : String} {fields : Option (List (String × Json))}

theorem lookup_name_editorTop (plain : ∀ given ∈ fields, PlainFields given) (key : Key) :
    (editorTop fields).lookup key.name = editorGives? fields key := by
  cases fields with
  | none => rfl
  | some given =>
    show (ofOverrides given).lookup key.name = _
    rw [lookup_ofOverrides, lookup_normalize (plain given rfl)]
    rfl

/-- The editor gives nothing under a second name. -/
theorem lookup_camelName?_editorTop (plain : ∀ given ∈ fields, PlainFields given) {key : Key}
    {second : String} (camel : key.camelName? = some second) :
    (editorTop fields).lookup second = none := by
  cases fields with
  | none => rfl
  | some given =>
    show (ofOverrides given).lookup second = none
    rw [lookup_ofOverrides, Option.map_eq_none_iff, Keyed.lookup_eq_none_iff]
    intro used
    obtain ⟨entry, member, rfl⟩ := List.mem_map.mp used
    obtain ⟨other, named⟩ := (plain given rfl).named_of_mem_normalize member
    exact Key.name_ne_of_camelName? camel other named.symm

/-- **The settings of a project come from one merged layer**, when its files are well-formed and the
editor's settings are plain. -/
theorem load_eq {holds : Toml.Table → Prop}
    (files : ∀ path ∈ configPaths disk root, AbsentOr holds disk path)
    (plain : ∀ given ∈ fields, PlainFields given) :
    load disk root (fields.map .object) = ofLayer (merged disk root fields) := by
  have below : (configPaths disk root).mapM (pathLayer disk) =
      .ok ((configPaths disk root).map (layerAt disk)) := by
    generalize configPaths disk root = paths at files
    induction paths with
    | nil => rfl
    | cons path paths ih =>
      obtain ⟨first, others⟩ := List.forall_mem_cons.mp files
      rw [List.mapM_cons, pathLayer_eq first, ih others]
      rfl
  cases fields with
  | none =>
    unfold load
    rw [below]
    rfl
  | some given =>
    unfold load
    rw [below]
    show (editorLayer (.object given)).bind _ = _
    rw [editorLayer_eq (plain given rfl)]
    rfl

/-- **The editor counts before the files, and a later file before an earlier one.** -/
theorem lookup_merged (files : ∀ path ∈ configPaths disk root, AbsentOr PlainKeys disk path)
    (plain : ∀ given ∈ fields, PlainFields given) (name : String) :
    (merged disk root fields).lookup name =
      ((editorTop fields).lookup name).or (filesGive? disk root name) := by
  have flat : ∀ layer ∈ (configPaths disk root).map (layerAt disk) ++ [editorTop fields],
      Flat layer := by
    intro layer member
    rcases List.mem_append.mp member with below | top
    · obtain ⟨path, among, rfl⟩ := List.mem_map.mp below
      exact flat_layerAt (files path among)
    · rw [List.mem_singleton.mp top]
      cases fields with
      | none => exact flat_nil
      | some given => exact flat_ofOverrides (plain given rfl)
  have each : (fun path => (layerAt disk path).lookup name) = (fileGives? disk · name) :=
    funext fun path => lookup_layerAt disk path name
  unfold merged filesGive?
  rw [lookup_foldl_merge [] flat, List.reverse_append, List.reverse_singleton, List.singleton_append,
    List.findSome?_cons, ← List.map_reverse, List.findSome?_map, Function.comp_def, each]
  cases (editorTop fields).lookup name <;> simp

end Merged

end LiquidHover.Settings
