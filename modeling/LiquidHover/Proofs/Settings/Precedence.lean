/-
**Which source counts.** For each setting on its own, the last source that sets it gives its value, and no
other source is looked at. This holds as long as the sources agree on the setting's name.

* `fileSets?`, `winner?` — what a file gives to a setting under either name, and what the last source gives
  that gives anything.
* `UsesBoth` — the sources use both names of a setting.
* `given?_merged` — a merged layer gives to a setting what the last source gives, or fails.
* `load_of_first_names` — with files that know settings by their first names, loading fails exactly if the
  last value of some setting is unfit, and else gives the last value of each.
* `load_of_either_name` — a setting alone in its sources, under a name chosen in each of them: the last source
  counts, except that loading fails when both names are used (`load_fails_for_second_name`).
-/
import LiquidHover.Proofs.Settings.Sources
import LiquidHover.Proofs.Settings.Values

namespace LiquidHover.Settings

variable {disk : Disk} {root path : String} {fields : Option (List (String × Json))} {key : Key}
  {given : Given}

/-! ### The last source -/

/-- What the file for a path gives to a setting, under either of its names. -/
def fileSets? (disk : Disk) (path : String) (key : Key) : Option Given :=
  (fileGives? disk path key.name).or (key.camelName?.bind (fileGives? disk path))

/-- What the last source gives to a setting that gives anything: the editor, or else the highest file. -/
def winner? (disk : Disk) (root : String) (fields : Option (List (String × Json))) (key : Key) :
    Option Given :=
  (editorGives? fields key).or ((configPaths disk root).reverse.findSome? (fileSets? disk · key))

/-- A file uses the second name of a setting, while a file uses the first one or the editor sets it. -/
def UsesBoth (disk : Disk) (root : String) (fields : Option (List (String × Json))) (key : Key) : Prop :=
  ∃ second ∈ key.camelName?, (filesGive? disk root second).isSome ∧
    ((editorGives? fields key).isSome ∨ (filesGive? disk root key.name).isSome)

instance : Decidable (UsesBoth disk root fields key) :=
  inferInstanceAs (Decidable (∃ _ ∈ _, _))

theorem usesBoth_iff : UsesBoth disk root fields key ↔
    ((editorGives? fields key).or (filesGive? disk root key.name)).isSome ∧
      (key.camelName?.bind (filesGive? disk root)).isSome := by
  unfold UsesBoth
  rw [Option.isSome_or, Bool.or_eq_true, Option.isSome_bind, Option.any_eq_true]
  constructor
  · rintro ⟨second, camel, used, first⟩
    exact ⟨first, second, camel, used⟩
  · rintro ⟨first, second, camel, used⟩
    exact ⟨second, camel, used, first⟩

theorem UsesBoth.exists_second (both : UsesBoth disk root fields key) :
    ∃ second, key.camelName? = some second ∧
      ∃ path ∈ configPaths disk root, ∃ given, fileGives? disk path second = some given := by
  obtain ⟨second, camel, used, -⟩ := both
  obtain ⟨path, among, gives⟩ := List.findSome?_isSome_iff.mp used
  exact ⟨second, camel, path, List.mem_reverse.mp among, Option.isSome_iff_exists.mp gives⟩

theorem isNamed_of_fileSets? (sets : fileSets? disk path key = some given) :
    ∃ name, key.IsNamed name ∧ fileGives? disk path name = some given := by
  rcases Option.or_eq_some_iff.mp sets with first | ⟨-, other⟩
  · exact ⟨key.name, Or.inl rfl, first⟩
  · obtain ⟨second, camel, found⟩ := Option.bind_eq_some_iff.mp other
    exact ⟨second, Or.inr camel, found⟩

theorem source_of_winner? (wins : winner? disk root fields key = some given) :
    editorGives? fields key = some given ∨
      ∃ path ∈ configPaths disk root, ∃ name, key.IsNamed name ∧ fileGives? disk path name = some given := by
  rcases Option.or_eq_some_iff.mp wins with editor | ⟨-, file⟩
  · exact Or.inl editor
  · obtain ⟨path, among, sets⟩ := List.exists_of_findSome?_eq_some file
    exact Or.inr ⟨path, List.mem_reverse.mp among, isNamed_of_fileSets? sets⟩

/-- With one name in use, the last source is the last one that gives anything under this name. -/
theorem winner?_eq (agree : ¬ UsesBoth disk root fields key) :
    winner? disk root fields key =
      ((editorGives? fields key).or (filesGive? disk root key.name)).or
        (key.camelName?.bind (filesGive? disk root)) := by
  have files (name : String)
      (same : ∀ path ∈ (configPaths disk root).reverse, fileSets? disk path key = fileGives? disk path name) :
      (configPaths disk root).reverse.findSome? (fileSets? disk · key) = filesGive? disk root name := by
    rw [← List.head?_filterMap, List.filterMap_congr same, List.head?_filterMap]
    rfl
  unfold winner?
  cases other : key.camelName?.bind (filesGive? disk root) with
  | none =>
    -- No file uses the second name.
    rw [files key.name, Option.or_none]
    intro path among
    have unused : key.camelName?.bind (fileGives? disk path) = none := by
      cases camel : key.camelName? with
      | none => rfl
      | some second =>
        rw [camel] at other
        exact List.findSome?_eq_none_iff.mp other path among
    rw [fileSets?, unused, Option.or_none]
  | some value =>
    -- A file uses the second name, so the editor is silent and no file uses the first one.
    obtain ⟨second, camel, found⟩ := Option.bind_eq_some_iff.mp other
    have unused : ¬ ((editorGives? fields key).isSome ∨ (filesGive? disk root key.name).isSome) :=
      fun first => agree ⟨second, camel, by rw [found]; rfl, first⟩
    obtain ⟨noEditor, noFile⟩ := not_or.mp unused
    have noFile := Option.not_isSome_iff_eq_none.mp noFile
    rw [files second, Option.not_isSome_iff_eq_none.mp noEditor, noFile, found]
    · rfl
    · intro path among
      have absent : fileGives? disk path key.name = none := List.findSome?_eq_none_iff.mp noFile path among
      rw [fileSets?, absent, camel]
      rfl

/-! ### The merged layer -/

section Merged

variable (files : ∀ path ∈ configPaths disk root, AbsentOr PlainKeys disk path)
  (plain : ∀ given ∈ fields, PlainFields given)

include files plain

/-- **A merged layer gives to a setting what the last source gives**, or fails when both names are used. -/
theorem given?_merged (key : Key) :
    given? (merged disk root fields) key =
      if UsesBoth disk root fields key then .error .invalid else .ok (winner? disk root fields key) := by
  have first : (merged disk root fields).lookup key.name =
      (editorGives? fields key).or (filesGive? disk root key.name) := by
    rw [lookup_merged files plain, lookup_name_editorTop plain]
  have other : key.camelName?.bind ((merged disk root fields).lookup ·) =
      key.camelName?.bind (filesGive? disk root) := by
    cases camel : key.camelName? with
    | none => rfl
    | some second =>
      show (merged disk root fields).lookup second = filesGive? disk root second
      rw [lookup_merged files plain, lookup_camelName?_editorTop plain camel, Option.none_or]
  unfold given?
  rw [first, other]
  by_cases both : UsesBoth disk root fields key
  · obtain ⟨used, also⟩ := usesBoth_iff.mp both
    obtain ⟨first, eqFirst⟩ := Option.isSome_iff_exists.mp used
    obtain ⟨other, eqOther⟩ := Option.isSome_iff_exists.mp also
    rw [if_pos both, eqFirst, eqOther]
  · rw [if_neg both, winner?_eq both]
    rw [usesBoth_iff] at both
    generalize (editorGives? fields key).or (filesGive? disk root key.name) = first at both
    generalize key.camelName?.bind (filesGive? disk root) = other at both
    cases first with
    | none => cases other <;> rfl
    | some value =>
      cases other with
      | none => rfl
      | some value => exact absurd ⟨rfl, rfl⟩ both

/-- **Loading fails exactly if both names of some setting are used or its last value is unfit.** -/
theorem load_eq_error_iff :
    load disk root (fields.map .object) = .error .invalid ↔
      ∃ key, UsesBoth disk root fields key ∨
        ∃ given ∈ winner? disk root fields key, key.convert? given = none := by
  rw [load_eq files plain, ofLayer_eq_error_iff]
  refine exists_congr fun key => ?_
  have found := given?_merged files plain key
  by_cases both : UsesBoth disk root fields key
  · rw [if_pos both] at found
    exact iff_of_true (valueIn_of_both found) (Or.inl both)
  · rw [if_neg both] at found
    rw [valueIn_eq_error_iff found, or_iff_right both]

/-- **Otherwise each setting has its last value, or its default.** -/
theorem load_eq_ok (agree : ∀ key, ¬ UsesBoth disk root fields key)
    (convertible : ∀ key, ∀ given ∈ winner? disk root fields key, key.convert? given ≠ none) :
    ∃ settings, load disk root (fields.map .object) = .ok settings ∧ ∀ key,
      settings.get key =
        ((winner? disk root fields key).bind key.convert?).getD (({} : Settings).get key) := by
  refine ⟨ofValues fun key =>
    ((winner? disk root fields key).bind key.convert?).getD (({} : Settings).get key), ?_,
    get_ofValues _⟩
  rw [load_eq files plain, ofLayer_eq_ok_iff]
  intro key
  have found := given?_merged files plain key
  rw [if_neg (agree key)] at found
  rw [valueIn_eq_ok found (convertible key), get_ofValues]

end Merged

/-! ### Files with first names -/

/-- A table whose keys are first names of settings. -/
def FirstNames (table : Toml.Table) : Prop := ∀ entry ∈ table.entries, ∃ key : Key, entry.1 = key.name

instance : DecidablePred FirstNames := fun table =>
  inferInstanceAs (Decidable (∀ entry ∈ table.entries, _))

theorem not_usesBoth_of_firstNames
    (files : ∀ path ∈ configPaths disk root, AbsentOr FirstNames disk path) :
    ¬ UsesBoth disk root fields key := by
  intro both
  obtain ⟨second, camel, path, among, given, gives⟩ := both.exists_second
  obtain ⟨table, node, names, member, -⟩ := (files path among).exists_of_fileGives? gives
  obtain ⟨other, same⟩ := names _ member
  exact Key.name_ne_of_camelName? camel other same.symm

/-- **The last source of each setting counts, and only its last value has to be fit.** -/
theorem load_of_first_names
    (files : ∀ path ∈ configPaths disk root, AbsentOr FirstNames disk path)
    (plain : ∀ given ∈ fields, PlainFields given) :
    (load disk root (fields.map .object) = .error .invalid ↔
        ∃ key, ∃ given ∈ winner? disk root fields key, key.convert? given = none) ∧
      ((∀ key, ∀ given ∈ winner? disk root fields key, key.convert? given ≠ none) →
        ∃ settings, load disk root (fields.map .object) = .ok settings ∧ ∀ key,
          settings.get key =
            ((winner? disk root fields key).bind key.convert?).getD (({} : Settings).get key)) := by
  have agree (key : Key) : ¬ UsesBoth disk root fields key := not_usesBoth_of_firstNames files
  have plainKeys : ∀ path ∈ configPaths disk root, AbsentOr PlainKeys disk path := by
    intro path among
    refine (files path among).imp fun table names entry member => ?_
    obtain ⟨key, same⟩ := names entry member
    exact Key.pathRoot?_of_isNamed (Or.inl same)
  refine ⟨?_, load_eq_ok plainKeys plain agree⟩
  rw [load_eq_error_iff plainKeys plain]
  exact exists_congr fun key => or_iff_right (agree key)

/-- A disk with text files, one of which may be the user's configuration. -/
def diskOf (files : List (String × String)) : Disk where
  read path := ((files.lookup path).map fun text => .content (Text.encode text.toList)).getD .missing
  userConfig := some "/home/lqls.toml"
  workingDirectory := .ok "/"

/-- Three files, the lowest of which gives `show_types` a word that stands for no Boolean. -/
def layeredDisk : Disk := diskOf
  [ ("/home/lqls.toml", "show_types = \"maybe\"\nmax_properties_in_hover = 3"),
    ("/shop/.lqls.toml", "enabled = false"),
    ("/shop/lqls.toml", "enabled = \"on\"\nshow_types = true") ]

/-- Editor settings that turn types off and leave `enabled` to the files. -/
def sentSettings : List (String × Json) := [("showTypes", .string "off"), ("enabled", .null)]

/-- The word is not looked at, since the editor and a higher file set `show_types` too. -/
theorem load_of_first_names_layered :
    (∀ path ∈ configPaths layeredDisk "/shop", AbsentOr FirstNames layeredDisk path) ∧
      (∀ given ∈ some sentSettings, PlainFields given) ∧
      ∃ settings, load layeredDisk "/shop" (some (.object sentSettings)) = .ok settings ∧
        settings.showTypes = false ∧ settings.enabled = true ∧ settings.maxProperties = 3 := by
  have files : ∀ path ∈ configPaths layeredDisk "/shop", AbsentOr FirstNames layeredDisk path := by
    decide +kernel
  have plain : ∀ given ∈ some sentSettings, PlainFields given := by decide +kernel
  have fit : ∀ key, ∀ given ∈ winner? layeredDisk "/shop" (some sentSettings) key,
      key.convert? given ≠ none := by decide +kernel
  obtain ⟨settings, loaded, values⟩ := (load_of_first_names files plain).2 fit
  refine ⟨files, plain, settings, loaded, ?_, ?_, ?_⟩
  · exact (values .showTypes).trans (by decide +kernel)
  · exact (values .enabled).trans (by decide +kernel)
  · exact (values .maxProperties).trans (by decide +kernel)

/-! ### One setting under two names -/

/-- At most one entry, which gives to a setting, under one of its names, what stands for a value of it. -/
def SetsOnly (key : Key) (entries : Layer) : Prop :=
  entries.length ≤ 1 ∧ ∀ entry ∈ entries, key.IsNamed entry.1 ∧ key.convert? entry.2 ≠ none

instance (entries : Layer) : Decidable (SetsOnly key entries) := inferInstanceAs (Decidable (_ ∧ _))

section Only

variable
  (files : ∀ path ∈ configPaths disk root, AbsentOr (fun table => SetsOnly key (ofTable table)) disk path)
  (editor : ∀ sent ∈ fields, SetsOnly key (sent.map fun field => (field.1, ofJson field.2)))

include files in
theorem only_of_fileGives? (among : path ∈ configPaths disk root) {name : String}
    (gives : fileGives? disk path name = some given) : key.IsNamed name ∧ key.convert? given ≠ none := by
  obtain ⟨table, node, ⟨-, only⟩, member, rfl⟩ := (files path among).exists_of_fileGives? gives
  exact only (name, ofNode node) (List.mem_map_of_mem member)

include files editor in
/-- The last source of anything gives to the one setting something that is fit. -/
theorem only_of_winner? {other : Key} (wins : winner? disk root fields other = some given) :
    other = key ∧ key.convert? given ≠ none := by
  rcases source_of_winner? wins with gives | ⟨path, among, name, named, gives⟩
  · obtain ⟨sent, known, field, member, named, rfl⟩ := exists_of_editorGives? gives
    obtain ⟨own, fit⟩ := (editor sent known).2 _ (List.mem_map_of_mem member)
    exact ⟨named.unique own, fit⟩
  · obtain ⟨own, fit⟩ := only_of_fileGives? files among gives
    exact ⟨named.unique own, fit⟩

include files in
theorem only_of_usesBoth {other : Key} (both : UsesBoth disk root fields other) : other = key := by
  obtain ⟨second, camel, path, among, given, gives⟩ := both.exists_second
  exact Key.IsNamed.unique (Or.inr camel) (only_of_fileGives? files among gives).1

theorem plainKeys_of_setsOnly {table : Toml.Table} (only : SetsOnly key (ofTable table)) :
    PlainKeys table := by
  intro entry member
  exact Key.pathRoot?_of_isNamed (only.2 _ (List.mem_map_of_mem member)).1

theorem plainFields_of_setsOnly {sent : List (String × Json)}
    (only : SetsOnly key (sent.map fun field => (field.1, ofJson field.2)))
    (plain : ∀ field ∈ sent, isPlain field.2 = true) : PlainFields sent := by
  obtain ⟨short, only⟩ := only
  rw [List.length_map] at short
  refine ⟨fun field member => ⟨key, (only _ (List.mem_map_of_mem member)).1⟩, plain, ?_⟩
  cases sent with
  | nil => exact .nil
  | cons field rest =>
    obtain rfl : rest = [] := List.length_eq_zero_iff.mp (Nat.le_zero.mp (Nat.le_of_succ_le_succ short))
    exact List.pairwise_singleton _ _

include files editor in
/-- **A setting that is alone in its sources has the value of the last of them**, whichever name each of
them uses, except when both names are used: then loading fails. -/
theorem load_of_either_name (plain : ∀ sent ∈ fields, ∀ field ∈ sent, isPlain field.2 = true) :
    (load disk root (fields.map .object) = .error .invalid ↔ UsesBoth disk root fields key) ∧
      (¬ UsesBoth disk root fields key →
        ∃ settings, load disk root (fields.map .object) = .ok settings ∧
          settings.get key =
            ((winner? disk root fields key).bind key.convert?).getD (({} : Settings).get key) ∧
          ∀ other ≠ key, settings.get other = ({} : Settings).get other) := by
  have plainKeys : ∀ path ∈ configPaths disk root, AbsentOr PlainKeys disk path :=
    fun path among => (files path among).imp fun table => plainKeys_of_setsOnly
  have plainFields : ∀ sent ∈ fields, PlainFields sent :=
    fun sent known => plainFields_of_setsOnly (editor sent known) (plain sent known)
  have convertible (other : Key) (given : Given) (wins : winner? disk root fields other = some given) :
      other.convert? given ≠ none := by
    obtain ⟨rfl, fit⟩ := only_of_winner? files editor wins
    exact fit
  constructor
  · rw [load_eq_error_iff plainKeys plainFields]
    constructor
    · rintro ⟨other, both | ⟨given, wins, unfit⟩⟩
      · exact only_of_usesBoth files both ▸ both
      · exact absurd unfit (convertible other given wins)
    · exact fun both => ⟨key, Or.inl both⟩
  · intro agree
    have agree (other : Key) : ¬ UsesBoth disk root fields other :=
      fun both => agree (only_of_usesBoth files both ▸ both)
    obtain ⟨settings, loaded, values⟩ := load_eq_ok plainKeys plainFields agree convertible
    refine ⟨settings, loaded, values key, fun other different => ?_⟩
    have unset : winner? disk root fields other = none := by
      refine Option.eq_none_iff_forall_ne_some.mpr fun given wins => ?_
      exact different (only_of_winner? files editor wins).1
    rw [values other, unset]
    rfl

end Only

/-- Two files with a first name, and the second name in what the editor sends. -/
theorem load_of_either_name_sent :
    let disk := diskOf [("/shop/.lqls.toml", "show_types = true"), ("/shop/lqls.toml", "show_types = \"on\"")]
    let sent : List (String × Json) := [("showTypes", .int 0)]
    (∀ path ∈ configPaths disk "/shop",
        AbsentOr (fun table => SetsOnly .showTypes (ofTable table)) disk path) ∧
      SetsOnly .showTypes (sent.map fun field => (field.1, ofJson field.2)) ∧
      (∀ field ∈ sent, isPlain field.2 = true) ∧ ¬ UsesBoth disk "/shop" (some sent) .showTypes ∧
      ∃ settings, load disk "/shop" (some (.object sent)) = .ok settings ∧
        settings.showTypes = false := by
  intro disk sent
  have files : ∀ path ∈ configPaths disk "/shop",
      AbsentOr (fun table => SetsOnly .showTypes (ofTable table)) disk path := by decide +kernel
  have editor : ∀ given ∈ some sent,
      SetsOnly .showTypes (given.map fun field => (field.1, ofJson field.2)) := by decide +kernel
  have plain : ∀ given ∈ some sent, ∀ field ∈ given, isPlain field.2 = true := by decide +kernel
  have agree : ¬ UsesBoth disk "/shop" (some sent) .showTypes := by decide +kernel
  obtain ⟨settings, loaded, value, -⟩ := (load_of_either_name files editor plain).2 agree
  exact ⟨files, editor sent rfl, plain sent rfl, agree, settings, loaded,
    value.trans (by decide +kernel)⟩

/-- **The same name in a file and in what the editor sends makes loading fail**, when it is the second name:
what the editor sends is kept under the first one. -/
theorem load_fails_for_second_name :
    let disk := diskOf [("/shop/.lqls.toml", "showTypes = true")]
    let sent : List (String × Json) := [("showTypes", .bool false)]
    (∀ path ∈ configPaths disk "/shop",
        AbsentOr (fun table => SetsOnly .showTypes (ofTable table)) disk path) ∧
      SetsOnly .showTypes (sent.map fun field => (field.1, ofJson field.2)) ∧
      (∀ field ∈ sent, isPlain field.2 = true) ∧
      winner? disk "/shop" (some sent) .showTypes = some (.scalar (.boolean false)) ∧
      load disk "/shop" (some (.object sent)) = .error .invalid := by
  decide +kernel

end LiquidHover.Settings
