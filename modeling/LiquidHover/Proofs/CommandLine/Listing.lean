/-
**Listings by category.** A listing shows the entries of a table, one category after the other. Because every category
stands once in the list of categories, each entry is shown as often as it stands in the table; because the titles
differ in more than capital and small letters, the name of a category chooses the entries of one category.

* `grouped`, `Groups` — a table by a key: a permutation of the table (`grouped_perm`) with one block for each key
  (`groups_grouped`).
* `SameUpToCase`, `sameLetters_iff` — two texts that are equal up to capital and small ASCII letters.
* `selectCategories_of_same`, `selectCategories_of_unknown` — what a name chooses. `title_isInfix_message`: the error
  for a name names every title.
* `ListsByCategory`, `listsByCategory_linesOf` — what a listing shows of any table.
* `run?_list` — what the program prints of a listing.
* `lists_by_category` — the listings of the filters and the tags of every catalog.
-/
import LiquidHover.CommandLine.Commands
import LiquidHover.Proofs.Text.Strip
import Mathlib.Data.List.Forall2

namespace LiquidHover.CommandLine

/-! ### Tables grouped by a key -/

section Groups

variable {α κ : Type} [DecidableEq κ] {keys : List κ} {key : α → κ} {table : List α}

/-- The entries of a table, for one key after the other. -/
def grouped (keys : List κ) (key : α → κ) (table : List α) : List α :=
  keys.flatMap fun k => table.filter (key · = k)

/-- A listing groups a table by a key: it holds every entry as often as the table, and the entries of one key follow
each other in the order of the table. -/
structure Groups (key : α → κ) (table listing : List α) : Prop where
  perm : listing.Perm table
  block : ∀ k, ∃ before behind, listing = before ++ table.filter (key · = k) ++ behind ∧
    ∀ entry ∈ before ++ behind, key entry ≠ k

/-- Only entries of the keys are listed. -/
theorem key_mem_of_mem_grouped {entry : α} (member : entry ∈ grouped keys key table) : key entry ∈ keys := by
  obtain ⟨k, inside, found⟩ := List.mem_flatMap.mp member
  have same : key entry = k := by simpa using (List.mem_filter.mp found).2
  exact same ▸ inside

/-- An entry is listed under its own key only. -/
theorem grouped_cons_of_not_mem {entry : α} (absent : key entry ∉ keys) :
    grouped keys key (entry :: table) = grouped keys key table := by
  refine List.flatMap_congr fun k member => ?_
  have other : key entry ≠ k := fun same => absent (same ▸ member)
  exact List.filter_cons_of_neg (by simpa using other)

theorem grouped_append_cons (before behind : List κ) (k : κ) :
    grouped (before ++ k :: behind) key table =
      grouped before key table ++ (table.filter (key · = k) ++ grouped behind key table) := by
  rw [grouped, List.flatMap_append, List.flatMap_cons]
  rfl

omit [DecidableEq κ] in
/-- A key that stands once among the keys. -/
theorem exists_split_of_mem (distinct : keys.Nodup) {k : κ} (member : k ∈ keys) :
    ∃ before behind, keys = before ++ k :: behind ∧ k ∉ before ∧ k ∉ behind := by
  obtain ⟨before, behind, rfl⟩ := List.append_of_mem member
  have once := (List.nodup_cons.mp (List.perm_middle.nodup_iff.mp distinct)).1
  exact ⟨before, behind, rfl, fun early => once (List.mem_append_left _ early),
    fun late => once (List.mem_append_right _ late)⟩

/-- **A listing by key loses and repeats nothing.** -/
theorem grouped_perm (distinct : keys.Nodup) (covered : ∀ entry ∈ table, key entry ∈ keys) :
    (grouped keys key table).Perm table := by
  induction table with
  | nil => simp [grouped]
  | cons entry table ih =>
    have rest := ih fun other member => covered other (List.mem_cons_of_mem _ member)
    obtain ⟨before, behind, rfl, early, late⟩ := exists_split_of_mem distinct (covered entry List.mem_cons_self)
    have block : (entry :: table).filter (key · = key entry) = entry :: table.filter (key · = key entry) :=
      List.filter_cons_of_pos (by simp)
    rw [grouped_append_cons] at rest ⊢
    rw [grouped_cons_of_not_mem early, grouped_cons_of_not_mem late, block, List.cons_append]
    exact List.perm_middle.trans (rest.cons entry)

/-- **A listing by key has one block for each key**, in table order. -/
theorem groups_grouped (distinct : keys.Nodup) (complete : ∀ k, k ∈ keys) (key : α → κ) (table : List α) :
    Groups key table (grouped keys key table) := by
  refine ⟨grouped_perm distinct fun entry _ => complete (key entry), fun k => ?_⟩
  obtain ⟨before, behind, rfl, early, late⟩ := exists_split_of_mem distinct (complete k)
  refine ⟨grouped before key table, grouped behind key table, ?_, fun entry member same => ?_⟩
  · rw [grouped_append_cons, List.append_assoc]
  · rcases List.mem_append.mp member with inside | inside
    · exact early (same ▸ key_mem_of_mem_grouped inside)
    · exact late (same ▸ key_mem_of_mem_grouped inside)

end Groups

/-! ### Names of categories -/

/-- The same character, or the capital and the small form of one ASCII letter. -/
def SameLetter (a b : Char) : Prop :=
  a = b ∨ a.isUpper = true ∧ b.toNat = a.toNat + 32 ∨ b.isUpper = true ∧ a.toNat = b.toNat + 32

/-- Two texts that are equal up to capital and small ASCII letters. -/
def SameUpToCase (a b : String) : Prop := List.Forall₂ SameLetter a.toList b.toList

theorem isUpper_iff (c : Char) : c.isUpper = true ↔ 65 ≤ c.toNat ∧ c.toNat ≤ 90 := decide_eq_true_iff

theorem toNat_toLower (c : Char) : c.toLower.toNat = if c.isUpper = true then c.toNat + 32 else c.toNat := by
  by_cases upper : c.isUpper = true
  · have bounds := (isUpper_iff c).mp upper
    have lower : c.toLower.toNat = (c.val + 32).toNat := congrArg Char.toNat (dif_pos bounds)
    have small : c.val.toNat ≤ 90 := bounds.2
    rw [if_pos upper, lower, UInt32.toNat_add]
    exact Nat.mod_eq_of_lt (by simp; omega)
  · rw [if_neg upper]
    exact congrArg Char.toNat (dif_neg fun bounds => upper ((isUpper_iff c).mpr bounds))

/-- The small forms of two characters are equal exactly if one is the capital form of the other. -/
theorem toLower_eq_iff (a b : Char) : a.toLower = b.toLower ↔ SameLetter a b := by
  unfold SameLetter
  have sameNumber (c d : Char) : c = d ↔ c.toNat = d.toNat := Char.toNat_inj.symm
  rw [sameNumber, sameNumber, toNat_toLower, toNat_toLower]
  simp only [isUpper_iff]
  split <;> split <;> omega

theorem sameLetters_iff {a b : String} : sameLetters a b = true ↔ SameUpToCase a b := by
  unfold sameLetters SameUpToCase
  rw [beq_iff_eq, ← List.forall₂_eq_eq_eq, List.forall₂_map_left_iff, List.forall₂_map_right_iff]
  simp only [toLower_eq_iff]

instance (a b : String) : Decidable (SameUpToCase a b) := decidable_of_iff _ sameLetters_iff

/-- Two texts that are a third one up to capital and small letters. -/
theorem SameUpToCase.join {a b c : String} (first : SameUpToCase a c) (second : SameUpToCase b c) :
    SameUpToCase a b := by
  have left : a.toList.map Char.toLower = c.toList.map Char.toLower := eq_of_beq (sameLetters_iff.mpr first)
  have right : b.toList.map Char.toLower = c.toList.map Char.toLower := eq_of_beq (sameLetters_iff.mpr second)
  exact sameLetters_iff.mp (beq_iff_eq.mpr (left.trans right.symm))

/-! ### Chosen categories -/

section Chosen

variable {κ : Type} {keys : List κ} {title : κ → String} {wanted : String}

/-- No two keys have titles that are equal up to capital and small letters. -/
def DistinctTitles (title : κ → String) : Prop := ∀ a b, SameUpToCase (title a) (title b) → a = b

/-- Titles are distinct if this holds among all keys that are listed. -/
theorem distinctTitles_of_apart (complete : ∀ k, k ∈ keys)
    (apart : ∀ a ∈ keys, ∀ b ∈ keys, sameLetters (title a) (title b) = true → a = b) : DistinctTitles title :=
  fun a b same => apart a (complete a) b (complete b) (sameLetters_iff.mpr same)

/-- **A name chooses one key**, the one with this title. -/
theorem selectCategories_of_same (complete : ∀ k, k ∈ keys) (distinct : DistinctTitles title) {k : κ}
    (same : SameUpToCase (title k) wanted) : selectCategories keys title (some wanted) = .ok [k] := by
  cases found : keys.find? fun k => sameLetters (title k) wanted with
  | none =>
    have other := List.find?_eq_none.mp found k (complete k)
    exact absurd (sameLetters_iff.mpr same) other
  | some chosen =>
    have also : sameLetters (title chosen) wanted = true := by simpa using List.find?_some found
    obtain rfl := distinct chosen k ((sameLetters_iff.mp also).join same)
    simp only [selectCategories, found]

example : selectCategories Catalog.TagCategory.all (·.title) (some "hTmL") = .ok [.html] := by decide

/-- A name that is no title chooses nothing. -/
theorem selectCategories_of_unknown (unknown : ∀ k, ¬ SameUpToCase (title k) wanted) :
    selectCategories keys title (some wanted) = .error (.unknownCategory wanted (keys.map title)) := by
  have missed : (keys.find? fun k => sameLetters (title k) wanted) = none :=
    List.find?_eq_none.mpr fun k _ same => unknown k (sameLetters_iff.mp same)
  simp only [selectCategories, missed]

theorem mem_intersperse {α : Type} {part separator : α} {parts : List α} (member : part ∈ parts) :
    part ∈ parts.intersperse separator := by
  obtain ⟨place, found⟩ := List.mem_iff_getElem?.mp member
  exact List.mem_of_getElem? (List.getElem?_intersperse_two_mul.trans found)

/-- **The error for a name names every title.** -/
theorem title_isInfix_message {titles : List String} {known : String} (member : known ∈ titles) :
    known.toList <:+: (Failure.unknownCategory wanted titles).message.toList := by
  unfold Failure.message
  rw [String.toList_append, String.toList_intercalate]
  have named : known.toList <:+: (", ".toList).intercalate (titles.map String.toList) :=
    List.infix_of_mem_flatten (mem_intersperse (List.mem_map_of_mem member))
  exact named.trans (List.suffix_append _ _).isInfix

end Chosen

/-! ### Listings -/

section Lines

variable {α κ : Type} [DecidableEq κ] {keys : List κ} {title : κ → String} {key : α → κ} {name : α → String}
variable {table : List α} {wanted : String}

/-- The lines of a table by key, for all keys or for one that is named. -/
def linesOf (keys : List κ) (title : κ → String) (key : α → κ) (name : α → String) (table : List α)
    (category : Option String) : Except Failure (List String) := do
  let chosen ← selectCategories keys title category
  return chosen.flatMap fun k => (table.filter (key · = k)).map fun entry => listLine (name entry) (title k)

/-- The line of an entry: its name and the title of its key. -/
def entryLine (title : κ → String) (key : α → κ) (name : α → String) (entry : α) : String :=
  listLine (name entry) (title (key entry))

/-- The lines are those of the entries with the chosen keys. -/
theorem linesOf_of_selected {category : Option String} {chosen : List κ}
    (selected : selectCategories keys title category = .ok chosen) :
    linesOf keys title key name table category =
      .ok ((grouped chosen key table).map (entryLine title key name)) := by
  unfold linesOf
  rw [selected, grouped, List.map_flatMap]
  refine congrArg Except.ok (List.flatMap_congr fun k _ => List.map_congr_left fun entry member => ?_)
  have same : key entry = k := by simpa using (List.mem_filter.mp member).2
  rw [entryLine, same]

/-- What a listing shows of a table. Without a name it shows the whole table, which `listing` groups by key; with a
name it shows the entries whose key has this title, in table order, or an error in which all titles stand. -/
structure ListsByCategory (title : κ → String) (key : α → κ) (line : α → String) (table listing : List α)
    (list : Option String → Except Failure (List String)) : Prop where
  groups : Groups key table listing
  whole : list none = .ok (listing.map line)
  chosen : ∀ wanted, (∃ k, SameUpToCase (title k) wanted) →
    list (some wanted) = .ok ((table.filter fun entry => SameUpToCase (title (key entry)) wanted).map line)
  unknown : ∀ wanted, (∀ k, ¬ SameUpToCase (title k) wanted) →
    ∃ titles, list (some wanted) = .error (.unknownCategory wanted titles) ∧
      (∀ known, known ∈ titles ↔ ∃ k, title k = known) ∧
      ∀ k, (title k).toList <:+: (Failure.unknownCategory wanted titles).message.toList

/-- **Listings by category**, of any table: keys that are all listed once, with titles that differ in more than
capital and small letters, are enough. -/
theorem listsByCategory_linesOf (nodup : keys.Nodup) (complete : ∀ k, k ∈ keys) (distinct : DistinctTitles title)
    (key : α → κ) (name : α → String) (table : List α) :
    ListsByCategory title key (entryLine title key name) table (grouped keys key table)
      (linesOf keys title key name table) where
  groups := groups_grouped nodup complete key table
  whole := linesOf_of_selected rfl
  chosen wanted := by
    rintro ⟨k, same⟩
    rw [linesOf_of_selected (selectCategories_of_same complete distinct same)]
    have only (entry : α) : key entry = k ↔ SameUpToCase (title (key entry)) wanted :=
      ⟨fun equal => equal ▸ same, fun also => distinct _ _ (also.join same)⟩
    simp [grouped, only]
  unknown wanted missing := by
    refine ⟨keys.map title, ?_, fun known => ?_, fun k => ?_⟩
    · unfold linesOf
      rw [selectCategories_of_unknown missing]
      rfl
    · simp [complete]
    · exact title_isInfix_message (List.mem_map_of_mem (complete k))

theorem exists_listLine_of_mem_linesOf {category : Option String} {lines : List String} {line : String}
    (listed : linesOf keys title key name table category = .ok lines) (member : line ∈ lines) :
    ∃ entry k, line = listLine (name entry) (title k) := by
  unfold linesOf at listed
  cases selected : selectCategories keys title category with
  | error failure =>
    rw [selected] at listed
    cases listed
  | ok chosen =>
    rw [selected] at listed
    obtain rfl := Except.ok.inj listed
    obtain ⟨k, -, inside⟩ := List.mem_flatMap.mp member
    obtain ⟨entry, -, rfl⟩ := List.mem_map.mp inside
    exact ⟨entry, k, rfl⟩

end Lines

/-! ### What is printed -/

/-- A text that ends with a character that is not blank. -/
def EndsSolid (text : String) : Prop := ∃ c ∈ text.toList.getLast?, Text.isBlank c = false

/-- What is printed of some lines: the lines, and a line break alone if there are none. -/
def printed : List String → String
  | [] => "\n"
  | first :: rest => String.join (first :: rest)

/-- **Trimming costs the last line break only**, which printing adds again. -/
theorem trimEnd_join {lines : List String}
    (solid : ∀ line ∈ lines, ∃ name note, line = listLine name note ∧ EndsSolid note) :
    String.ofList (Text.trimEnd (String.join lines).toList) ++ "\n" = printed lines := by
  rcases List.eq_nil_or_concat lines with rfl | ⟨front, final, rfl⟩
  · rfl
  · obtain ⟨name, note, rfl, c, last, dark⟩ := solid final (by simp)
    have whole : String.join (front.concat (listLine name note)) =
        String.join front ++ name ++ "\t" ++ note ++ "\n" := by
      simp [listLine, String.append_assoc]
    have blank : ∀ c ∈ ['\n'], Text.isBlank c = true := by
      intro c member
      rw [List.mem_singleton.mp member]
      decide
    have kept : Text.trimEnd ((String.join front ++ name ++ "\t" ++ note).toList ++ ['\n']) =
        (String.join front ++ name ++ "\t" ++ note).toList := by
      refine Text.stripEnd_append_of_last (fun d found => ?_) blank
      rw [String.toList_append, List.getLast?_append, last] at found
      exact Option.mem_some.mp found ▸ dark
    have shown : printed (front.concat (listLine name note)) = String.join (front.concat (listLine name note)) := by
      cases front <;> rfl
    rw [shown, whole, String.toList_append]
    exact congrArg (· ++ "\n") ((congrArg String.ofList kept).trans (String.ofList_toList))

/-- What a run leaves behind that shows a listing. -/
def listReport : Except Failure (List String) → Report
  | .ok lines => { code := 0, stdout := printed lines }
  | .error failure => { code := 1, stderr := failure.message ++ "\n" }

/-! ### The filters and tags -/

open Catalog

theorem distinctTitles_filter : DistinctTitles FilterCategory.title :=
  distinctTitles_of_apart FilterCategory.mem_all (by decide +kernel)

theorem distinctTitles_tag : DistinctTitles TagCategory.title :=
  distinctTitles_of_apart TagCategory.mem_all (by decide +kernel)

/-- The listing of the filters is that of a table by its categories, and so is the listing of the tags. -/
theorem listLines_filters (catalog : Catalog) :
    listLines catalog .filters =
      linesOf FilterCategory.all FilterCategory.title Filter.category Filter.name catalog.filters := rfl

theorem listLines_tags (catalog : Catalog) :
    listLines catalog .tags = linesOf TagCategory.all TagCategory.title Tag.category Tag.name catalog.tags := rfl

theorem endsSolid_filter (category : FilterCategory) : EndsSolid category.title := by
  cases category <;> exact ⟨_, rfl, by decide⟩

theorem endsSolid_tag (category : TagCategory) : EndsSolid category.title := by
  cases category <;> exact ⟨_, rfl, by decide⟩

/-- **The program prints the lines of a listing**, or why there are none. -/
theorem run?_list {table : Table} (sorted : table ≠ .objects) (disk : Disk) (category : Option String)
    (verbose : Nat) :
    run? disk ⟨.list table category, { verbose }⟩ = some (listReport (listLines Catalog.shopify table category)) := by
  have solid {lines : List String} (listed : listLines Catalog.shopify table category = .ok lines) :
      ∀ line ∈ lines, ∃ name note, line = listLine name note ∧ EndsSolid note := by
    intro line member
    cases table with
    | objects => exact absurd rfl sorted
    | filters =>
      obtain ⟨entry, k, rfl⟩ := exists_listLine_of_mem_linesOf listed member
      exact ⟨_, _, rfl, endsSolid_filter k⟩
    | tags =>
      obtain ⟨entry, k, rfl⟩ := exists_listLine_of_mem_linesOf listed member
      exact ⟨_, _, rfl, endsSolid_tag k⟩
  have reported : run? disk ⟨.list table category, { verbose }⟩ =
      some (report { verbose } "" (listCommand table category)) := rfl
  rw [reported, listCommand]
  cases listed : listLines Catalog.shopify table category with
  | error failure => rfl
  | ok lines =>
    refine congrArg some ?_
    show report { verbose } "" (.ok (String.ofList (Text.trimEnd (String.join lines).toList))) = listReport (.ok lines)
    simp only [report, listReport, trimEnd_join (solid listed), Bool.false_eq_true, if_false]

/-- **Listings by category lose and repeat nothing.** For every catalog, the listing of all filters is a permutation
of its filters with one block for each category; the name of a category chooses the filters of this category, and
any other name is an error that names all categories. The same holds of the tags. A run of the program prints these
lines of the built-in catalog. -/
theorem lists_by_category (catalog : Catalog) :
    ListsByCategory FilterCategory.title Filter.category
      (fun filter => listLine filter.name filter.category.title)
      catalog.filters (FilterCategory.all.flatMap catalog.filtersIn) (listLines catalog .filters) ∧
    ListsByCategory TagCategory.title Tag.category (fun tag => listLine tag.name tag.category.title)
      catalog.tags (TagCategory.all.flatMap catalog.tagsIn) (listLines catalog .tags) ∧
    ∀ disk category verbose,
      run? disk ⟨.list .filters category, { verbose }⟩ =
        some (listReport (listLines Catalog.shopify .filters category)) ∧
      run? disk ⟨.list .tags category, { verbose }⟩ =
        some (listReport (listLines Catalog.shopify .tags category)) := by
  refine ⟨?_, ?_, fun disk category verbose => ⟨?_, ?_⟩⟩
  · rw [listLines_filters]
    exact listsByCategory_linesOf FilterCategory.nodup_all FilterCategory.mem_all distinctTitles_filter
      Filter.category Filter.name catalog.filters
  · rw [listLines_tags]
    exact listsByCategory_linesOf TagCategory.nodup_all TagCategory.mem_all distinctTitles_tag
      Tag.category Tag.name catalog.tags
  · exact run?_list (by decide) disk category verbose
  · exact run?_list (by decide) disk category verbose

end LiquidHover.CommandLine
