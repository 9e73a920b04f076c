/-
**The normal form of the editor's settings.** What is kept of the editor's settings is their normal form: the fields
that are not null, under names with underscores. Names that are spelled in different ways can become one name, and
then the spelling counts that is the greatest in the order of bytes. To bring settings into this form changes nothing
about what they mean, and to do it twice is to do it once.

* `snakeCase_snakeCase` — a name with underscores stays as it is.
* `Counts`, `IsNormalForm` — the field that counts under a name, and the fields that count (`IsNormalForm.unique`).
* `isNormalForm_normalize`, `normalize_normalize` — what is kept is the normal form, and its own normal form.
* `ofEditor_normal_form` — settings and their normal form load the same.
-/
import LiquidHover.Proofs.Json.Order
import LiquidHover.Proofs.Settings.Foreign
import LiquidHover.Proofs.Text.ByteOrder
import Mathlib

namespace LiquidHover.Settings

variable {fields kept : List (String × Json)}

/-! ### Names with underscores -/

theorem isUpper_of_mem_snakeFrom {started : Bool} {name : List Char} {c : Char}
    (member : c ∈ snakeFrom started name) : c.isUpper = false := by
  fun_induction snakeFrom started name with
  | case1 => cases member
  | case2 d rest capital ih =>
    simp only [List.mem_cons] at member
    rcases member with rfl | rfl | later
    · rfl
    · exact Char.isUpper_toLower_eq_false d
    · exact ih later
  | case3 started d rest capital first ih =>
    rcases List.mem_cons.mp member with rfl | later
    · exact Char.isUpper_toLower_eq_false d
    · exact ih later
  | case4 started d rest small ih =>
    rcases List.mem_cons.mp member with rfl | later
    · exact Bool.eq_false_iff.mpr small
    · exact ih later

/-- A name without capitals stays as it is. -/
theorem snakeFrom_of_small {name : List Char} (small : ∀ c ∈ name, c.isUpper = false) (started : Bool) :
    snakeFrom started name = name := by
  induction name generalizing started with
  | nil => rfl
  | cons c rest ih =>
    obtain ⟨first, others⟩ := List.forall_mem_cons.mp small
    rw [snakeFrom, if_neg (Bool.eq_false_iff.mp first), ih others]

/-- **A name with underscores stays as it is.** -/
theorem snakeCase_snakeCase (name : String) : snakeCase (snakeCase name) = snakeCase name := by
  unfold snakeCase
  rw [String.toList_ofList, snakeFrom_of_small fun c => isUpper_of_mem_snakeFrom]

/-! ### The fields that count -/

/-- The field that counts under a name with underscores: it is not null, its own name becomes this one, and no other
such field has a name with greater bytes. -/
structure Counts (fields : List (String × Json)) (key : String) (field : String × Json) : Prop where
  among : field ∈ fields
  present : field.2 ≠ .null
  named : snakeCase field.1 = key
  greatest : ∀ other ∈ fields, other.2 ≠ .null → snakeCase other.1 = key → Text.bytes other.1 ≤ Text.bytes field.1

/-- The normal form of fields: in order of names, under each name the value of the field that counts. -/
structure IsNormalForm (kept fields : List (String × Json)) : Prop where
  sorted : kept.Pairwise (·.1 < ·.1)
  values : ∀ key value, kept.lookup key = some value ↔ ∃ name, Counts fields key (name, value)

/-- There is one normal form only. -/
theorem IsNormalForm.unique {others : List (String × Json)} (normal : IsNormalForm kept fields)
    (normal' : IsNormalForm others fields) : kept = others := by
  refine Keyed.eq_of_lookup_eq normal.sorted normal'.sorted fun key => Option.ext fun value => ?_
  rw [normal.values, normal'.values]

/-- A field that is null, or that gets another name, does not count under a name. -/
theorem counts_concat_of_absent {name key : String} {value : Json}
    (absent : value ≠ .null → snakeCase name ≠ key) {field : String × Json} :
    Counts (fields ++ [(name, value)]) key field ↔ Counts fields key field := by
  constructor
  · rintro ⟨among, present, named, greatest⟩
    refine ⟨?_, present, named, fun other member => greatest other (List.mem_append_left _ member)⟩
    rcases List.mem_append.mp among with earlier | last
    · exact earlier
    · obtain rfl := List.mem_singleton.mp last
      exact absurd named (absent present)
  · rintro ⟨among, present, named, greatest⟩
    refine ⟨List.mem_append_left _ among, present, named, fun other member filled also => ?_⟩
    rcases List.mem_append.mp member with earlier | last
    · exact greatest other earlier filled also
    · obtain rfl := List.mem_singleton.mp last
      exact absurd also (absent filled)

/-- A field behind all others counts under its name. -/
theorem counts_concat_self {name key : String} {value : Json} (behind : ∀ field ∈ fields, field.1 < name)
    (present : value ≠ .null) (named : snakeCase name = key) {field : String × Json} :
    Counts (fields ++ [(name, value)]) key field ↔ field = (name, value) := by
  have last : (name, value) ∈ fields ++ [(name, value)] := List.mem_append_right _ List.mem_cons_self
  constructor
  · rintro ⟨among, -, -, greatest⟩
    rcases List.mem_append.mp among with earlier | here
    · have atMost := Text.bytes_le_bytes_iff.mp (greatest _ last present named)
      exact absurd (behind field earlier) atMost.not_gt
    · exact List.mem_singleton.mp here
  · rintro rfl
    refine ⟨last, present, named, fun other member _ _ => Text.bytes_le_bytes_iff.mpr ?_⟩
    rcases List.mem_append.mp member with earlier | here
    · exact (behind other earlier).le
    · exact (congrArg Prod.fst (List.mem_singleton.mp here)).le

/-- **What is kept of fields in order is their normal form.** -/
theorem isNormalForm_normalize (ordered : fields.Pairwise (·.1 < ·.1)) : IsNormalForm (normalize fields) fields := by
  refine ⟨sorted_normalize fields, fun key value => ?_⟩
  induction fields using List.reverseRecOn with
  | nil =>
    constructor
    · intro found
      cases found
    · rintro ⟨name, counts⟩
      cases counts.among
  | append_singleton fields last ih =>
    obtain ⟨name, held⟩ := last
    obtain ⟨earlier, -, before⟩ := List.pairwise_append.mp ordered
    have behind : ∀ field ∈ fields, field.1 < name := fun field member => before field member _ List.mem_cons_self
    by_cases null : held = .null
    · rw [null, normalize_append_null, ih earlier]
      exact exists_congr fun _ => (counts_concat_of_absent (absurd rfl)).symm
    · rw [normalize_append fields name null, Keyed.lookup_insert]
      by_cases here : key = snakeCase name
      · subst here
        simp [counts_concat_self behind null rfl, eq_comm]
      · rw [if_neg here, ih earlier]
        exact exists_congr fun _ => (counts_concat_of_absent fun _ => Ne.symm here).symm

/-! ### Normal forms -/

/-- Fields that are in normal form already are kept as they are. -/
theorem normalize_eq_self (sorted : fields.Pairwise (·.1 < ·.1)) (present : ∀ field ∈ fields, field.2 ≠ .null)
    (named : ∀ field ∈ fields, snakeCase field.1 = field.1) : normalize fields = fields := by
  induction fields using List.reverseRecOn with
  | nil => rfl
  | append_singleton fields last ih =>
    obtain ⟨name, value⟩ := last
    obtain ⟨earlier, -, before⟩ := List.pairwise_append.mp sorted
    have here : (name, value) ∈ fields ++ [(name, value)] := List.mem_append_right _ List.mem_cons_self
    rw [normalize_append fields name (present _ here), named _ here,
      ih earlier (fun field member => present field (List.mem_append_left _ member)) fun field member =>
        named field (List.mem_append_left _ member)]
    exact Keyed.insert_of_forall_lt (fun field member => before field member _ List.mem_cons_self) value

/-- **What is kept of what is kept is the same.** -/
theorem normalize_normalize (fields : List (String × Json)) : normalize (normalize fields) = normalize fields := by
  refine normalize_eq_self (sorted_normalize fields) (fun field kept => (exists_of_mem_normalize kept).1) ?_
  intro field kept
  obtain ⟨-, name, -, named⟩ := exists_of_mem_normalize kept
  rw [named, snakeCase_snakeCase]

/-- **A field that is not null leaves a value under its name**, whatever stands under other spellings of it. -/
theorem exists_lookup_normalize {field : String × Json} (member : field ∈ fields) (present : field.2 ≠ .null) :
    ∃ value, value ≠ .null ∧ (normalize fields).lookup (snakeCase field.1) = some value := by
  induction fields using List.reverseRecOn with
  | nil => cases member
  | append_singleton fields last ih =>
    obtain ⟨name, held⟩ := last
    have earlier : field ∈ fields ∨ field = (name, held) := by simpa using member
    by_cases null : held = .null
    · rw [null, normalize_append_null]
      refine ih (earlier.resolve_right ?_)
      rintro rfl
      exact present null
    · rw [normalize_append fields name null, Keyed.lookup_insert]
      by_cases here : snakeCase field.1 = snakeCase name
      · exact ⟨held, null, if_pos here⟩
      · rw [if_neg here]
        refine ih (earlier.resolve_right ?_)
        rintro rfl
        exact here rfl

/-! ### Loading -/

/-- The editor's settings are read by what is kept of them. -/
theorem editorLayer_congr {others : List (String × Json)} (same : normalize fields = normalize others) :
    editorLayer (.object fields) = editorLayer (.object others) := by
  simp only [editorLayer, ofOverrides, same]

/-- The settings of a project depend on the layer of the editor's settings. -/
theorem load_congr {overrides others : Json} (same : editorLayer overrides = editorLayer others) (disk : Disk)
    (root : String) : load disk root (some overrides) = load disk root (some others) := by
  simp only [load, same]

/-- **The normal form of the editor's settings.** What is not an object stands for the defaults. Of an object the
fields are kept that count, each under its name with underscores; they are their own normal form, and they load the
same settings as the object or fail in the same way, alone and over the files of any project. Whatever is sent under
one spelling of a name, a null under another takes nothing away, and nulls can be left out everywhere. Names with
underscores stay as they are. Every object that is read from a text has its fields in order. -/
theorem ofEditor_normal_form (overrides : Json) (ordered : overrides.InOrder) :
    ((∀ fields, overrides ≠ .object fields) → ofEditor overrides = .ok {}) ∧
      (∀ fields, overrides = .object fields →
        (∀ kept, IsNormalForm kept fields ↔ kept = normalize fields) ∧
        normalize (normalize fields) = normalize fields ∧
        ofEditor (.object (normalize fields)) = ofEditor (.object fields) ∧
        (∀ disk root, load disk root (some (.object (normalize fields))) =
          load disk root (some (.object fields))) ∧
        (∀ field ∈ fields, field.2 ≠ .null → ∃ value, value ≠ .null ∧
          (normalize fields).lookup (snakeCase field.1) = some value) ∧
        (∀ front name back, fields = front ++ (name, .null) :: back →
          ofEditor (.object (front ++ back)) = ofEditor (.object fields))) ∧
      (∀ name, snakeCase (snakeCase name) = snakeCase name) ∧
      ∀ text sent, Json.parse? text = some sent → sent.InOrder := by
  refine ⟨fun other => ?_, ?_, snakeCase_snakeCase, fun _ _ => Json.inOrder_of_parse?⟩
  · cases overrides with
    | object fields => exact absurd rfl (other fields)
    | null | bool | int | double | string | array => rfl
  · rintro fields rfl
    have idempotent := normalize_normalize fields
    have normal := isNormalForm_normalize ordered
    refine ⟨fun kept => ⟨fun also => also.unique normal, fun same => same ▸ normal⟩, idempotent,
      ofEditor_congr idempotent, ?_, ?_, ?_⟩
    · exact load_congr (editorLayer_congr idempotent)
    · exact fun field member present => exists_lookup_normalize member present
    · rintro front name back rfl
      exact ofEditor_congr (normalize_append_cons_null front back name).symm

/-- Three spellings of one name, the greatest of them with a null, and a capital at the start of another. -/
def respelled : List (String × Json) :=
  [("Debug", .bool true), ("ShowTypes", .bool true), ("showTypes", .bool false), ("show_types", .null),
    ("tonÉ", .int 1)]

/-- Of three spellings the second one counts, for the last one holds a null. -/
theorem ofEditor_normal_form_respelled :
    (Json.object respelled).InOrder ∧ (normalize respelled).map Prod.fst = ["debug", "show_types", "tonÉ"] ∧
      ofEditor (.object (normalize respelled)) = ofEditor (.object respelled) ∧
      ofEditor (.object respelled) = .ok { debug := true, showTypes := false } := by
  have ordered : (Json.object respelled).InOrder := by
    show respelled.Pairwise (·.1 < ·.1)
    decide +kernel
  obtain ⟨-, -, same, -⟩ := (ofEditor_normal_form (.object respelled) ordered).2.1 respelled rfl
  exact ⟨ordered, by decide +kernel, same, by decide +kernel⟩

end LiquidHover.Settings
