/-
**What is kept of the editor's settings.** Fields that are null are left out, and all others are kept under names
with underscores. What is kept is written down as a document and read back, and it has to survive that as a whole,
whether or not it is the value of a setting.

* `normalize_append`, `exists_of_mem_normalize`, `sorted_normalize` — the fields that are kept.
* `normalize_insert` — a field under a new name adds one kept field.
* `IsCarried` — a value that survives being written and read back.
* `editorLayer_eq_ok`, `editorLayer_eq_error` — the layer of the editor's settings, or why there is none.
-/
import LiquidHover.Proofs.Keyed
import LiquidHover.Settings.Load
import Mathlib.Data.List.Induction

namespace LiquidHover.Settings

variable {fields : List (String × Json)} {name : String} {value : Json}

/-! ### Names with underscores -/

theorem normalize_append_null (fields : List (String × Json)) (name : String) :
    normalize (fields ++ [(name, .null)]) = normalize fields := by
  unfold normalize
  rw [List.foldl_append]
  rfl

theorem normalize_append (fields : List (String × Json)) (name : String) (present : value ≠ .null) :
    normalize (fields ++ [(name, value)]) =
      Keyed.insert (snakeCase name) value (normalize fields) := by
  unfold normalize
  rw [List.foldl_append]
  cases value with
  | null => exact absurd rfl present
  | bool | int | double | string | array | object => rfl

/-- What is kept of the editor's settings are fields that are not null. -/
theorem exists_of_mem_normalize {entry : String × Json} (member : entry ∈ normalize fields) :
    entry.2 ≠ .null ∧ ∃ name, (name, entry.2) ∈ fields ∧ entry.1 = snakeCase name := by
  induction fields using List.reverseRecOn with
  | nil => cases member
  | append_singleton fields last ih =>
    obtain ⟨name, value⟩ := last
    have earlier (kept : entry ∈ normalize fields) : entry.2 ≠ .null ∧
        ∃ source, (source, entry.2) ∈ fields ++ [(name, value)] ∧ entry.1 = snakeCase source := by
      obtain ⟨present, source, among, same⟩ := ih kept
      exact ⟨present, source, List.mem_append_left _ among, same⟩
    by_cases null : value = .null
    · rw [null, normalize_append_null] at member
      exact earlier member
    · rw [normalize_append fields name null] at member
      rcases Keyed.mem_of_mem_insert member with rfl | kept
      · exact ⟨null, name, List.mem_append_right _ List.mem_cons_self, rfl⟩
      · exact earlier kept

theorem sorted_normalize (fields : List (String × Json)) :
    (normalize fields).Pairwise (·.1 < ·.1) := by
  induction fields using List.reverseRecOn with
  | nil => exact .nil
  | append_singleton fields last ih =>
    obtain ⟨name, value⟩ := last
    by_cases null : value = .null
    · rw [null, normalize_append_null]
      exact ih
    · rw [normalize_append fields name null]
      exact Keyed.sorted_insert ih

/-- A null between the fields is left out. -/
theorem normalize_append_cons_null (front back : List (String × Json)) (name : String) :
    normalize (front ++ (name, .null) :: back) = normalize (front ++ back) := by
  unfold normalize
  rw [List.foldl_append, List.foldl_append]
  rfl

/-- A field that shares its name with none behind it can as well be the last one. -/
theorem normalize_append_cons (front : List (String × Json)) {back : List (String × Json)}
    (present : value ≠ .null) (fresh : ∀ field ∈ back, snakeCase field.1 ≠ snakeCase name) :
    normalize (front ++ (name, value) :: back) =
      Keyed.insert (snakeCase name) value (normalize (front ++ back)) := by
  induction back using List.reverseRecOn with
  | nil => rw [normalize_append front name present, List.append_nil]
  | append_singleton back last ih =>
    obtain ⟨other, held⟩ := last
    have different := fresh (other, held) (List.mem_append_right _ List.mem_cons_self)
    have earlier := ih fun field among => fresh field (List.mem_append_left _ among)
    rw [← List.cons_append, ← List.append_assoc, ← List.append_assoc]
    by_cases null : held = .null
    · rw [null, normalize_append_null, normalize_append_null, earlier]
    · rw [normalize_append _ _ null, normalize_append _ _ null, earlier,
        Keyed.insert_comm different]

/-- No field of another name is kept under a name. -/
theorem not_mem_keys_normalize (fresh : ∀ field ∈ fields, snakeCase field.1 ≠ snakeCase name) :
    snakeCase name ∉ (normalize fields).map Prod.fst := by
  intro used
  obtain ⟨entry, member, same⟩ := List.mem_map.mp used
  obtain ⟨-, source, among, kept⟩ := exists_of_mem_normalize member
  exact fresh (source, entry.2) among (kept.symm.trans same)

/-- **A field under a new name adds one kept field**, unless it is null. -/
theorem normalize_insert (fresh : ∀ field ∈ fields, snakeCase field.1 ≠ snakeCase name)
    (value : Json) :
    (value = .null → normalize (Keyed.insert name value fields) = normalize fields) ∧
      (value ≠ .null → normalize (Keyed.insert name value fields) =
        Keyed.insert (snakeCase name) value (normalize fields)) := by
  have new : name ∉ fields.map Prod.fst := by
    intro used
    obtain ⟨field, among, rfl⟩ := List.mem_map.mp used
    exact fresh field among rfl
  obtain ⟨front, back, rfl, written⟩ := Keyed.exists_insert_eq new value
  rw [written]
  constructor
  · rintro rfl
    exact normalize_append_cons_null front back name
  · intro present
    exact normalize_append_cons front present fun field among =>
      fresh field (List.mem_append_right _ among)

/-! ### Writing and reading back -/

/-- A value that survives being written down and read back: it holds no null, its whole numbers fit, and it is
nested neither too deep nor under too long a header. -/
structure IsCarried (value : Json) : Prop where
  noNull : hasNull value = false
  fits : fitsSigned value = true
  shallow : headerDepth value ≤ Toml.depthLimit
  short : hasHeader value = true → headerLength value + 1 ≤ Toml.partLimit

theorem hasNullField_iff :
    hasNullField fields = true ↔ ∃ field ∈ fields, hasNull field.2 = true := by
  induction fields with
  | nil => simp [hasNullField]
  | cons field fields ih => simp [hasNullField, ih]

theorem fieldsFitSigned_iff :
    fieldsFitSigned fields = true ↔ ∀ field ∈ fields, fitsSigned field.2 = true := by
  induction fields with
  | nil => simp [fieldsFitSigned]
  | cons field fields ih => simp [fieldsFitSigned, ih]

theorem headerFieldsDepth_le_iff {bound : Nat} :
    headerFieldsDepth fields ≤ bound ↔ ∀ field ∈ fields, headerDepth field.2 ≤ bound := by
  induction fields with
  | nil => simp [headerFieldsDepth]
  | cons field fields ih => simp [headerFieldsDepth, ih]

theorem headerFieldsLength_le_iff {bound : Nat} :
    headerFieldsLength fields ≤ bound ↔
      ∀ field ∈ fields, hasHeader field.2 = true → headerLength field.2 + 1 ≤ bound := by
  induction fields with
  | nil => simp [headerFieldsLength]
  | cons field fields ih =>
    obtain ⟨name, value⟩ := field
    rw [headerFieldsLength, Nat.max_le, ih, List.forall_mem_cons]
    refine and_congr_left' ?_
    split
    · rename_i headed
      exact ⟨fun small _ => small, fun small => small headed⟩
    · rename_i headless
      exact ⟨fun _ headed => absurd headed headless, fun _ => Nat.zero_le _⟩

/-- **Editor settings are read if everything that is kept can be carried.** -/
theorem editorLayer_eq_ok (carried : ∀ entry ∈ normalize fields, IsCarried entry.2) :
    editorLayer (.object fields) = .ok (ofOverrides fields) := by
  have noNull : ¬ hasNullField (normalize fields) = true := by
    rw [hasNullField_iff]
    rintro ⟨entry, member, null⟩
    exact absurd ((carried entry member).noNull.symm.trans null) Bool.false_ne_true
  simp only [editorLayer, if_neg noNull]
  refine if_pos ⟨?_, ?_, ?_⟩
  · exact fieldsFitSigned_iff.mpr fun entry member => (carried entry member).fits
  · exact headerFieldsDepth_le_iff.mpr fun entry member => (carried entry member).shallow
  · exact headerFieldsLength_le_iff.mpr fun entry member => (carried entry member).short

/-- **Otherwise they are refused**: as not to be written when a null is among what is kept, and else as
invalid. -/
theorem editorLayer_eq_error {entry : String × Json} (member : entry ∈ normalize fields)
    (uncarried : ¬ IsCarried entry.2) :
    editorLayer (.object fields) =
      .error (if hasNullField (normalize fields) = true then .unwritable else .invalid) := by
  by_cases null : hasNullField (normalize fields) = true
  · simp only [editorLayer, if_pos null]
  · simp only [editorLayer, if_neg null]
    refine if_neg ?_
    rintro ⟨fits, shallow, short⟩
    refine uncarried ⟨Bool.eq_false_iff.mpr fun held => ?_, fieldsFitSigned_iff.mp fits entry member,
      headerFieldsDepth_le_iff.mp shallow entry member,
      headerFieldsLength_le_iff.mp short entry member⟩
    exact null (hasNullField_iff.mpr ⟨entry, member, held⟩)

end LiquidHover.Settings
