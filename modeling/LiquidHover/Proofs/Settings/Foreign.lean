/-
**Names of no setting.** The editor may send more than settings. What it sends under other names is never looked at,
but it is kept, and so it has to survive with everything else: a null inside of it, or a number that is too large,
and no setting is loaded at all.

* `IsForeign` — a name that is the name of no setting, however it is spelled.
* `AgreeApart` — two layers that differ under one name at most. Laying the same over both keeps it.
* `ofLayer_congr` — settings depend on what a layer gives under their own names.
* `ofEditor_insert_of_isCarried`, `ofEditor_insert_of_not_isCarried` — a field that survives being written and read
  back, and one that does not. `ofEditor_insert_foreign`: what a field under such a name does to the settings.
* `ofEditor_fails_for_inner_null` — settings that are lost for a null that nobody reads.
-/
import LiquidHover.Proofs.Settings.Kept
import LiquidHover.Proofs.Settings.Layers
import LiquidHover.Proofs.Settings.Values
import Mathlib.Data.List.TakeWhile

namespace LiquidHover.Settings

/-! ### Names -/

/-- A name of small letters and underscores, or one that becomes such a name, that is the name of no
setting. -/
@[mk_iff]
structure IsForeign (name : String) : Prop where
  letters : ∀ c ∈ (snakeCase name).toList, c.isLower = true ∨ c = '_'
  unknown : ∀ key : Key, snakeCase name ≠ key.name

instance (name : String) : Decidable (IsForeign name) :=
  decidable_of_iff ((snakeCase name).toList.all (fun c => c.isLower || c == '_') = true ∧
      ∀ key : Key, snakeCase name ≠ key.name) <| by
    simp only [isForeign_iff, List.all_eq_true, Bool.or_eq_true, beq_iff_eq]

namespace IsForeign

variable {name : String}

/-- Small letters do not reach into a value. -/
theorem pathRoot?_eq_none (foreign : IsForeign name) : pathRoot? (snakeCase name) = none := by
  have whole : (snakeCase name).toList.dropWhile isPathChar = [] := by
    refine List.dropWhile_eq_nil_iff.mpr fun c member => ?_
    rcases foreign.letters c member with small | rfl
    · show (c.isUpper || c.isLower || c.isDigit || c == '_' || c == '-') = true
      simp only [small, Bool.or_true, Bool.true_or]
    · rfl
  simp [pathRoot?, whole]

/-- A second name has a capital. -/
theorem not_isNamed (foreign : IsForeign name) (key : Key) : ¬ key.IsNamed (snakeCase name) := by
  rintro (first | second)
  · exact foreign.unknown key first
  · have capital : ∀ key ∈ Key.all, key.camelName?.all (fun second =>
        second.toList.any fun c => !c.isLower && c != '_') = true := by
      decide +kernel
    have found := capital key (Key.mem_all key)
    rw [second, Option.all_some, List.any_eq_true] at found
    obtain ⟨c, member, large⟩ := found
    rcases foreign.letters c member with small | rfl
    · simp [small] at large
    · simp at large

end IsForeign

/-! ### Layers that differ under one name -/

/-- Two layers that give the same under all names but one. -/
def AgreeApart (key : String) (first second : Layer) : Prop :=
  ∀ name ≠ key, first.lookup name = second.lookup name

section Layers

variable {key : String} {first second : Layer}

theorem agreeApart_set (plain : pathRoot? key = none) (layer : Layer) (given : Given) :
    AgreeApart key (set layer key given) layer := by
  intro name different
  rw [lookup_set plain, if_neg different]

theorem AgreeApart.set_both (agree : AgreeApart key first second) (other : String) (given : Given) :
    AgreeApart key (set first other given) (set second other given) := by
  intro name different
  unfold set
  split <;> rw [Keyed.lookup_insert, Keyed.lookup_insert, agree name different]

/-- **Laying the same over both keeps layers alike.** -/
theorem AgreeApart.merge_both (agree : AgreeApart key first second) (upper : Layer) :
    AgreeApart key (merge first upper) (merge second upper) := by
  induction upper generalizing first second with
  | nil => exact agree
  | cons entry upper ih => exact ih (agree.set_both entry.1 entry.2)

/-- A layer with one more name is laid over the same. -/
theorem agreeApart_merge_insert {upper : Layer} (plain : pathRoot? key = none)
    (fresh : key ∉ upper.map Prod.fst) (lower : Layer) (given : Given) :
    AgreeApart key (merge lower (Keyed.insert key given upper)) (merge lower upper) := by
  obtain ⟨front, back, rfl, written⟩ := Keyed.exists_insert_eq fresh given
  rw [written]
  unfold merge
  rw [List.foldl_append, List.foldl_append]
  exact (agreeApart_set plain _ given).merge_both back

end Layers

/-- **Settings depend on what a layer gives under their own names.** -/
theorem ofLayer_congr {first second : Layer}
    (same : ∀ (key : Key) (name : String), key.IsNamed name → first.lookup name = second.lookup name) :
    ofLayer first = ofLayer second := by
  have given (key : Key) : given? first key = given? second key := by
    unfold given?
    rw [same key key.name (Or.inl rfl)]
    cases camel : key.camelName? with
    | none => rfl
    | some other =>
      rw [Option.bind_some, Option.bind_some, same key other (Or.inr camel)]
  simp only [ofLayer, valueOf, given]

/-! ### The editor's settings -/

section Field

variable {fields : List (String × Json)} {name : String} {value : Json}

/-- Settings depend on what is kept of the fields. -/
theorem ofEditor_congr {others : List (String × Json)} (same : normalize fields = normalize others) :
    ofEditor (.object fields) = ofEditor (.object others) := by
  simp only [ofEditor, editorLayer, ofOverrides, same]

/-- What is kept under a foreign name is no setting. -/
theorem ofLayer_ofOverrides_insert (foreign : IsForeign name)
    (fresh : ∀ field ∈ fields, snakeCase field.1 ≠ snakeCase name) (present : value ≠ .null) :
    ofLayer (merge [] (ofOverrides (Keyed.insert name value fields))) =
      ofLayer (merge [] (ofOverrides fields)) := by
  have added : ofOverrides (Keyed.insert name value fields) =
      Keyed.insert (snakeCase name) (ofJson value) (ofOverrides fields) := by
    unfold ofOverrides
    rw [(normalize_insert fresh value).2 present, Keyed.map_insert]
  have new : snakeCase name ∉ (ofOverrides fields).map Prod.fst := by
    show snakeCase name ∉ ((normalize fields).map fun entry => (entry.1, ofJson entry.2)).map Prod.fst
    rw [List.map_map]
    exact not_mem_keys_normalize fresh
  rw [added]
  refine ofLayer_congr fun key other named => ?_
  refine agreeApart_merge_insert foreign.pathRoot?_eq_none new [] (ofJson value) other ?_
  rintro rfl
  exact foreign.not_isNamed key named

/-- What is kept of the fields and of one more. -/
theorem mem_normalize_insert (fresh : ∀ field ∈ fields, snakeCase field.1 ≠ snakeCase name)
    (present : value ≠ .null) {entry : String × Json} :
    entry ∈ normalize (Keyed.insert name value fields) ↔
      entry = (snakeCase name, value) ∨ entry ∈ normalize fields := by
  rw [(normalize_insert fresh value).2 present, Keyed.mem_insert_of_fresh (not_mem_keys_normalize fresh)]

theorem hasNullField_normalize_insert
    (fresh : ∀ field ∈ fields, snakeCase field.1 ≠ snakeCase name) (present : value ≠ .null) :
    hasNullField (normalize (Keyed.insert name value fields)) = true ↔
      hasNull value = true ∨ ∃ field ∈ normalize fields, hasNull field.2 = true := by
  rw [hasNullField_iff]
  simp only [mem_normalize_insert fresh present, or_and_right, exists_or, exists_eq_left]

/-- **A field that can be carried does nothing** under the name of no setting. -/
theorem ofEditor_insert_of_isCarried (foreign : IsForeign name)
    (fresh : ∀ field ∈ fields, snakeCase field.1 ≠ snakeCase name) (carried : IsCarried value) :
    ofEditor (.object (Keyed.insert name value fields)) = ofEditor (.object fields) := by
  have present : value ≠ .null := by
    rintro rfl
    exact absurd carried.noNull Bool.noConfusion
  by_cases others : ∀ entry ∈ normalize fields, IsCarried entry.2
  · have all : ∀ entry ∈ normalize (Keyed.insert name value fields), IsCarried entry.2 := by
      intro entry member
      rcases (mem_normalize_insert fresh present).mp member with rfl | other
      · exact carried
      · exact others entry other
    rw [ofEditor, ofEditor, editorLayer_eq_ok all, editorLayer_eq_ok others]
    exact ofLayer_ofOverrides_insert foreign fresh present
  · -- Some other field makes loading fail, with or without this one.
    obtain ⟨entry, member, uncarried⟩ : ∃ entry ∈ normalize fields, ¬ IsCarried entry.2 := by
      simpa only [not_forall, exists_prop] using others
    have also := (mem_normalize_insert fresh present).mpr (Or.inr member)
    have same : hasNullField (normalize (Keyed.insert name value fields)) =
        hasNullField (normalize fields) := by
      rw [Bool.eq_iff_iff, hasNullField_normalize_insert fresh present, hasNullField_iff,
        carried.noNull]
      exact or_iff_right Bool.false_ne_true
    rw [ofEditor, ofEditor, editorLayer_eq_error also uncarried,
      editorLayer_eq_error member uncarried, same]

/-- **A field that cannot be carried makes loading fail**, under any new name. -/
theorem ofEditor_insert_of_not_isCarried
    (fresh : ∀ field ∈ fields, snakeCase field.1 ≠ snakeCase name) (present : value ≠ .null)
    (uncarried : ¬ IsCarried value) :
    ofEditor (.object (Keyed.insert name value fields)) =
      .error (if hasNull value = true ∨ ∃ field ∈ normalize fields, hasNull field.2 = true
        then .unwritable else .invalid) := by
  have member : (snakeCase name, value) ∈ normalize (Keyed.insert name value fields) :=
    (mem_normalize_insert fresh present).mpr (Or.inl rfl)
  rw [ofEditor, editorLayer_eq_error member uncarried]
  exact congrArg Except.error (if_congr (hasNullField_normalize_insert fresh present) rfl rfl)

/-- **What a field under the name of no setting does to the settings.** It does nothing if it is null or if it can
be carried. If it cannot, no settings are loaded: a null in it, or in another field, cannot be written, and
anything else that is too large or too deep cannot be read back. -/
theorem ofEditor_insert_foreign (foreign : IsForeign name)
    (fresh : ∀ field ∈ fields, snakeCase field.1 ≠ snakeCase name) (value : Json) :
    (value = .null ∨ IsCarried value →
        ofEditor (.object (Keyed.insert name value fields)) = ofEditor (.object fields)) ∧
      (value ≠ .null → ¬ IsCarried value →
        ofEditor (.object (Keyed.insert name value fields)) =
          .error (if hasNull value = true ∨ ∃ field ∈ normalize fields, hasNull field.2 = true
            then .unwritable else .invalid)) := by
  constructor
  · rintro (null | carried)
    · exact ofEditor_congr ((normalize_insert fresh value).1 null)
    · exact ofEditor_insert_of_isCarried foreign fresh carried
  · exact ofEditor_insert_of_not_isCarried fresh

end Field

/-- Settings of another tool among those of this one. They are an object, none of which is looked at. -/
theorem ofEditor_insert_foreign_theme :
    let fields : List (String × Json) := [("showTypes", .bool false)]
    let theme : Json := .object [("accent", .string "red"), ("sizes", .array [.int 1, .bool true])]
    IsForeign "themeColors" ∧ (∀ field ∈ fields, snakeCase field.1 ≠ snakeCase "themeColors") ∧
      ofEditor (.object (Keyed.insert "themeColors" theme fields)) = .ok { showTypes := false } := by
  intro fields theme
  have foreign : IsForeign "themeColors" := by decide +kernel
  have fresh : ∀ field ∈ fields, snakeCase field.1 ≠ snakeCase "themeColors" := by decide +kernel
  have carried : IsCarried theme := by
    constructor <;> decide +kernel
  have ignored := (ofEditor_insert_foreign foreign fresh theme).1 (Or.inr carried)
  have alone : ofEditor (.object fields) = .ok { showTypes := false } := by decide +kernel
  exact ⟨foreign, fresh, ignored.trans alone⟩

/-- **Settings are lost for a null that nobody reads**, and for a number that nobody reads. -/
theorem ofEditor_fails_for_inner_null :
    let fields : List (String × Json) := [("showTypes", .bool false)]
    IsForeign "theme" ∧ (∀ field ∈ fields, snakeCase field.1 ≠ snakeCase "theme") ∧
      ofEditor (.object fields) = .ok { showTypes := false } ∧
      ofEditor (.object (Keyed.insert "theme" (.object [("accent", .null)]) fields)) =
        .error .unwritable ∧
      ofEditor (.object (Keyed.insert "theme" (.int (Number.maxSigned64 + 1)) fields)) = .error .invalid := by
  decide +kernel

end LiquidHover.Settings
