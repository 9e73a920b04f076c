/-
**Settings one by one.** Settings are a record, and their sources know them by key. Loading a merged layer
is loading each setting on its own: it succeeds exactly if it succeeds for every setting.

* `Key.Value`, `get`, `ofValues` — the settings as a function of their keys.
* `Key.convert?` — the value of a setting for which a given value stands.
* `valueIn` — one setting of a merged layer.
* `ofLayer_eq_ok_iff`, `ofLayer_eq_error_iff` — all of them together.
-/
import LiquidHover.Settings.Load
import Mathlib.Tactic.ByContra
import Mathlib.Tactic.Choose

namespace LiquidHover.Settings

/-! ### Settings by key -/

/-- The values of a setting: one of them is a number, all others are Booleans. -/
abbrev Key.Value : Key → Type
  | .maxProperties => Nat
  | .enabled | .enableFilterHover | .enableTagHover | .showTypes | .showDescription
  | .showDeprecatedWarnings | .showFilterParameters | .showFilterExamples | .showTagExamples
  | .debug => Bool

/-- The value of a setting. -/
def get (settings : Settings) : (key : Key) → key.Value
  | .enabled => settings.enabled
  | .enableFilterHover => settings.enableFilterHover
  | .enableTagHover => settings.enableTagHover
  | .showTypes => settings.showTypes
  | .showDescription => settings.showDescription
  | .showDeprecatedWarnings => settings.showDeprecatedWarnings
  | .showFilterParameters => settings.showFilterParameters
  | .showFilterExamples => settings.showFilterExamples
  | .showTagExamples => settings.showTagExamples
  | .maxProperties => settings.maxProperties
  | .debug => settings.debug

/-- The settings with a value for each key. -/
def ofValues (values : (key : Key) → key.Value) : Settings where
  enabled := values .enabled
  enableFilterHover := values .enableFilterHover
  enableTagHover := values .enableTagHover
  showTypes := values .showTypes
  showDescription := values .showDescription
  showDeprecatedWarnings := values .showDeprecatedWarnings
  showFilterParameters := values .showFilterParameters
  showFilterExamples := values .showFilterExamples
  showTagExamples := values .showTagExamples
  maxProperties := values .maxProperties
  debug := values .debug

@[simp] theorem get_ofValues (values : (key : Key) → key.Value) (key : Key) :
    (ofValues values).get key = values key := by
  cases key <;> rfl

/-- The value of a setting for which a given value stands. -/
def Key.convert? : (key : Key) → Given → Option key.Value
  | .maxProperties => toCount?
  | .enabled | .enableFilterHover | .enableTagHover | .showTypes | .showDescription
  | .showDeprecatedWarnings | .showFilterParameters | .showFilterExamples | .showTagExamples
  | .debug => toFlag?

/-- The value of one setting in a merged layer. -/
def valueIn (layer : Layer) (key : Key) : Except Error key.Value :=
  valueOf key.convert? (({} : Settings).get key) layer key

/-! ### One after the other -/

section Sequence

variable {α β : Type} {first : Except Error α} {next : α → Except Error β}

theorem bind_eq_ok_iff {value : β} :
    (first >>= next) = .ok value ↔ ∃ middle, first = .ok middle ∧ next middle = .ok value := by
  cases first <;> simp [bind, Except.bind]

/-- A computation that can fail in one way only. -/
def OnlyInvalid (computation : Except Error α) : Prop :=
  ∀ error, computation = .error error → error = .invalid

theorem OnlyInvalid.bind (head : OnlyInvalid first) (tail : ∀ value, OnlyInvalid (next value)) :
    OnlyInvalid (first >>= next) := by
  intro error failed
  cases first with
  | error =>
    cases failed
    exact head error rfl
  | ok value => exact tail value error failed

theorem onlyInvalid_pure (value : α) : OnlyInvalid (pure value) := by
  intro error failed
  cases failed

end Sequence

theorem onlyInvalid_valueOf {α : Type} (convert? : Given → Option α) (fallback : α) (layer : Layer)
    (key : Key) : OnlyInvalid (valueOf convert? fallback layer key) := by
  have given : OnlyInvalid (given? layer key) := by
    intro error failed
    unfold given? at failed
    split at failed <;> cases failed
    rfl
  refine given.bind fun found => ?_
  cases found with
  | none => exact onlyInvalid_pure fallback
  | some value =>
    intro error failed
    dsimp only at failed
    split at failed <;> cases failed
    rfl

/-! ### One setting -/

section One

variable {layer : Layer} {key : Key} {found : Option Given}

theorem valueIn_of_both (both : given? layer key = .error .invalid) :
    valueIn layer key = .error .invalid := by
  rw [valueIn, valueOf, both]
  rfl

/-- What is given to a setting has to stand for one of its values. -/
theorem valueIn_eq_error_iff (given : given? layer key = .ok found) :
    valueIn layer key = .error .invalid ↔ ∃ value ∈ found, key.convert? value = none := by
  rw [valueIn, valueOf, given]
  cases found with
  | none => simp [bind, Except.bind, pure, Except.pure]
  | some value =>
    cases stands : key.convert? value with
    | none => simp [stands, bind, Except.bind, throw, throwThe, MonadExceptOf.throw]
    | some converted => simp [stands, bind, Except.bind, pure, Except.pure]

theorem valueIn_eq_ok (given : given? layer key = .ok found)
    (convertible : ∀ value ∈ found, key.convert? value ≠ none) :
    valueIn layer key = .ok ((found.bind key.convert?).getD (({} : Settings).get key)) := by
  rw [valueIn, valueOf, given]
  cases found with
  | none => rfl
  | some value =>
    obtain ⟨converted, stands⟩ := Option.ne_none_iff_exists'.mp (convertible value rfl)
    simp [stands, bind, Except.bind, pure, Except.pure]

end One

/-! ### All settings -/

/-- **Settings are loaded exactly if each one is.** -/
theorem ofLayer_eq_ok_iff {layer : Layer} {settings : Settings} :
    ofLayer layer = .ok settings ↔ ∀ key, valueIn layer key = .ok (settings.get key) := by
  constructor
  · intro loaded key
    simp only [ofLayer, bind_eq_ok_iff] at loaded
    obtain ⟨_, h₁, _, h₂, _, h₃, _, h₄, _, h₅, _, h₆, _, h₇, _, h₈, _, h₉, _, h₁₀, _, h₁₁, built⟩ := loaded
    cases built
    cases key
    exacts [h₁, h₂, h₃, h₄, h₅, h₆, h₇, h₈, h₉, h₁₀, h₁₁]
  · intro each
    simp only [ofLayer, bind_eq_ok_iff]
    exact ⟨_, each .enabled, _, each .enableFilterHover, _, each .enableTagHover, _, each .showTypes,
      _, each .showDescription, _, each .showDeprecatedWarnings, _, each .showFilterParameters,
      _, each .showFilterExamples, _, each .showTagExamples, _, each .maxProperties, _, each .debug, rfl⟩

theorem onlyInvalid_ofLayer (layer : Layer) : OnlyInvalid (ofLayer layer) := by
  unfold ofLayer
  iterate 11 refine (onlyInvalid_valueOf _ _ layer _).bind fun _ => ?_
  exact onlyInvalid_pure _

/-- **Loading fails exactly if it fails for some setting.** -/
theorem ofLayer_eq_error_iff {layer : Layer} :
    ofLayer layer = .error .invalid ↔ ∃ key, valueIn layer key = .error .invalid := by
  constructor
  · intro failed
    by_contra unfailing
    have each (key : Key) : ∃ value, valueIn layer key = .ok value := by
      cases found : valueIn layer key with
      | ok value => exact ⟨value, rfl⟩
      | error error =>
        obtain rfl := onlyInvalid_valueOf _ _ layer key error found
        exact absurd ⟨key, found⟩ unfailing
    choose values found using each
    have loaded : ofLayer layer = .ok (ofValues values) :=
      ofLayer_eq_ok_iff.mpr fun key => by rw [found, get_ofValues]
    rw [failed] at loaded
    cases loaded
  · rintro ⟨key, failed⟩
    cases loaded : ofLayer layer with
    | ok settings =>
      have value := ofLayer_eq_ok_iff.mp loaded key
      rw [failed] at value
      cases value
    | error error => rw [onlyInvalid_ofLayer layer error loaded]

end LiquidHover.Settings
