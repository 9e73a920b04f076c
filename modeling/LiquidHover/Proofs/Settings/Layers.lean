/-
**Layers laid over each other.** A merged layer gives to a name what the last of its layers gives that gives
anything. This holds of layers whose names do not reach into values, and the names of settings do not.

* `Key.IsNamed` — the two names of a setting. Editor settings are kept under the first
  (`Key.snakeCase_of_isNamed`), which no setting has as its second (`Key.name_ne_of_camelName?`).
* `Flat` — a layer with plain names, each of them once.
* `lookup_merge`, `lookup_foldl_merge` — what is found under a name in two layers and in a row of them.
-/
import LiquidHover.Settings.Layer
import Mathlib.Data.Fintype.Defs
import Mathlib.Data.List.Nodup

namespace LiquidHover.Settings

/-! ### The names of settings -/

namespace Key

/-- Whether a name is one of the two names of a setting. -/
def IsNamed (key : Key) (name : String) : Prop := name = key.name ∨ key.camelName? = some name

instance (key : Key) (name : String) : Decidable (key.IsNamed name) :=
  inferInstanceAs (Decidable (_ ∨ _))

instance : Fintype Key := ⟨⟨all, by decide⟩, mem_all⟩

theorem name_injective : Function.Injective name := by
  intro key other same
  have distinct : (all.map name).Nodup := by decide +kernel
  exact List.inj_on_of_nodup_map distinct (mem_all key) (mem_all other) same

/-- Both names of a setting become the first one. -/
theorem snakeCase_of_isNamed {key : Key} {name : String} (named : key.IsNamed name) :
    snakeCase name = key.name := by
  have first : ∀ key ∈ all, snakeCase key.name = key.name := by decide +kernel
  have second : ∀ key ∈ all, key.camelName?.all (snakeCase · == key.name) = true := by decide +kernel
  rcases named with rfl | camel
  · exact first key (mem_all key)
  · have converted := second key (mem_all key)
    rw [camel] at converted
    exact beq_iff_eq.mp converted

/-- No two settings share a name. -/
theorem IsNamed.unique {key other : Key} {name : String} (named : key.IsNamed name)
    (also : other.IsNamed name) : key = other :=
  name_injective ((snakeCase_of_isNamed named).symm.trans (snakeCase_of_isNamed also))

/-- A second name is not the first name of any setting. -/
theorem name_ne_of_camelName? {key : Key} {second : String} (camel : key.camelName? = some second)
    (other : Key) : other.name ≠ second := by
  have apart : ∀ key ∈ all, ∀ other ∈ all, key.camelName?.all (· != other.name) = true := by
    decide +kernel
  have differs := apart key (mem_all key) other (mem_all other)
  rw [camel] at differs
  exact (bne_iff_ne.mp differs).symm

/-- The names of settings do not reach into values. -/
theorem pathRoot?_of_isNamed {key : Key} {name : String} (named : key.IsNamed name) :
    pathRoot? name = none := by
  have first : ∀ key ∈ all, pathRoot? key.name = none := by decide +kernel
  have second : ∀ key ∈ all, key.camelName?.all (pathRoot? · == none) = true := by decide +kernel
  rcases named with rfl | camel
  · exact first key (mem_all key)
  · have plain := second key (mem_all key)
    rw [camel] at plain
    exact beq_iff_eq.mp plain

end Key

/-! ### Two layers and many -/

/-- A layer with plain names, each of them once. -/
structure Flat (layer : Layer) : Prop where
  distinct : (layer.map Prod.fst).Nodup
  plain : ∀ entry ∈ layer, pathRoot? entry.1 = none

theorem flat_nil : Flat [] := ⟨List.nodup_nil, fun _ member => by cases member⟩

theorem lookup_set {layer : Layer} {key : String} (plain : pathRoot? key = none) (given : Given)
    (name : String) :
    (set layer key given).lookup name = if name = key then some given else layer.lookup name := by
  rw [set, plain]
  exact Keyed.lookup_insert key name given layer

/-- **Of two layers the upper one counts where it gives something.** -/
theorem lookup_merge (lower : Layer) {upper : Layer} (flat : Flat upper) (name : String) :
    (merge lower upper).lookup name = (upper.lookup name).or (lower.lookup name) := by
  obtain ⟨distinct, plain⟩ := flat
  induction upper generalizing lower with
  | nil => rfl
  | cons entry upper ih =>
    obtain ⟨key, given⟩ := entry
    obtain ⟨fresh, distinct⟩ := List.nodup_cons.mp distinct
    obtain ⟨plainKey, plain⟩ := List.forall_mem_cons.mp plain
    show (merge (set lower key given) upper).lookup name = _
    rw [ih _ distinct plain, lookup_set plainKey, Keyed.lookup_cons]
    by_cases here : name = key
    · -- The name is not set again by the rest of the layer.
      have absent : upper.lookup key = none := Keyed.lookup_eq_none_iff.mpr fresh
      rw [here, absent, if_pos rfl, if_pos rfl]
      rfl
    · rw [if_neg here, if_neg here]

/-- **Of many layers the last one counts that gives something.** -/
theorem lookup_foldl_merge (base : Layer) {layers : List Layer} (flat : ∀ layer ∈ layers, Flat layer)
    (name : String) :
    (layers.foldl merge base).lookup name =
      (layers.reverse.findSome? (·.lookup name)).or (base.lookup name) := by
  induction layers generalizing base with
  | nil => rfl
  | cons layer layers ih =>
    obtain ⟨first, others⟩ := List.forall_mem_cons.mp flat
    rw [List.foldl_cons, ih _ others, lookup_merge base first, List.reverse_cons,
      List.findSome?_append, Option.or_assoc]
    simp

end LiquidHover.Settings
