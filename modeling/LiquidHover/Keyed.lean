/-
**Keyed lists.** Values under keys, as a list of pairs in which the first pair of a key counts.

* `Keyed.insert` — a value written at the place of its key in the order of the keys
  (`Keyed.lookup_insert`: only that key changes).
* `Keyed.erase` — the list without a key (`Keyed.lookup_erase`: only that key is gone).
-/

namespace LiquidHover.Keyed

variable {κ α : Type}

/-- The pairs with the value of `key` replaced, or added at its place in the order of the keys. -/
def insert (key : String) (value : α) : List (String × α) → List (String × α)
  | [] => [(key, value)]
  | (other, held) :: entries =>
    if key < other then (key, value) :: (other, held) :: entries
    else if key = other then (key, value) :: entries
    else (other, held) :: insert key value entries

/-- The pairs with other keys. -/
def erase [DecidableEq κ] (key : κ) (entries : List (κ × α)) : List (κ × α) :=
  entries.filter (·.1 ≠ key)

theorem lookup_cons [DecidableEq κ] (key other : κ) (value : α) (entries : List (κ × α)) :
    ((key, value) :: entries).lookup other =
      if other = key then some value else entries.lookup other := by
  by_cases same : other = key
  · simp [same]
  · simp [List.lookup_cons, beq_false_of_ne same, same]

theorem lookup_eq_none_iff [DecidableEq κ] {key : κ} {entries : List (κ × α)} :
    entries.lookup key = none ↔ key ∉ entries.map Prod.fst := by
  induction entries with
  | nil => simp
  | cons entry entries ih =>
    obtain ⟨held, _⟩ := entry
    rw [lookup_cons, List.map_cons, List.mem_cons, not_or, ← ih]
    by_cases same : key = held <;> simp [same]

/-- What a look-up finds is in the list. -/
theorem mem_of_lookup [DecidableEq κ] {key : κ} {value : α} {entries : List (κ × α)}
    (found : entries.lookup key = some value) : (key, value) ∈ entries := by
  obtain ⟨earlier, later, rfl, _⟩ := List.lookup_eq_some_iff.mp found
  exact List.mem_append_right _ List.mem_cons_self

theorem lookup_map {β : Type} [DecidableEq κ] (convert : α → β) (key : κ)
    (entries : List (κ × α)) :
    (entries.map fun entry => (entry.1, convert entry.2)).lookup key =
      (entries.lookup key).map convert := by
  induction entries with
  | nil => rfl
  | cons entry entries ih =>
    rw [List.map_cons, lookup_cons, lookup_cons, ih]
    split <;> rfl

/-- **Writing one key changes no other.** -/
theorem lookup_insert (key other : String) (value : α) (entries : List (String × α)) :
    (insert key value entries).lookup other =
      if other = key then some value else entries.lookup other := by
  induction entries with
  | nil => simp [insert, lookup_cons]
  | cons entry entries ih =>
    obtain ⟨held, _⟩ := entry
    simp only [insert]
    split
    · rw [lookup_cons]
    · split
      · rename_i found
        rw [lookup_cons, lookup_cons, found]
        split <;> rfl
      · rename_i differs
        rw [lookup_cons, lookup_cons, ih]
        by_cases here : other = held
        · simp [here, Ne.symm differs]
        · simp [here]

/-- **Erasing one key keeps all others.** -/
theorem lookup_erase [DecidableEq κ] (key other : κ) (entries : List (κ × α)) :
    (erase key entries).lookup other = if other = key then none else entries.lookup other := by
  induction entries with
  | nil => simp [erase]
  | cons entry entries ih =>
    obtain ⟨held, value⟩ := entry
    by_cases dropped : held = key
    · have shorter : erase key ((held, value) :: entries) = erase key entries := by
        simp [erase, dropped]
      rw [shorter, ih, lookup_cons, dropped]
      split <;> rfl
    · have kept : erase key ((held, value) :: entries) = (held, value) :: erase key entries := by
        simp [erase, dropped]
      rw [kept, lookup_cons, lookup_cons, ih]
      by_cases here : other = held
      · simp [here, dropped]
      · simp [here]

end LiquidHover.Keyed
