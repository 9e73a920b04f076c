/-
**The keys of a document.** A line that would define a key a second time makes a document malformed, so in
the table of a document every key stands once.

* `Table.Distinct` — a table in which every key stands once; putting a value under a key keeps that.
* `Table.Puts` — a change that puts one value under one key. Whatever a line does deep in a document, at the
  top of it that is all (`puts_change?`, `puts_insert?`, `puts_openTable?`, `puts_pushTable?`).
* `distinct_of_parse?` — a document that was read.
-/
import LiquidHover.Keyed
import LiquidHover.Toml.Reader
import Mathlib.Data.List.Nodup

namespace LiquidHover.Toml

namespace Table

/-- A table in which every key stands once. -/
def Distinct (table : Table) : Prop := (table.entries.map Prod.fst).Nodup

theorem distinct_put {table : Table} (distinct : table.Distinct) (key : String) (value : Node) :
    (table.put key value).Distinct := by
  unfold put
  split
  · unfold Distinct
    rw [List.map_map]
    exact distinct
  · rename_i missing
    have unused : key ∉ table.entries.map Prod.fst :=
      Keyed.lookup_eq_none_iff.mp (Option.not_isSome_iff_eq_none.mp missing)
    show ((table.entries ++ [(key, value)]).map Prod.fst).Nodup
    rw [List.map_append]
    exact distinct.append (List.nodup_singleton key) (List.disjoint_singleton.mpr unused)

/-! ### What a line does to the top of a document -/

/-- A change that puts one value under one key, when it is possible at all. -/
def Puts (change : Table → Option Table) : Prop :=
  ∀ ⦃before after⦄, change before = some after → ∃ key value, after = before.put key value

/-- **A change deep in a table is a put at the top of it.** -/
theorem puts_change? {change : Table → Option Table} (puts : Puts change) (dotted : Bool)
    (path : List String) : Puts (change? dotted change path) := by
  intro before after changed
  cases path with
  | nil => exact puts changed
  | cons key path =>
    have built (make : Table → Node) {child : Option Table}
        (made : (child.bind fun child => some (before.put key (make child))) = some after) :
        ∃ key value, after = before.put key value := by
      obtain ⟨child, -, whole⟩ := Option.bind_eq_some_iff.mp made
      exact ⟨key, make child, (Option.some.inj whole).symm⟩
    unfold change? at changed
    split at changed
    · exact built toNode changed
    · split at changed
      · exact built toNode changed
      · cases changed
    · exact built _ changed
    · cases changed

theorem puts_insert? (path : List String) (key : String) (value : Node) :
    Puts fun table => table.insert? path key value := by
  refine puts_change? (fun before after inserted => ?_) true path
  split at inserted
  · split at inserted
    · cases inserted
    · exact ⟨key, value, (Option.some.inj inserted).symm⟩
  · cases inserted

theorem puts_openTable? (path : List String) (key : String) :
    Puts fun table => table.openTable? path key := by
  refine puts_change? (fun before after opened => ?_) false path
  split at opened
  · exact ⟨key, _, (Option.some.inj opened).symm⟩
  · exact ⟨key, _, (Option.some.inj opened).symm⟩
  · cases opened

theorem puts_pushTable? (path : List String) (key : String) :
    Puts fun table => table.pushTable? path key := by
  refine puts_change? (fun before after pushed => ?_) false path
  split at pushed
  · exact ⟨key, _, (Option.some.inj pushed).symm⟩
  · exact ⟨key, _, (Option.some.inj pushed).symm⟩
  · cases pushed

end Table

/-! ### Lines and documents -/

theorem root_of_readHeader? {draft next : Draft} {text rest : List Char}
    (read : readHeader? draft text = some (next, rest)) :
    ∃ key value, next.root = draft.root.put key value := by
  unfold readHeader? at read
  split at read
  · obtain ⟨⟨path, key, after⟩, -, header⟩ := Option.bind_eq_some_iff.mp read
    dsimp only at header
    split at header
    · obtain ⟨root, pushed, built⟩ := Option.bind_eq_some_iff.mp header
      cases built
      exact Table.puts_pushTable? path key pushed
    · cases header
  · obtain ⟨⟨path, key, after⟩, -, header⟩ := Option.bind_eq_some_iff.mp read
    dsimp only at header
    split at header
    · obtain ⟨root, opened, built⟩ := Option.bind_eq_some_iff.mp header
      cases built
      exact Table.puts_openTable? path key opened
    · cases header

/-- **One line puts one value into the document.** -/
theorem root_of_readLine? {draft next : Draft} {text rest : List Char}
    (read : readLine? draft text = some (next, rest)) :
    ∃ key value, next.root = draft.root.put key value := by
  unfold readLine? at read
  split at read
  · exact root_of_readHeader? read
  · split at read
    · rename_i path key value after _
      obtain ⟨assigned, changed, built⟩ := Option.map_eq_some_iff.mp read
      cases built
      obtain ⟨root, inserted, rfl⟩ := Option.map_eq_some_iff.mp changed
      exact Table.puts_change? (Table.puts_insert? path key value) false draft.place inserted
    · cases read

theorem distinct_of_readLines? {draft last : Draft} {fuel : Nat} {text : List Char}
    (read : readLines? draft fuel text = some last) (distinct : draft.root.Distinct) :
    last.root.Distinct := by
  induction fuel generalizing draft text with
  | zero => cases read
  | succ fuel ih =>
    unfold readLines? at read
    split at read
    · cases read
    · cases read
      exact distinct
    · split at read
      · cases read
      · rename_i next rest line
        split at read
        · cases read
        · obtain ⟨key, value, changed⟩ := root_of_readLine? line
          refine ih read ?_
          rw [changed]
          exact Table.distinct_put distinct key value

/-- **In a document that was read every key stands once.** -/
theorem distinct_of_parse? {text : List Char} {table : Table} (parsed : parse? text = some table) :
    table.Distinct := by
  obtain ⟨last, read, rfl⟩ := Option.map_eq_some_iff.mp parsed
  exact distinct_of_readLines? read List.nodup_nil

end LiquidHover.Toml
