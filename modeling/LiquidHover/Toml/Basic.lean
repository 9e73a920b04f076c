/-
**TOML documents.** A document is a table of named values. Which later line may add to a table depends
on how the table came about, so a table remembers its origin.

* `Scalar`, `Node`, `Table` — the values of a document.
* `Table.change?` — a change at the end of a path, creating the tables on the way.
* `Table.insert?`, `Table.openTable?`, `Table.pushTable?` — what a line `key = value`, a header `[key]`
  and a header `[[key]]` do; none when the line would define something twice.
-/
import LiquidHover.Number.Double

namespace LiquidHover.Toml

/-- A value that holds no others. -/
inductive Scalar where
  | string (value : String)
  | integer (value : Int)
  | float (value : Double)
  | boolean (value : Bool)
  /-- A date, a time or both, as it is written. -/
  | moment (text : String)
  deriving DecidableEq, Repr

/-- How a table came about. -/
inductive Origin where
  /-- By a header of its own, as an element of an array of tables, or as the document. -/
  | header
  /-- On the way to the table of a longer header. -/
  | implied
  /-- On the way to the last part of a dotted key. -/
  | dotted
  /-- As a value in braces; nothing can be added to it later. -/
  | inline
  deriving DecidableEq, Repr

/-- The origin of a table after a path has led through it: a dotted key claims the tables that so far
were only implied, and no header can open them later. -/
def Origin.claimed (dotted : Bool) : Origin → Origin
  | .implied => if dotted then .dotted else .implied
  | origin => origin

/-- A value of a document. -/
inductive Node where
  | scalar (value : Scalar)
  | array (items : List Node)
  /-- An array of tables that headers have built, the latest table first. -/
  | tables (elements : List (List (String × Node)))
  | table (origin : Origin) (entries : List (String × Node))
  deriving Repr, Inhabited

/-- A table with its entries in the order in which they were written. -/
structure Table where
  origin : Origin
  entries : List (String × Node)
  deriving Repr

namespace Table

/-- The table as a value. -/
def toNode (table : Table) : Node := .table table.origin table.entries

/-- The value of a key. -/
def get? (table : Table) (key : String) : Option Node := table.entries.lookup key

/-- The table with the value of a key replaced or added. -/
def put (table : Table) (key : String) (value : Node) : Table :=
  if (table.get? key).isSome then
    { table with
      entries := table.entries.map fun (name, held) => (name, if name = key then value else held) }
  else { table with entries := table.entries ++ [(key, value)] }

/-- Whether a path may lead through a table. A dotted key may not reach into a table that has a header
of its own. -/
def admits (dotted : Bool) : Origin → Bool
  | .header => !dotted
  | .implied | .dotted => true
  | .inline => false

/-- The table with the one at the end of `path` changed. Tables that are missing on the way are
created, and of an array of tables the latest one is entered. -/
def change? (dotted : Bool) (change : Table → Option Table) : List String → Table → Option Table
  | [], table => change table
  | key :: path, table =>
    match table.get? key with
    | none => do
      let child ← change? dotted change path ⟨if dotted then .dotted else .implied, []⟩
      return table.put key child.toNode
    | some (.table origin entries) =>
      if admits dotted origin then do
        let child ← change? dotted change path ⟨origin.claimed dotted, entries⟩
        return table.put key child.toNode
      else none
    | some (.tables (latest :: earlier)) => do
      let child ← change? dotted change path ⟨.header, latest⟩
      return table.put key (.tables (child.entries :: earlier))
    | some _ => none

/-- The table with a value added under a key that may be dotted: `path` is what stands before the last
point. -/
def insert? (table : Table) (path : List String) (key : String) (value : Node) : Option Table :=
  table.change? true (fun parent =>
    if (parent.origin = .dotted) ↔ path ≠ [] then
      match parent.get? key with
      | some _ => none
      | none => some (parent.put key value)
    else none) path

/-- The table with a header `[path.key]` opened in it. -/
def openTable? (table : Table) (path : List String) (key : String) : Option Table :=
  table.change? false (fun parent =>
    match parent.get? key with
    | none => some (parent.put key (.table .header []))
    | some (.table .implied entries) => some (parent.put key (.table .header entries))
    | some _ => none) path

/-- The table with a header `[[path.key]]` opened in it. -/
def pushTable? (table : Table) (path : List String) (key : String) : Option Table :=
  table.change? false (fun parent =>
    match parent.get? key with
    | none => some (parent.put key (.tables [[]]))
    | some (.tables elements) => some (parent.put key (.tables ([] :: elements)))
    | some _ => none) path

end Table

end LiquidHover.Toml
