/-
**JSON values.** The fields of an object are kept in the order of their names, and a name occurs
once: writing a field a second time replaces its value.

* `Json` — a value.
* `Json.ofFields` — an object of fields in any order.
* `Json.field?` — reading one field of an object.
-/
import LiquidHover.Keyed
import LiquidHover.Number.Double

namespace LiquidHover

/-- A JSON value. Whole numbers are kept exactly. -/
inductive Json where
  | null
  | bool (value : Bool)
  | int (value : Int)
  | double (value : Double)
  | string (value : String)
  | array (items : List Json)
  | object (fields : List (String × Json))
  deriving Repr, Inhabited

namespace Json

/-- An object of the given fields; of two fields with one name the later counts. -/
def ofFields (fields : List (String × Json)) : Json :=
  .object (fields.foldl (fun sorted (name, value) => Keyed.insert name value sorted) [])

/-- The value of a field of an object. -/
def field? (name : String) : Json → Option Json
  | .object fields => fields.lookup name
  | _ => none

end Json

end LiquidHover
