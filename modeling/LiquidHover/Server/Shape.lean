/-
**Shapes of parameters.** What the parameters of a message have to look like. A record may be written
as an object, or as a row of its fields in their order; a message is an object only.

* `Shape` — what a value has to look like.
* `Shape.admits` — whether a value does.
* `Shape.named?` — a record with its fields under their names, however it was written.
-/
import LiquidHover.Json.Basic
import LiquidHover.Number.Decimal
import LiquidHover.Session.Uri

namespace LiquidHover

/-- Whether a field of a record has to be there. -/
inductive Presence where
  | required
  /-- The field may be null, and an object may leave it out. -/
  | optional
  /-- The field may be null and may be left out, also at the end of a row. -/
  | trailing
  /-- The field may be left out and may not be null. -/
  | defaulted
  deriving DecidableEq, Repr

namespace Presence

/-- Whether an object may leave out a field. -/
def mayMiss (presence : Presence) : Bool := presence != .required

/-- Whether a field may be null. -/
def mayBeNull : Presence → Bool
  | .optional | .trailing => true
  | .required | .defaulted => false

/-- Whether a row may end in front of a field. -/
def mayEnd : Presence → Bool
  | .trailing | .defaulted => true
  | .required | .optional => false

end Presence

/-- What a value has to look like. -/
inductive Shape where
  | anything
  | nothing
  | flag
  /-- A natural number of 32 bits. -/
  | word
  /-- A whole number of 32 bits with a sign. -/
  | signed
  /-- A whole number of 64 bits with a sign. -/
  | long
  | number
  | text
  /-- One text and no other. -/
  | literal (value : String)
  /-- The address of a document. -/
  | address
  /-- One of some names, alone or as the only field of an object, with null. -/
  | oneOf (names : List String)
  /-- An array. -/
  | items (item : Shape)
  /-- An array of two items. -/
  | pair (item : Shape)
  /-- An object with any names. -/
  | entries (value : Shape)
  /-- An object whose names are addresses. -/
  | addressed (value : Shape)
  /-- A record, as an object or as a row. Names of no field are ignored. -/
  | record (fields : List (String × Presence × Shape))
  /-- A record as an object. Names of no field are ignored. -/
  | message (fields : List (String × Presence × Shape))
  /-- A record as an object in which names of no field have values of one shape. -/
  | extended (fields : List (String × Presence × Shape)) (others : Shape)
  | either (first second : Shape)
  deriving Inhabited

namespace Shape

/-- A field that has to be there. -/
def field (name : String) (shape : Shape) : String × Presence × Shape := (name, .required, shape)

/-- A field that may be left out or null. -/
def maybe (name : String) (shape : Shape) : String × Presence × Shape := (name, .optional, shape)

/-- Whether a value is one of some names. -/
def isOneOf (names : List String) : Json → Bool
  | .string name => names.contains name
  | .object [(name, .null)] => names.contains name
  | _ => false

/-- Whether a value is null. -/
def isNull : Json → Bool
  | .null => true
  | _ => false

/-- The names of the fields. -/
def fieldNames (fields : List (String × Presence × Shape)) : List String := fields.map (·.1)

mutual

/-- Whether a value has a shape. -/
def admits : Shape → Json → Bool
  | .anything, _ => true
  | .nothing, json => isNull json
  | .flag, json => match json with
    | .bool _ => true
    | _ => false
  | .word, json => match json with
    | .int value => Number.fitsWord32 value
    | _ => false
  | .signed, json => match json with
    | .int value => Number.fitsSigned32 value
    | _ => false
  | .long, json => match json with
    | .int value => Number.fitsSigned64 value
    | _ => false
  | .number, json => match json with
    | .int _ | .double _ => true
    | _ => false
  | .text, json => match json with
    | .string _ => true
    | _ => false
  | .literal value, json => match json with
    | .string other => other == value
    | _ => false
  | .address, json => match json with
    | .string uri => Uri.isValid uri
    | _ => false
  | .oneOf names, json => isOneOf names json
  | .items item, json => match json with
    | .array held => held.all fun value => admits item value
    | _ => false
  | .pair item, json => match json with
    | .array [first, second] => admits item first && admits item second
    | _ => false
  | .entries value, json => match json with
    | .object held => held.all fun (_, entry) => admits value entry
    | _ => false
  | .addressed value, json => match json with
    | .object held => held.all fun (name, entry) => Uri.isValid name && admits value entry
    | _ => false
  | .record fields, json => match json with
    | .object held => admitsFields fields held
    | .array row => admitsRow fields row
    | _ => false
  | .message fields, json => match json with
    | .object held => admitsFields fields held
    | _ => false
  | .extended fields others, json => match json with
    | .object held =>
      admitsFields fields held
        && held.all fun (name, entry) => (fieldNames fields).contains name || admits others entry
    | _ => false
  | .either first second, json => admits first json || admits second json

/-- Whether the fields of an object have the shapes of a record's fields. -/
def admitsFields : List (String × Presence × Shape) → List (String × Json) → Bool
  | [], _ => true
  | (name, presence, shape) :: fields, held =>
    (match held.lookup name with
      | none => presence.mayMiss
      | some value => (presence.mayBeNull && isNull value) || admits shape value)
      && admitsFields fields held

/-- Whether the values of a row have the shapes of a record's fields. -/
def admitsRow : List (String × Presence × Shape) → List Json → Bool
  | [], row => row.isEmpty
  | (_, presence, _) :: fields, [] => presence.mayEnd && admitsRow fields []
  | (_, presence, shape) :: fields, value :: row =>
    ((presence.mayBeNull && isNull value) || admits shape value) && admitsRow fields row

end

/-- The names of a record's fields, in their order. -/
def names : Shape → List String
  | .record fields | .message fields | .extended fields _ => fieldNames fields
  | _ => []

/-- A value of a record's shape with its fields under their names. -/
def named? (shape : Shape) (json : Json) : Option Json :=
  if shape.admits json then
    match json with
    | .array row => some (Json.ofFields (shape.names.zip row))
    | json => some json
  else none

end Shape

end LiquidHover
