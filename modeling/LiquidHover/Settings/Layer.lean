/-
**Layers of settings.** Settings come from configuration files and from the editor. Each source is a
layer of named values, and a later layer is laid over the earlier ones.

* `Given` — a value as far as settings can tell values apart.
* `pathRoot?` — the first name of a key such as `a.b` or `a[0]`, which reaches into a value.
* `merge` — one layer over another.
* `ofTable`, `ofOverrides` — the layers of a file and of the editor's settings.
-/
import LiquidHover.Json.Basic
import LiquidHover.Number.Decimal
import LiquidHover.Settings.Key
import LiquidHover.Toml.Basic

namespace LiquidHover.Settings

/-- A value that a source gives to a name. -/
inductive Given where
  | scalar (value : Toml.Scalar)
  /-- A table or an array, none of which is the value of a setting. -/
  | compound
  deriving DecidableEq, Repr

/-- The named values of a source, or of several sources laid over each other. -/
abbrev Layer := List (String × Given)

/-! ### Names that reach into a value -/

/-- Whether a character may stand in a name of a path. -/
def isPathChar (c : Char) : Bool := c.isAlphanum || c == '_' || c == '-'

/-- Whether a text between brackets is an index: digits, perhaps with a minus sign and with spaces and
tabs around, within 64 bits. -/
def isIndex (text : List Char) : Bool :=
  let isSpace (c : Char) : Bool := c == ' ' || c == '\t'
  let body := ((text.dropWhile isSpace).reverse.dropWhile isSpace).reverse
  let negative := body.head? == some '-'
  let digits := if negative then body.tail else body
  let size := Number.decimalValue digits
  Number.isDecimal digits && Number.fitsSigned64 (if negative then -(size : Int) else size)

/-- Whether a text is a row of names after points and indices between brackets. Each round reads at
least one character, so `fuel` is more than the length of the text. -/
def isPathTail : (fuel : Nat) → List Char → Bool
  | 0, _ => false
  | fuel + 1, text =>
    match text with
    | [] => true
    | '.' :: rest => rest.head?.any isPathChar && isPathTail fuel (rest.dropWhile isPathChar)
    | '[' :: rest =>
      match rest.dropWhile (· != ']') with
      | _ :: after => isIndex (rest.takeWhile (· != ']')) && isPathTail fuel after
      | [] => false
    | _ => false

/-- The first name of a key that reaches into a value. -/
def pathRoot? (key : String) : Option String :=
  let text := key.toList
  let root := text.takeWhile isPathChar
  let tail := text.dropWhile isPathChar
  if !root.isEmpty && !tail.isEmpty && isPathTail (tail.length + 1) tail then
    some (String.ofList root)
  else none

/-! ### Laying layers over each other -/

/-- The layer with one value set. A key that reaches into a value makes the value a table or an
array. -/
def set (layer : Layer) (key : String) (given : Given) : Layer :=
  match pathRoot? key with
  | some root => Keyed.insert root .compound layer
  | none => Keyed.insert key given layer

/-- The values of `upper` laid over `lower`. -/
def merge (lower upper : Layer) : Layer :=
  upper.foldl (fun layer (key, given) => set layer key given) lower

/-! ### The layers of the sources -/

/-- The value of a setting that a file gives. -/
def ofNode : Toml.Node → Given
  | .scalar value => .scalar value
  | .array _ | .tables _ | .table _ _ => .compound

/-- The layer of a configuration file. -/
def ofTable (table : Toml.Table) : Layer :=
  table.entries.map fun (key, node) => (key, ofNode node)

/-- The fields of the editor's settings without those that are null, under names with underscores. Of
several fields with one such name the one that comes last in the order of the fields counts. -/
def normalize (fields : List (String × Json)) : List (String × Json) :=
  fields.foldl (fun kept (name, value) =>
    match value with
    | .null => kept
    | value => Keyed.insert (snakeCase name) value kept) []

/-- The value of a setting that the editor gives. -/
def ofJson : Json → Given
  | .bool value => .scalar (.boolean value)
  | .int value => .scalar (.integer value)
  | .double value => .scalar (.float value)
  | .string value => .scalar (.string value)
  | .null | .array _ | .object _ => .compound

/-- The layer of the editor's settings. -/
def ofOverrides (fields : List (String × Json)) : Layer :=
  (normalize fields).map fun (key, value) => (key, ofJson value)

/-! ### What the editor's settings may hold -/

mutual

/-- Whether a null occurs in a value. -/
def hasNull : Json → Bool
  | .null => true
  | .array items => hasNullItem items
  | .object fields => hasNullField fields
  | .bool _ | .int _ | .double _ | .string _ => false

def hasNullItem : List Json → Bool
  | [] => false
  | item :: items => hasNull item || hasNullItem items

def hasNullField : List (String × Json) → Bool
  | [] => false
  | (_, value) :: fields => hasNull value || hasNullField fields

end

mutual

/-- Whether every whole number in a value fits 64 bits with a sign. -/
def fitsSigned : Json → Bool
  | .int value => value ≤ Number.maxSigned64
  | .array items => fitSigned items
  | .object fields => fieldsFitSigned fields
  | .null | .bool _ | .double _ | .string _ => true

def fitSigned : List Json → Bool
  | [] => true
  | item :: items => fitsSigned item && fitSigned items

def fieldsFitSigned : List (String × Json) → Bool
  | [] => true
  | (_, value) :: fields => fitsSigned value && fieldsFitSigned fields

end

mutual

/-- The levels of brackets and braces of a value that is written on one line. -/
def inlineDepth : Json → Nat
  | .array items => itemsDepth items + 1
  | .object fields => fieldsDepth fields + 1
  | .null | .bool _ | .int _ | .double _ | .string _ => 0

def itemsDepth : List Json → Nat
  | [] => 0
  | item :: items => max (inlineDepth item) (itemsDepth items)

def fieldsDepth : List (String × Json) → Nat
  | [] => 0
  | (_, value) :: fields => max (inlineDepth value) (fieldsDepth fields)

end

/-- Whether a value is an object. -/
def isObject : Json → Bool
  | .object _ => true
  | _ => false

/-- Whether a value is written under a header of its own: an object, or an array of nothing but
objects. -/
def hasHeader : Json → Bool
  | .object _ => true
  | .array items => !items.isEmpty && items.all isObject
  | .null | .bool _ | .int _ | .double _ | .string _ => false

mutual

/-- The levels of brackets and braces of a value, when what has a header of its own needs none. -/
def headerDepth : Json → Nat
  | .object fields => headerFieldsDepth fields
  | .array items =>
    if !items.isEmpty && items.all isObject then headerItemsDepth items
    else inlineDepth (.array items)
  | .null | .bool _ | .int _ | .double _ | .string _ => 0

def headerItemsDepth : List Json → Nat
  | [] => 0
  | item :: items => max (headerDepth item) (headerItemsDepth items)

def headerFieldsDepth : List (String × Json) → Nat
  | [] => 0
  | (_, value) :: fields => max (headerDepth value) (headerFieldsDepth fields)

end

mutual

/-- The number of parts that the longest header inside a value adds to the header of the value. -/
def headerLength : Json → Nat
  | .object fields => headerFieldsLength fields
  | .array items => if items.all isObject then headerItemsLength items else 0
  | .null | .bool _ | .int _ | .double _ | .string _ => 0

def headerItemsLength : List Json → Nat
  | [] => 0
  | item :: items => max (headerLength item) (headerItemsLength items)

/-- The number of parts of the longest header for the fields of an object. -/
def headerFieldsLength : List (String × Json) → Nat
  | [] => 0
  | (_, value) :: fields =>
    max (if hasHeader value then headerLength value + 1 else 0) (headerFieldsLength fields)

end

end LiquidHover.Settings
