/-
**Loading settings.** The layers, from the lowest to the highest: the user's configuration, the two
configuration files of the project, and the settings that the editor sends. Only the merged value of
a setting has to be of its type.

* `Error` — why settings cannot be loaded.
* `toFlag?`, `toCount?` — what values stand for a Boolean and for a number.
* `ofLayer` — the settings that merged layers give.
* `ofEditor` — the settings from the editor alone.
* `load` — the settings of a project.
-/
import LiquidHover.Files.Basic
import LiquidHover.Json.Printer
import LiquidHover.Json.Reader
import LiquidHover.Number.Decimal
import LiquidHover.Settings.Basic
import LiquidHover.Settings.Layer
import LiquidHover.Toml.Reader

namespace LiquidHover.Settings

/-- Why settings cannot be loaded. -/
inductive Error where
  /-- A source is not well-formed, or a value is not of its setting's type. -/
  | invalid
  /-- The editor's settings are not JSON. -/
  | unreadable
  /-- The editor's settings hold a null below the top level. -/
  | unwritable
  deriving DecidableEq, Repr

/-- The text of an error. -/
def Error.message : Error → String
  | .invalid => "Configuration build/deserialize error"
  | .unreadable => "Failed to parse client settings JSON"
  | .unwritable => "Failed to convert client settings to TOML"

/-! ### Values of settings -/

/-- A text with small letters for its capitals. -/
def lowerCase (text : String) : String := String.ofList (text.toList.map Char.toLower)

/-- The number of a text of decimal digits, perhaps after a plus sign, within 64 bits. -/
def wordOf? (text : String) : Option Nat :=
  let digits := if text.toList.head? = some '+' then text.toList.tail else text.toList
  let value := Number.decimalValue digits
  if Number.isDecimal digits && value ≤ Number.maxWord64 then some value else none

/-- The Boolean for which a word stands. -/
def flagWord? (text : String) : Option Bool :=
  if lowerCase text ∈ ["true", "on", "yes"] then some true
  else if lowerCase text ∈ ["false", "off", "no"] then some false
  else none

/-- The Boolean for which a value stands: numbers are true unless they are zero. -/
def toFlag? : Given → Option Bool
  | .scalar (.boolean value) => some value
  | .scalar (.integer value) => some (value != 0)
  | .scalar (.float value) => some (!value.isZero)
  | .scalar (.string text) =>
    if text = "1" then some true else if text = "0" then some false else flagWord? text
  | .scalar (.moment _) | .compound => none

/-- The natural number for which a value stands. Doubles are rounded and clamped. -/
def toCount? : Given → Option Nat
  | .scalar (.boolean value) => some value.toNat
  | .scalar (.integer value) => if 0 ≤ value then some value.toNat else none
  | .scalar (.float value) => some value.toWord
  | .scalar (.string text) =>
    match flagWord? text with
    | some value => some value.toNat
    | none => wordOf? text
  | .scalar (.moment _) | .compound => none

/-! ### From layers to settings -/

/-- The value that a layer gives to a setting, if it gives one; an error when it uses both of its
names. -/
def given? (layer : Layer) (key : Key) : Except Error (Option Given) :=
  match layer.lookup key.name, key.camelName?.bind (layer.lookup ·) with
  | some _, some _ => .error .invalid
  | some given, none | none, some given => .ok (some given)
  | none, none => .ok none

/-- The value of a setting, converted, or its default. -/
def valueOf {α : Type} (convert? : Given → Option α) (fallback : α) (layer : Layer) (key : Key) :
    Except Error α := do
  match ← given? layer key with
  | none => return fallback
  | some given =>
    match convert? given with
    | some value => return value
    | none => throw .invalid

/-- The settings that a merged layer gives. Names of no setting are ignored. -/
def ofLayer (layer : Layer) : Except Error Settings := do
  let fallback : Settings := {}
  return {
    enabled := ← valueOf toFlag? fallback.enabled layer .enabled
    enableFilterHover := ← valueOf toFlag? fallback.enableFilterHover layer .enableFilterHover
    enableTagHover := ← valueOf toFlag? fallback.enableTagHover layer .enableTagHover
    showTypes := ← valueOf toFlag? fallback.showTypes layer .showTypes
    showDescription := ← valueOf toFlag? fallback.showDescription layer .showDescription
    showDeprecatedWarnings :=
      ← valueOf toFlag? fallback.showDeprecatedWarnings layer .showDeprecatedWarnings
    showFilterParameters :=
      ← valueOf toFlag? fallback.showFilterParameters layer .showFilterParameters
    showFilterExamples := ← valueOf toFlag? fallback.showFilterExamples layer .showFilterExamples
    showTagExamples := ← valueOf toFlag? fallback.showTagExamples layer .showTagExamples
    maxProperties := ← valueOf toCount? fallback.maxProperties layer .maxProperties
    debug := ← valueOf toFlag? fallback.debug layer .debug }

/-! ### Sources -/

/-- The layer of the editor's settings. What is not an object gives no layer. -/
def editorLayer (overrides : Json) : Except Error Layer :=
  match overrides with
  | .object fields =>
    let kept := normalize fields
    if hasNullField kept then .error .unwritable
    else if fieldsFitSigned kept ∧ headerFieldsDepth kept ≤ Toml.depthLimit
        ∧ headerFieldsLength kept ≤ Toml.partLimit then
      .ok (ofOverrides fields)
    else .error .invalid
  | _ => .ok []

/-- What the log says about editor settings that are not an object. -/
def editorNotice? : Json → Option String
  | .object _ => none
  | overrides => some ("Ignoring client settings that are not an object: " ++ overrides.compact)

/-- The text of a configuration file, which is read without its byte order mark. Broken sequences are
replaced, so they do no harm in a comment or a string. -/
def fileText (bytes : List UInt8) : List Char := Text.dropMark (Text.decodeLossy bytes)

/-- The layer of the content of a configuration file. -/
def fileLayer (bytes : List UInt8) : Except Error Layer :=
  match Toml.parse? (fileText bytes) with
  | some table => .ok (ofTable table)
  | none => .error .invalid

/-- The path that is read when there is no file at a path. -/
def secondPath (path : String) : String := path ++ ".toml"

/-- The layer of the configuration file at a path. When there is no such file, the file with `.toml`
after its name counts, and without either there is nothing in the layer. -/
def pathLayer (disk : Disk) (path : String) : Except Error Layer :=
  match (Files.content? disk path).or (Files.content? disk (secondPath path)) with
  | some bytes => fileLayer bytes
  | none => .ok []

/-- The configuration files of a project, the lower one first. -/
def projectPaths (root : String) : List String :=
  [Files.joinPath root ".lqls.toml", Files.joinPath root "lqls.toml"]

/-- All configuration files for a project, from the lowest to the highest. -/
def configPaths (disk : Disk) (root : String) : List String :=
  disk.userConfig.toList ++ projectPaths root

/-- The settings from the editor alone. -/
def ofEditor (overrides : Json) : Except Error Settings := do
  ofLayer (merge [] (← editorLayer overrides))

/-- The settings of a project. -/
def load (disk : Disk) (root : String) (overrides : Option Json) : Except Error Settings := do
  let top ← match overrides with
    | some json => editorLayer json
    | none => .ok []
  let layers ← (configPaths disk root).mapM (pathLayer disk)
  ofLayer ((layers ++ [top]).foldl merge [])

/-- The editor's settings from their JSON text. -/
def parseOverrides (text : String) : Except Error Json :=
  match Json.parse? text with
  | some json => .ok json
  | none => .error .unreadable

end LiquidHover.Settings
