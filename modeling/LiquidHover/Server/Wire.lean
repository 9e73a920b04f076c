/-
**Messages on the wire.** The parameters of an editor's messages and the answers to them, as JSON.
Parameters that are not of the expected shape give no event.

* `introduction?`, `hovered?` — the parameters of the questions that are answered.
* `ready?`, `opened?`, `changed?`, `closed?`, `configured?` — the parameters of the reports.
* `encodeAnswer` — an answer as the result of a request.
-/
import LiquidHover.Server.Shape.Ability
import LiquidHover.Server.Shape.Question
import LiquidHover.Session.Event

namespace LiquidHover.Wire

/-! ### Reading -/

def string? : Json → Option String
  | .string value => some value
  | _ => none

def int? : Json → Option Int
  | .int value => some value
  | _ => none

/-- A number that counts something. -/
def nat? (json : Json) : Option Nat := (int? json).map Int.toNat

/-- The items of an array, each read by `read?`. -/
def list? {α : Type} (read? : Json → Option α) : Json → Option (List α)
  | .array items => items.mapM read?
  | _ => none

/-- A field that has to be there. -/
def required? {α : Type} (read? : Json → Option α) (name : String) (json : Json) : Option α :=
  (json.field? name).bind read?

/-- A field that may be missing or null. -/
def optional? {α : Type} (read? : Json → Option α) (name : String) (json : Json) :
    Option (Option α) :=
  match json.field? name with
  | none | some .null => some none
  | some value => (read? value).map some

/-- A place in a document. -/
def position? (json : Json) : Option Position := do
  let json ← Shape.position.named? json
  let line ← required? nat? "line" json
  let column ← required? nat? "character" json
  return { line, column }

/-- A stretch of a document. -/
def range? (json : Json) : Option Range := do
  let json ← Shape.range.named? json
  let start ← required? position? "start" json
  let stop ← required? position? "end" json
  return { start, stop }

/-- A change of a document. -/
def change? (json : Json) : Option Change := do
  let json ← Shape.change.named? json
  let range ← optional? range? "range" json
  let text ← required? string? "text" json
  return { range, text }

/-- What an editor can do, with the encodings that it offers. -/
def capabilities? (json : Json) : Option Capabilities := do
  let abilities ← Shape.abilities.named? json
  match ← optional? Shape.generalAbility.named? "general" abilities with
  | none => return { sent := json }
  | some general =>
    let encodings ← optional? (list? string?) "positionEncodings" general
    return { encodings := encodings.getD [], sent := json }

/-- The address of a folder. -/
def folder? (json : Json) : Option String := do
  required? string? "uri" (← Shape.folder.named? json)

/-- How an editor introduces itself. -/
def introduction? (json : Json) : Option Introduction := do
  let json ← Shape.introduction.named? json
  let capabilities ← required? capabilities? "capabilities" json
  let folders ← optional? (list? folder?) "workspaceFolders" json
  return { capabilities with
    folders := folders.getD [], options := json.field? "initializationOptions" }

/-- The address of a document. -/
def documentUri? (json : Json) : Option String := do
  required? string? "uri" (← Shape.document.named? json)

/-- The editor is ready for work. -/
def ready? (json : Json) : Option Event := (Shape.ready.named? json).map fun _ => .ready

/-- A document that was opened. -/
def opened? (json : Json) : Option Event := do
  let json ← Shape.opened.named? json
  let item ← required? Shape.documentItem.named? "textDocument" json
  let uri ← required? string? "uri" item
  let language ← required? string? "languageId" item
  let version ← required? int? "version" item
  let text ← required? string? "text" item
  return .opened uri language { text, version }

/-- A document that was changed. -/
def changed? (json : Json) : Option Event := do
  let json ← Shape.changed.named? json
  let document ← required? Shape.versionedDocument.named? "textDocument" json
  let uri ← required? string? "uri" document
  let version ← required? int? "version" document
  let changes ← required? (list? change?) "contentChanges" json
  return .changed uri version changes

/-- A document that was closed. -/
def closed? (json : Json) : Option Event := do
  let json ← Shape.closed.named? json
  return .closed (← required? documentUri? "textDocument" json)

/-- The settings after a change of the editor's configuration. -/
def configured? (json : Json) : Option Event := do
  let json ← Shape.configured.named? json
  return .configured (← json.field? "settings")

/-- A question for a hover. -/
def hovered? (json : Json) : Option Event := do
  let json ← Shape.hovered.named? json
  let uri ← required? documentUri? "textDocument" json
  let position ← required? position? "position" json
  return .hovered uri position

/-! ### Writing -/

/-- A place in a document. -/
def encodePosition (position : Position) : Json :=
  Json.ofFields [("line", .int position.line), ("character", .int position.column)]

/-- A hover. -/
def encodeHover (hover : PlacedHover) : Json :=
  Json.ofFields
    [ ("contents",
        Json.ofFields [("kind", .string "markdown"), ("value", .string hover.markdown)]),
      ("range",
        Json.ofFields
          [("start", encodePosition hover.range.start), ("end", encodePosition hover.range.stop)]) ]

/-- What the server can do: hovers, for documents that are sent as a whole at every change. -/
def encodeAbilities (encoding : Encoding) : Json :=
  Json.ofFields
    [ ("capabilities",
        Json.ofFields
          [ ("hoverProvider", .bool true), ("positionEncoding", .string encoding.name),
            ("textDocumentSync", .int 1) ]),
      ("serverInfo",
        Json.ofFields
          [("name", .string "Liquid Language Server"), ("version", .string "0.0.0")]) ]

/-- An answer as the result of a request. -/
def encodeAnswer : Answer → Json
  | .silence | .notice _ | .goodbye => .null
  | .abilities encoding => encodeAbilities encoding
  | .hover none => .null
  | .hover (some hover) => encodeHover hover

end LiquidHover.Wire
