/-
**Sessions.** The state of a conversation with one editor: the project, the settings, the open
documents, the agreed encoding, and the hovers that were given.

* `Session.setRoot`, `Session.setOverrides`, `Session.setEncoding`, `Session.setCapabilities` — one part
  of the state replaced.
* `Session.computed?` — the hover for a position, from documents and settings alone.
* `Session.hover` — the same hover, from the cache if it is there.
* `Session.reload` — the settings read again; when that fails the defaults hold.
-/
import LiquidHover.Catalog.Shopify
import LiquidHover.Session.Cache
import LiquidHover.Session.Document
import LiquidHover.Settings.Load

namespace LiquidHover

/-- The number of hovers that a session keeps. -/
def hoverCapacity : Nat := 100

/-- What an editor can do. -/
structure Capabilities where
  /-- The names of the encodings that the editor offers. -/
  encodings : List String := []
  /-- The whole of what the editor says about itself, which is kept as it was sent. -/
  sent : Json := .null
  deriving Repr

/-- The state of a conversation with an editor. -/
structure Session where
  /-- The directory of the project. -/
  root : Option String := none
  settings : Settings := {}
  /-- The settings that the editor sent last. -/
  overrides : Option Json := none
  documents : Store := {}
  cache : Cache := { capacity := hoverCapacity }
  encoding : Encoding := .utf16
  /-- What the editor can do, once it has introduced itself. -/
  capabilities : Option Capabilities := none

/-- A result, what the log says about it, and the session afterwards. -/
structure Outcome (α : Type) where
  value : α
  log : List LogEntry
  session : Session

namespace Session

/-- The session of a project in another directory, or of none. The settings stay as they are. -/
def setRoot (session : Session) (root : Option String) : Session := { session with root }

/-- The session with other settings of the editor, which take effect when settings are read again. -/
def setOverrides (session : Session) (overrides : Option Json) : Session :=
  { session with overrides }

/-- The session with another encoding. The cached hovers stay as they are. -/
def setEncoding (session : Session) (encoding : Encoding) : Session := { session with encoding }

/-- The session with what the editor can do. -/
def setCapabilities (session : Session) (capabilities : Capabilities) : Session :=
  { session with capabilities := some capabilities }

/-- The session without the cached hovers of a document. -/
def forget (session : Session) (uri : String) : Session :=
  { session with cache := session.cache.forget uri }

/-- The settings that the project and the editor give now. -/
def currentSettings (session : Session) (disk : Disk) : Except Settings.Error Settings :=
  match session.root, session.overrides with
  | some root, overrides => Settings.load disk root overrides
  | none, some overrides => Settings.ofEditor overrides
  | none, none => .ok {}

/-- The session with its settings read again and its cache emptied. -/
def reload (session : Session) (disk : Disk) : Outcome Unit :=
  let notice := (session.overrides.bind Settings.editorNotice?).toList.map LogEntry.warning
  let (settings, failure) : Settings × List LogEntry := match session.currentSettings disk with
    | .ok settings => (settings, [])
    | .error error =>
      ({}, [.warning ("Failed to load settings, using defaults: " ++ error.message)])
  { value := ()
    log := notice ++ failure ++ [.debug "Settings reloaded"]
    session := { session with settings, cache := session.cache.clear } }

/-- The line of an open document at a position, and the offset of the position in it. -/
def locate? (session : Session) (uri : String) (position : Position) :
    Option (List Char × Nat) := do
  let document ← session.documents.get? uri
  let line ← document.line? position.line
  let offset ← session.encoding.offsetOf? line position.column
  return (line, offset)

/-- The hover for a position, from documents and settings alone. -/
def computed? (session : Session) (uri : String) (position : Position) : Option PlacedHover := do
  let (line, offset) ← session.locate? uri position
  let hover ← Hover.at? Catalog.shopify session.settings line offset
  return hover.place line position.line session.encoding

/-- What the log says about a hover that is computed. -/
def hoverLog (session : Session) (uri : String) (position : Position) : List LogEntry :=
  match session.locate? uri position with
  | none => []
  | some (line, offset) =>
    let tried := Hover.tried Catalog.shopify (Hover.targets session.settings line offset)
    let covered := match Hover.at? Catalog.shopify session.settings line offset with
      | some hover =>
        if session.settings.debug then
          [.info ("Hover at " ++ toString position.line ++ ":" ++ toString position.column
            ++ " covers characters " ++ toString hover.range.start ++ ".."
            ++ toString hover.range.stop)]
        else []
      | none => []
    tried.map (fun target => .debug (target.message offset)) ++ covered

/-- The key under which a hover for a position is kept. -/
def cacheKey? (session : Session) (uri : String) (position : Position) : Option CacheKey :=
  (session.documents.get? uri).map fun document => ⟨uri, document.version, position⟩

/-- The hover for a position. A hover that was found is kept in the cache. -/
def hover (session : Session) (uri : String) (position : Position) :
    Outcome (Option PlacedHover) :=
  match session.cacheKey? uri position with
  | none => ⟨none, [], session⟩
  | some key =>
    match session.cache.get? key with
    | some hover => ⟨some hover, [], session⟩
    | none =>
      let log := session.hoverLog uri position
      match session.computed? uri position with
      | some hover =>
        ⟨some hover, log, { session with cache := session.cache.insert key hover }⟩
      | none => ⟨none, log, session⟩

end Session

end LiquidHover
