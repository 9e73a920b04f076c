/-
**Events of a session.** What an editor tells and asks, and how a session goes on from there.

* `Event` — one message of the editor.
* `Session.step` — the answer to a message and the session afterwards.
* `Session.run` — a row of messages, each with the files as they are at that moment.
-/
import LiquidHover.Session.Basic

namespace LiquidHover

/-- How an editor introduces itself. -/
structure Introduction extends Capabilities where
  /-- The addresses of the folders that are open in the editor. -/
  folders : List String := []
  /-- The editor's settings. -/
  options : Option Json := none

/-- One message of an editor. -/
inductive Event where
  | introduced (introduction : Introduction)
  /-- The editor is ready for work. -/
  | ready
  | opened (uri language : String) (edition : Edition)
  | changed (uri : String) (version : Int) (changes : List Change)
  | closed (uri : String)
  | configured (settings : Json)
  | hovered (uri : String) (position : Position)
  | stopped

/-- What a session answers. -/
inductive Answer where
  /-- Nothing, to a message that asks nothing. -/
  | silence
  /-- Nothing, and the editor is shown an entry that is not in the log. -/
  | notice (entry : LogEntry)
  /-- What the server can do, with the encoding that it chose. -/
  | abilities (encoding : Encoding)
  | hover (found : Option PlacedHover)
  | goodbye

/-- What an answer shows to the editor besides the response. -/
def Answer.shown : Answer → List LogEntry
  | .notice entry => [entry]
  | .silence | .abilities _ | .hover _ | .goodbye => []

/-- The name of an encoding. -/
def Encoding.name : Encoding → String
  | .utf8 => "utf-8"
  | .utf16 => "utf-16"
  | .utf32 => "utf-32"

/-- The encoding that is chosen from an offer: UTF-8 before UTF-32 before UTF-16, which is also chosen
when nothing known is offered. -/
def Encoding.negotiate (offered : List String) : Encoding :=
  ([Encoding.utf8, .utf32, .utf16].find? fun encoding => offered.contains encoding.name).getD .utf16

/-- The field of an editor's configuration that holds the settings. -/
def settingsSection : String := "liquidInspector"

/-- The settings in what an editor sends: its section if there is one, and else the whole. A null
stands for no settings. -/
def sectionOf? (sent : Json) : Option Json :=
  match (sent.field? settingsSection).getD sent with
  | .null => none
  | settings => some settings

namespace Session

/-- The directory of the project and what the log says about it: the first open folder if it is on
disk, and else the working directory if there is one. -/
def chooseRoot (disk : Disk) (folders : List String) : Option String × LogEntry :=
  match folders.head?.bind Uri.filePath?, disk.workingDirectory with
  | some root, _ => (some root, .info ("Using workspace folder as project root: " ++ root))
  | none, .ok directory =>
    (some directory, .info ("No workspace folders, using current directory: " ++ directory))
  | none, .error _ => (none, .warning "No workspace folders and current directory unavailable")

/-- What the editor is shown when its settings are loaded. -/
def rootNotice : (root : Option String) → LogEntry
  | some root => .info ("Loaded settings for project at " ++ root)
  | none => .info "No project root; using default settings"

/-- The session after an introduction. The settings are not read yet. -/
def introduce (session : Session) (disk : Disk) (introduction : Introduction) : Outcome Answer :=
  let encoding := Encoding.negotiate introduction.encodings
  let (root, entry) := chooseRoot disk introduction.folders
  { value := .abilities encoding
    log := [.info "Initializing server...", entry]
    session :=
      (((session.setEncoding encoding).setRoot root).setOverrides
        (introduction.options.bind sectionOf?)).setCapabilities introduction.toCapabilities }

/-- The answer to a message and the session afterwards. -/
def step (session : Session) (disk : Disk) : Event → Outcome Answer
  | .introduced introduction => session.introduce disk introduction
  | .ready =>
    let reloaded := session.reload disk
    ⟨.notice (rootNotice reloaded.session.root), reloaded.log, reloaded.session⟩
  | .opened uri language edition =>
    let (documents, log) := session.documents.opened uri language edition
    ⟨.silence, .debug ("Opened document: " ++ uri) :: log, { session.forget uri with documents }⟩
  | .changed uri version changes =>
    let (documents, log) := session.documents.changed uri version changes
    ⟨.silence, .debug ("Changed document: " ++ uri) :: log, { session.forget uri with documents }⟩
  | .closed uri =>
    ⟨.silence, [.debug ("Closed document: " ++ uri)],
      { session.forget uri with documents := session.documents.closed uri }⟩
  | .configured settings =>
    let reloaded := (session.setOverrides (sectionOf? settings)).reload disk
    ⟨.silence, .info "Configuration change detected. Reloading settings..." :: reloaded.log,
      reloaded.session⟩
  | .hovered uri position =>
    let answered := session.hover uri position
    ⟨.hover answered.value, answered.log, answered.session⟩
  | .stopped => ⟨.goodbye, [.info "Shutting down"], session⟩

/-- The session after a row of messages. -/
def run (session : Session) (events : List (Disk × Event)) : Session :=
  events.foldl (fun session (disk, event) => (session.step disk event).session) session

end Session

end LiquidHover
