/-
**Shapes of documents and their parts.** Places in documents, documents, what can be said about a
place, and edits.

* `Shape.position`, `Shape.range` — places.
* `Shape.documentItem`, `Shape.document`, `Shape.versionedDocument` — documents.
* `Shape.opened`, `Shape.changed`, `Shape.closed`, `Shape.configured` — the reports of an editor.
* `Shape.diagnostic`, `Shape.workspaceEdit` — what tools say about documents and do to them.
-/
import LiquidHover.Server.Shape

namespace LiquidHover.Shape

/-! ### Places -/

def position : Shape := .record [field "line" .word, field "character" .word]

def range : Shape := .record [field "start" position, field "end" position]

def location : Shape := .record [field "uri" .address, field "range" range]

/-! ### Documents -/

/-- A document by its address. -/
def document : Shape := .record [field "uri" .address]

/-- A document by its address, at one version. -/
def versionedDocument : Shape := .record [field "uri" .address, field "version" .signed]

/-- A document with its text. -/
def documentItem : Shape :=
  .record
    [ field "uri" .address, field "languageId" .text, field "version" .signed, field "text" .text ]

/-- A change of a document. -/
def change : Shape :=
  .record [maybe "range" range, maybe "rangeLength" .word, field "text" .text]

/-- A folder that is open in the editor. -/
def folder : Shape := .record [field "uri" .address, field "name" .text]

/-! ### Reports -/

/-- The editor is ready for work. -/
def ready : Shape := .record []

def opened : Shape := .record [field "textDocument" documentItem]

def changed : Shape :=
  .record [field "textDocument" versionedDocument, field "contentChanges" (.items change)]

def closed : Shape := .record [field "textDocument" document]

def configured : Shape := .record [field "settings" .anything]

/-! ### Texts, commands and diagnostics -/

/-- The kinds of formatted texts. -/
def markupKind : Shape := .oneOf ["plaintext", "markdown"]

/-- A formatted text. -/
def markup : Shape := .record [field "kind" markupKind, field "value" .text]

/-- A text, formatted or not. -/
def documentation : Shape := .either .text markup

def command : Shape :=
  .record
    [field "title" .text, field "command" .text, maybe "arguments" (.items .anything)]

/-- A number or a text. -/
def token : Shape := .either .signed .text

def diagnostic : Shape :=
  .record
    [ field "range" range,
      maybe "severity" .signed,
      maybe "code" token,
      maybe "codeDescription" (.record [field "href" .address]),
      maybe "source" .text,
      field "message" .text,
      maybe "relatedInformation"
        (.items (.record [field "location" location, field "message" .text])),
      maybe "tags" (.items .signed),
      maybe "data" .anything ]

/-! ### Edits -/

def textEdit : Shape := .record [field "range" range, field "newText" .text]

/-- An edit that refers to a remark. -/
def annotatedEdit : Shape :=
  .message [field "range" range, field "newText" .text, field "annotationId" .text]

/-- The edits of one document. -/
def documentEdit : Shape :=
  .record
    [ field "textDocument" (.record [field "uri" .address, maybe "version" .signed]),
      field "edits" (.items (.either textEdit annotatedEdit)) ]

/-- How a file is created or renamed. -/
def fileOptions : Shape := .record [maybe "overwrite" .flag, maybe "ignoreIfExists" .flag]

/-- A file that is created, renamed or deleted. -/
def fileOperation : Shape :=
  .either
    (.message
      [ field "kind" (.literal "create"), field "uri" .address, maybe "options" fileOptions,
        maybe "annotationId" .text ])
    (.either
      (.message
        [ field "kind" (.literal "rename"), field "oldUri" .address, field "newUri" .address,
          maybe "options" fileOptions, maybe "annotationId" .text ])
      (.message
        [ field "kind" (.literal "delete"), field "uri" .address,
          maybe "options"
            (.record
              [ maybe "recursive" .flag, maybe "ignoreIfNotExists" .flag,
                maybe "annotationId" .text ]) ]))

/-- Edits of several documents. -/
def workspaceEdit : Shape :=
  .record
    [ ("changes", .trailing, .addressed (.items textEdit)),
      maybe "documentChanges"
        (.either (.items documentEdit) (.items (.either fileOperation documentEdit))),
      maybe "changeAnnotations"
        (.entries
          (.record
            [field "label" .text, maybe "needsConfirmation" .flag, maybe "description" .text])) ]

end LiquidHover.Shape
