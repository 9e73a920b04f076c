/-
**Shapes of questions.** What an editor may ask a language server, and the parameters that go with each
question. Most questions are not answered here, but their parameters have to be well-formed all the
same.

* `Shape.hovered` — the question for a hover.
* `Shape.questions` — the other questions by their names.
-/
import LiquidHover.Server.Shape.Document

namespace LiquidHover.Shape

/-! ### Parts of questions -/

/-- The question may ask to be told about progress. -/
def progress : List (String × Presence × Shape) := [maybe "workDoneToken" token]

/-- The answer may be given in parts. -/
def inParts : List (String × Presence × Shape) :=
  progress ++ [maybe "partialResultToken" token]

/-- The question is about a document. -/
def aboutDocument : List (String × Presence × Shape) := [field "textDocument" document]

/-- The question is about a place in a document. -/
def aboutPlace : List (String × Presence × Shape) :=
  aboutDocument ++ [field "position" position]

/-- The question is about a stretch of a document. -/
def aboutRange : List (String × Presence × Shape) := aboutDocument ++ [field "range" range]

/-- How a document is formatted. -/
def formattingOptions : Shape :=
  .extended
    [ field "tabSize" .word, field "insertSpaces" .flag, maybe "trimTrailingWhitespace" .flag,
      maybe "insertFinalNewline" .flag, maybe "trimFinalNewlines" .flag ]
    (.either .flag token)

/-- A symbol in a hierarchy, with its tags. -/
def hierarchyItem (tags : Shape) : Shape :=
  .record
    [ field "name" .text, field "kind" .signed, maybe "tags" tags, maybe "detail" .text,
      field "uri" .address, field "range" range, field "selectionRange" range,
      maybe "data" .anything ]

def callItem : Shape := hierarchyItem (.items .signed)

def typeItem : Shape := hierarchyItem .signed

def color : Shape :=
  .record
    [ field "red" .number, field "green" .number, field "blue" .number,
      field "alpha" .number ]

/-! ### Items that are completed later -/

def completionItem : Shape :=
  .record
    [ field "label" .text,
      maybe "labelDetails" (.record [maybe "detail" .text, maybe "description" .text]),
      maybe "kind" .signed,
      maybe "detail" .text,
      maybe "documentation" documentation,
      maybe "deprecated" .flag,
      maybe "preselect" .flag,
      maybe "sortText" .text,
      maybe "filterText" .text,
      maybe "insertText" .text,
      maybe "insertTextFormat" .signed,
      maybe "insertTextMode" .signed,
      maybe "textEdit"
        (.either textEdit
          (.record [field "newText" .text, field "insert" range, field "replace" range])),
      maybe "additionalTextEdits" (.items textEdit),
      maybe "command" command,
      maybe "commitCharacters" (.items .text),
      maybe "data" .anything,
      maybe "tags" (.items .signed) ]

def codeAction : Shape :=
  .record
    [ field "title" .text,
      maybe "kind" .text,
      maybe "diagnostics" (.items diagnostic),
      maybe "edit" workspaceEdit,
      maybe "command" command,
      maybe "isPreferred" .flag,
      maybe "disabled" (.record [field "reason" .text]),
      maybe "data" .anything ]

def codeLens : Shape :=
  .record [field "range" range, maybe "command" command, maybe "data" .anything]

def documentLink : Shape :=
  .record
    [ field "range" range, maybe "target" .address, maybe "tooltip" .text,
      maybe "data" .anything ]

def inlayHint : Shape :=
  .record
    [ field "position" position,
      field "label"
        (.either .text
          (.items
            (.record
              [ field "value" .text, maybe "tooltip" documentation, maybe "location" location,
                maybe "command" command ]))),
      maybe "kind" .signed,
      maybe "textEdits" (.items textEdit),
      maybe "tooltip" documentation,
      maybe "paddingLeft" .flag,
      maybe "paddingRight" .flag,
      maybe "data" .anything ]

def workspaceSymbol : Shape :=
  .record
    [ field "name" .text,
      field "kind" .signed,
      maybe "tags" (.items .signed),
      maybe "containerName" .text,
      field "location" (.either location document),
      maybe "data" .anything ]

/-! ### Contexts -/

def signatureHelp : Shape :=
  .record
    [ field "signatures"
        (.items
          (.record
            [ field "label" .text,
              maybe "documentation" documentation,
              maybe "parameters"
                (.items
                  (.record
                    [ field "label" (.either .text (.pair .word)),
                      maybe "documentation" documentation ])),
              maybe "activeParameter" .word ])),
      maybe "activeSignature" .word,
      maybe "activeParameter" .word ]

def signatureContext : Shape :=
  .record
    [ field "triggerKind" .signed,
      maybe "triggerCharacter" .text,
      field "isRetrigger" .flag,
      maybe "activeSignatureHelp" signatureHelp ]

def completionContext : Shape :=
  .record [field "triggerKind" .signed, maybe "triggerCharacter" .text]

def codeActionContext : Shape :=
  .record
    [ field "diagnostics" (.items diagnostic), maybe "only" (.items .text),
      maybe "triggerKind" .signed ]

/-! ### Questions -/

/-- The question for a hover. -/
def hovered : Shape := .message (aboutPlace ++ progress)

/-- The question where something is declared or defined. -/
def jump : Shape := .message (aboutPlace ++ inParts)

/-- A question about a whole document, answered in parts. -/
def wholeDocument : Shape := .message (aboutDocument ++ inParts)

/-- A question about files, with the names of their addresses. -/
def files (names : List String) : Shape :=
  .record [field "files" (.items (.record (names.map fun name => field name .text)))]

/-- The questions of an editor, but for hovers, with their parameters. -/
def questions : List (String × Shape) :=
  [ ("textDocument/willSaveWaitUntil",
      .record [field "textDocument" document, field "reason" .signed]),
    ("textDocument/declaration", jump),
    ("textDocument/definition", jump),
    ("textDocument/typeDefinition", jump),
    ("textDocument/implementation", jump),
    ("textDocument/references",
      .message
        (aboutPlace ++ inParts
          ++ [field "context" (.record [field "includeDeclaration" .flag])])),
    ("textDocument/prepareCallHierarchy", .message (aboutPlace ++ progress)),
    ("callHierarchy/incomingCalls", .message (field "item" callItem :: inParts)),
    ("callHierarchy/outgoingCalls", .message (field "item" callItem :: inParts)),
    ("textDocument/prepareTypeHierarchy", .message (aboutPlace ++ progress)),
    ("typeHierarchy/supertypes", .message (field "item" typeItem :: inParts)),
    ("typeHierarchy/subtypes", .message (field "item" typeItem :: inParts)),
    ("textDocument/documentHighlight", .message (aboutPlace ++ inParts)),
    ("textDocument/documentLink", wholeDocument),
    ("documentLink/resolve", documentLink),
    ("textDocument/codeLens", wholeDocument),
    ("codeLens/resolve", codeLens),
    ("textDocument/foldingRange", wholeDocument),
    ("textDocument/selectionRange",
      .message (aboutDocument ++ inParts ++ [field "positions" (.items position)])),
    ("textDocument/documentSymbol", wholeDocument),
    ("textDocument/semanticTokens/full", wholeDocument),
    ("textDocument/semanticTokens/full/delta",
      .message (aboutDocument ++ inParts ++ [field "previousResultId" .text])),
    ("textDocument/semanticTokens/range", .message (aboutRange ++ inParts)),
    ("textDocument/inlineValue",
      .message
        (aboutRange ++ progress
          ++ [ field "context"
                (.record [field "frameId" .signed, field "stoppedLocation" range]) ])),
    ("textDocument/inlayHint", .message (aboutRange ++ progress)),
    ("inlayHint/resolve", inlayHint),
    ("textDocument/moniker", .message (aboutPlace ++ inParts)),
    ("textDocument/completion",
      .message (aboutPlace ++ inParts ++ [maybe "context" completionContext])),
    ("completionItem/resolve", completionItem),
    ("textDocument/diagnostic",
      .message
        (aboutDocument ++ inParts ++ [maybe "identifier" .text, maybe "previousResultId" .text])),
    ("workspace/diagnostic",
      .message
        ([ maybe "identifier" .text,
           field "previousResultIds"
            (.items (.record [field "uri" .address, field "value" .text])) ] ++ inParts)),
    ("textDocument/signatureHelp",
      .message (aboutPlace ++ progress ++ [maybe "context" signatureContext])),
    ("textDocument/codeAction",
      .message (aboutRange ++ inParts ++ [field "context" codeActionContext])),
    ("codeAction/resolve", codeAction),
    ("textDocument/documentColor", wholeDocument),
    ("textDocument/colorPresentation",
      .message (aboutRange ++ inParts ++ [field "color" color])),
    ("textDocument/formatting",
      .message (aboutDocument ++ progress ++ [field "options" formattingOptions])),
    ("textDocument/rangeFormatting",
      .message (aboutRange ++ progress ++ [field "options" formattingOptions])),
    ("textDocument/onTypeFormatting",
      .message (aboutPlace ++ [field "ch" .text, field "options" formattingOptions])),
    ("textDocument/rename", .message (aboutPlace ++ progress ++ [field "newName" .text])),
    ("textDocument/prepareRename", .record aboutPlace),
    ("textDocument/linkedEditingRange", .message (aboutPlace ++ progress)),
    ("workspace/symbol", .message (field "query" .text :: inParts)),
    ("workspaceSymbol/resolve", workspaceSymbol),
    ("workspace/willCreateFiles", files ["uri"]),
    ("workspace/willRenameFiles", files ["oldUri", "newUri"]),
    ("workspace/willDeleteFiles", files ["uri"]),
    ("workspace/executeCommand",
      .message
        ([field "command" .text, ("arguments", .defaulted, .items .anything)] ++ progress)) ]

end LiquidHover.Shape
