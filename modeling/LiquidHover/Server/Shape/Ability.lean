/-
**Shapes of introductions.** An editor introduces itself with a description of what it can do. Most of
it does not matter here, but all of it has to be well-formed.

* `Shape.abilities` — what an editor can do.
* `Shape.introduction` — how an editor introduces itself.
-/
import LiquidHover.Server.Shape.Document

namespace LiquidHover.Shape

/-- Optional fields that are flags. -/
def flags (names : List String) : List (String × Presence × Shape) :=
  names.map fun name => maybe name .flag

/-- An ability that can be switched on later. -/
def switchable : Shape := .record (flags ["dynamicRegistration"])

/-- An ability to ask for something again. -/
def refreshable : Shape := .record (flags ["refreshSupport"])

/-- A list of accepted values, which has to be there. -/
def valueSet (value : Shape) : Shape := .record [field "valueSet" (.items value)]

/-- A list of accepted values, which may be left out. -/
def optionalValueSet (value : Shape) : Shape := .record [maybe "valueSet" (.items value)]

/-- The names of properties that can be asked for later. -/
def resolvable : Shape := .record [field "properties" (.items .text)]

/-- The accepted tags, or a flag. -/
def tagSupport : String × Presence × Shape :=
  ("tagSupport", .trailing, .either .flag (valueSet .signed))

/-! ### The workspace -/

def editAbility : Shape :=
  .record
    [ maybe "documentChanges" .flag,
      maybe "resourceOperations" (.items (.oneOf ["create", "rename", "delete"])),
      maybe "failureHandling"
        (.oneOf ["abort", "transactional", "textOnlyTransactional", "undo"]),
      maybe "normalizesLineEndings" .flag,
      maybe "changeAnnotationSupport" (.record (flags ["groupsOnLabel"])) ]

def workspaceAbility : Shape :=
  .record
    [ maybe "applyEdit" .flag,
      maybe "workspaceEdit" editAbility,
      maybe "didChangeConfiguration" switchable,
      maybe "didChangeWatchedFiles"
        (.record (flags ["dynamicRegistration", "relativePatternSupport"])),
      maybe "symbol"
        (.record
          [ maybe "dynamicRegistration" .flag, maybe "symbolKind" (optionalValueSet .signed),
            tagSupport, maybe "resolveSupport" resolvable ]),
      maybe "executeCommand" switchable,
      maybe "workspaceFolders" .flag,
      maybe "configuration" .flag,
      maybe "semanticTokens" refreshable,
      maybe "codeLens" refreshable,
      maybe "fileOperations"
        (.record
          (flags
            [ "dynamicRegistration", "didCreate", "willCreate", "didRename", "willRename",
              "didDelete", "willDelete" ])),
      maybe "inlineValue" refreshable,
      maybe "inlayHint" refreshable,
      maybe "diagnostic" refreshable ]

/-! ### Documents -/

def completionAbility : Shape :=
  .record
    [ maybe "dynamicRegistration" .flag,
      maybe "completionItem"
        (.record
          [ maybe "snippetSupport" .flag,
            maybe "commitCharactersSupport" .flag,
            maybe "documentationFormat" (.items markupKind),
            maybe "deprecatedSupport" .flag,
            maybe "preselectSupport" .flag,
            tagSupport,
            maybe "insertReplaceSupport" .flag,
            maybe "resolveSupport" resolvable,
            maybe "insertTextModeSupport" (valueSet .signed),
            maybe "labelDetailsSupport" .flag ]),
      maybe "completionItemKind" (optionalValueSet .signed),
      maybe "contextSupport" .flag,
      maybe "insertTextMode" .signed,
      maybe "completionList" (.record [maybe "itemDefaults" (.items .text)]) ]

def signatureAbility : Shape :=
  .record
    [ maybe "dynamicRegistration" .flag,
      maybe "signatureInformation"
        (.record
          [ maybe "documentationFormat" (.items markupKind),
            maybe "parameterInformation" (.record (flags ["labelOffsetSupport"])),
            maybe "activeParameterSupport" .flag ]),
      maybe "contextSupport" .flag ]

/-- The ability to go to another place. -/
def jumpAbility : Shape := .record (flags ["dynamicRegistration", "linkSupport"])

def codeActionAbility : Shape :=
  .record
    [ maybe "dynamicRegistration" .flag,
      maybe "codeActionLiteralSupport" (.record [field "codeActionKind" (valueSet .text)]),
      maybe "isPreferredSupport" .flag,
      maybe "disabledSupport" .flag,
      maybe "dataSupport" .flag,
      maybe "resolveSupport" resolvable,
      maybe "honorsChangeAnnotations" .flag ]

def renameAbility : Shape :=
  .record
    [ maybe "dynamicRegistration" .flag,
      maybe "prepareSupport" .flag,
      maybe "prepareSupportDefaultBehavior" .signed,
      maybe "honorsChangeAnnotations" .flag ]

def diagnosticsAbility : Shape :=
  .record
    [ maybe "relatedInformation" .flag,
      tagSupport,
      maybe "versionSupport" .flag,
      maybe "codeDescriptionSupport" .flag,
      maybe "dataSupport" .flag ]

def foldingAbility : Shape :=
  .record
    [ maybe "dynamicRegistration" .flag,
      maybe "rangeLimit" .word,
      maybe "lineFoldingOnly" .flag,
      maybe "foldingRangeKind" (optionalValueSet (.oneOf ["comment", "imports", "region"])),
      maybe "foldingRange" (.record (flags ["collapsedText"])) ]

def semanticTokensAbility : Shape :=
  .record
    [ maybe "dynamicRegistration" .flag,
      field "requests"
        (.record
          [ maybe "range" .flag,
            maybe "full" (.either .flag (.message (flags ["delta"]))) ]),
      field "tokenTypes" (.items .text),
      field "tokenModifiers" (.items .text),
      field "formats" (.items .text),
      maybe "overlappingTokenSupport" .flag,
      maybe "multilineTokenSupport" .flag,
      maybe "serverCancelSupport" .flag,
      maybe "augmentsSyntaxTokens" .flag ]

def documentAbility : Shape :=
  .record
    [ maybe "synchronization"
        (.record (flags ["dynamicRegistration", "willSave", "willSaveWaitUntil", "didSave"])),
      maybe "completion" completionAbility,
      maybe "hover"
        (.record
          [maybe "dynamicRegistration" .flag, maybe "contentFormat" (.items markupKind)]),
      maybe "signatureHelp" signatureAbility,
      maybe "references" switchable,
      maybe "documentHighlight" switchable,
      maybe "documentSymbol"
        (.record
          [ maybe "dynamicRegistration" .flag, maybe "symbolKind" (optionalValueSet .signed),
            maybe "hierarchicalDocumentSymbolSupport" .flag, tagSupport ]),
      maybe "formatting" switchable,
      maybe "rangeFormatting" switchable,
      maybe "onTypeFormatting" switchable,
      maybe "declaration" jumpAbility,
      maybe "definition" jumpAbility,
      maybe "typeDefinition" jumpAbility,
      maybe "implementation" jumpAbility,
      maybe "codeAction" codeActionAbility,
      maybe "codeLens" switchable,
      maybe "documentLink" (.record (flags ["dynamicRegistration", "tooltipSupport"])),
      maybe "colorProvider" switchable,
      maybe "rename" renameAbility,
      maybe "publishDiagnostics" diagnosticsAbility,
      maybe "foldingRange" foldingAbility,
      maybe "selectionRange" switchable,
      maybe "linkedEditingRange" switchable,
      maybe "callHierarchy" switchable,
      maybe "semanticTokens" semanticTokensAbility,
      maybe "moniker" switchable,
      maybe "typeHierarchy" switchable,
      maybe "inlineValue" switchable,
      maybe "inlayHint"
        (.record [maybe "dynamicRegistration" .flag, maybe "resolveSupport" resolvable]),
      maybe "diagnostic" (.record (flags ["dynamicRegistration", "relatedDocumentSupport"])),
      maybe "inlineCompletion" switchable ]

/-! ### Notebooks, windows and all the rest -/

def notebookAbility : Shape :=
  .record
    [ field "synchronization"
        (.record (flags ["dynamicRegistration", "executionSummarySupport"])) ]

def windowAbility : Shape :=
  .record
    [ maybe "workDoneProgress" .flag,
      maybe "showMessage"
        (.record
          [maybe "messageActionItem" (.record (flags ["additionalPropertiesSupport"]))]),
      maybe "showDocument" (.record [field "support" .flag]) ]

def generalAbility : Shape :=
  .record
    [ maybe "regularExpressions" (.record [field "engine" .text, maybe "version" .text]),
      maybe "markdown"
        (.record
          [field "parser" .text, maybe "version" .text, maybe "allowedTags" (.items .text)]),
      maybe "staleRequestSupport"
        (.record [field "cancel" .flag, field "retryOnContentModified" (.items .text)]),
      maybe "positionEncodings" (.items .text) ]

/-- What an editor can do. -/
def abilities : Shape :=
  .record
    [ maybe "workspace" workspaceAbility,
      maybe "textDocument" documentAbility,
      maybe "notebookDocument" notebookAbility,
      maybe "window" windowAbility,
      maybe "general" generalAbility,
      maybe "offsetEncoding" (.items .text),
      maybe "experimental" .anything ]

/-- How an editor introduces itself. -/
def introduction : Shape :=
  .message
    [ maybe "processId" .word,
      maybe "rootPath" .text,
      maybe "rootUri" .address,
      maybe "initializationOptions" .anything,
      field "capabilities" abilities,
      maybe "trace" (.oneOf ["off", "messages", "verbose"]),
      maybe "workspaceFolders" (.items folder),
      maybe "clientInfo" (.record [field "name" .text, maybe "version" .text]),
      maybe "locale" .text,
      maybe "workDoneToken" token ]

end LiquidHover.Shape
