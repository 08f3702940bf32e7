import LanguageServer.Json.Forms

/-! # Capabilities of a client

What a client may say about itself in its introduction. The server looks at two fields only, but a
client that describes itself wrongly in any field is refused. -/

namespace LanguageServer.Shape

/-! ## Common parts -/

/-- Whether a feature can be registered later. -/
def registration : Field := mayFlag "dynamicRegistration"

/-- A feature of which nothing else is said. -/
def feature (name : String) : Field := may name (fields [registration])

/-- A feature whose results may be links. -/
def linking (name : String) : Field :=
  may name (fields [registration, mayFlag "linkSupport"])

/-- A feature that the server can ask to be computed anew. -/
def refreshing (name : String) : Field :=
  may name (fields [mayFlag "refreshSupport"])

/-- The numbers that the client knows. -/
def knownNumbers (name : String) : Field :=
  may name (fields [may "valueSet" (.list .integer)])

/-- The tags that the client knows. Older clients only say whether they know any. -/
def knownTags : Field :=
  mayOmit "tagSupport" (.either [.flag, fields [need "valueSet" (.list .integer)]])

/-- The properties that the client can ask for later. -/
def lateProperties : Field :=
  may "resolveSupport" (fields [need "properties" (.list .text)])

/-- The formats of a text that the client can show. -/
def formats (name : String) : Field :=
  may name (.list (.oneOf ["plaintext", "markdown"]))

/-! ## The workspace -/

def workspaceEdits : Shape := fields [
  mayFlag "documentChanges",
  may "resourceOperations" (.list (.oneOf ["create", "rename", "delete"])),
  may "failureHandling" (.oneOf ["abort", "transactional", "textOnlyTransactional", "undo"]),
  mayFlag "normalizesLineEndings",
  may "changeAnnotationSupport" (fields [mayFlag "groupsOnLabel"])]

def workspaceCapabilities : Shape := fields [
  mayFlag "applyEdit",
  may "workspaceEdit" workspaceEdits,
  feature "didChangeConfiguration",
  may "didChangeWatchedFiles" (fields [registration, mayFlag "relativePatternSupport"]),
  may "symbol" (fields [registration, knownNumbers "symbolKind", knownTags, lateProperties]),
  feature "executeCommand",
  mayFlag "workspaceFolders",
  mayFlag "configuration",
  refreshing "semanticTokens",
  refreshing "codeLens",
  may "fileOperations" (fields (registration ::
    ["didCreate", "willCreate", "didRename", "willRename", "didDelete", "willDelete"].map mayFlag)),
  refreshing "inlineValue",
  refreshing "inlayHint",
  refreshing "diagnostic"]

/-! ## Documents -/

def completionCapabilities : Shape := fields [
  registration,
  may "completionItem" (fields [
    mayFlag "snippetSupport",
    mayFlag "commitCharactersSupport",
    formats "documentationFormat",
    mayFlag "deprecatedSupport",
    mayFlag "preselectSupport",
    knownTags,
    mayFlag "insertReplaceSupport",
    lateProperties,
    may "insertTextModeSupport" (fields [need "valueSet" (.list .integer)]),
    mayFlag "labelDetailsSupport"]),
  knownNumbers "completionItemKind",
  mayFlag "contextSupport",
  may "insertTextMode" .integer,
  may "completionList" (fields [may "itemDefaults" (.list .text)])]

def signatureCapabilities : Shape := fields [
  registration,
  may "signatureInformation" (fields [
    formats "documentationFormat",
    may "parameterInformation" (fields [mayFlag "labelOffsetSupport"]),
    mayFlag "activeParameterSupport"]),
  mayFlag "contextSupport"]

def actionCapabilities : Shape := fields [
  registration,
  may "codeActionLiteralSupport"
    (fields [need "codeActionKind" (fields [need "valueSet" (.list .text)])]),
  mayFlag "isPreferredSupport",
  mayFlag "disabledSupport",
  mayFlag "dataSupport",
  lateProperties,
  mayFlag "honorsChangeAnnotations"]

def foldingCapabilities : Shape := fields [
  registration,
  may "rangeLimit" .word,
  mayFlag "lineFoldingOnly",
  may "foldingRangeKind"
    (fields [may "valueSet" (.list (.oneOf ["comment", "imports", "region"]))]),
  may "foldingRange" (fields [mayFlag "collapsedText"])]

def tokenCapabilities : Shape := fields [
  registration,
  need "requests" (fields [
    mayFlag "range",
    may "full" (.either [.flag, fields [mayFlag "delta"]])]),
  need "tokenTypes" (.list .text),
  need "tokenModifiers" (.list .text),
  need "formats" (.list .text),
  mayFlag "overlappingTokenSupport",
  mayFlag "multilineTokenSupport",
  mayFlag "serverCancelSupport",
  mayFlag "augmentsSyntaxTokens"]

def documentCapabilities : Shape := fields [
  may "synchronization" (fields
    [registration, mayFlag "willSave", mayFlag "willSaveWaitUntil", mayFlag "didSave"]),
  may "completion" completionCapabilities,
  may "hover" (fields [registration, formats "contentFormat"]),
  may "signatureHelp" signatureCapabilities,
  feature "references",
  feature "documentHighlight",
  may "documentSymbol" (fields [registration, knownNumbers "symbolKind",
    mayFlag "hierarchicalDocumentSymbolSupport", knownTags]),
  feature "formatting",
  feature "rangeFormatting",
  feature "onTypeFormatting",
  linking "declaration",
  linking "definition",
  linking "typeDefinition",
  linking "implementation",
  may "codeAction" actionCapabilities,
  feature "codeLens",
  may "documentLink" (fields [registration, mayFlag "tooltipSupport"]),
  feature "colorProvider",
  may "rename" (fields [registration, mayFlag "prepareSupport",
    may "prepareSupportDefaultBehavior" .integer, mayFlag "honorsChangeAnnotations"]),
  may "publishDiagnostics" (fields [mayFlag "relatedInformation", knownTags,
    mayFlag "versionSupport", mayFlag "codeDescriptionSupport", mayFlag "dataSupport"]),
  may "foldingRange" foldingCapabilities,
  feature "selectionRange",
  feature "linkedEditingRange",
  feature "callHierarchy",
  may "semanticTokens" tokenCapabilities,
  feature "moniker",
  feature "typeHierarchy",
  feature "inlineValue",
  may "inlayHint" (fields [registration, lateProperties]),
  may "diagnostic" (fields [registration, mayFlag "relatedDocumentSupport"])]

/-! ## The window -/

def windowCapabilities : Shape := fields [
  mayFlag "workDoneProgress",
  may "showMessage" (fields
    [may "messageActionItem" (fields [mayFlag "additionalPropertiesSupport"])]),
  may "showDocument" (fields [need "support" .flag])]

def generalCapabilities : Shape := fields [
  may "regularExpressions" (fields [need "engine" .text, may "version" .text]),
  may "markdown" (fields [need "parser" .text, may "version" .text,
    may "allowedTags" (.list .text)]),
  may "staleRequestSupport"
    (fields [need "cancel" .flag, need "retryOnContentModified" (.list .text)]),
  may "positionEncodings" (.list .text)]

/-! ## The introduction -/

def capabilities : Shape := fields [
  may "workspace" workspaceCapabilities,
  may "textDocument" documentCapabilities,
  may "window" windowCapabilities,
  may "general" generalCapabilities,
  may "experimental" .any]

/-- What a client says when it introduces itself. -/
def introduction : Shape := fields [
  may "processId" .word,
  may "rootPath" .text,
  mayOmit "rootUri" .address,
  may "initializationOptions" .any,
  need "capabilities" capabilities,
  mayOmit "trace" (.oneOf ["off", "messages", "verbose"]),
  may "workspaceFolders" (.list folder),
  may "clientInfo" (fields [need "name" .text, may "version" .text]),
  may "locale" .text]

end LanguageServer.Shape
