import LanguageServer.Json.Forms

/-! # Requests that are not answered

A request that the protocol knows and this server does not answer is refused in two ways: for its
parameters if they have the wrong shape, else for its method. Only for this are these shapes
needed. -/

namespace LanguageServer.Shape

/-! ## Diagnostics and edits -/

def diagnostic : Shape := fields [
  need "range" range,
  may "severity" .integer,
  may "code" identity,
  may "codeDescription" (fields [need "href" .address]),
  may "source" .text,
  need "message" .text,
  may "relatedInformation" (.list (fields [need "location" location, need "message" .text])),
  may "tags" (.list .integer),
  may "data" .any]

/-- A version of a document, which may be unknown. -/
def versionedDocument : Shape := fields [need "uri" .address, may "version" .integer]

def documentEdit : Shape :=
  fields [need "textDocument" versionedDocument, need "edits" (.list textEdit)]

/-- What is done to a file that is there already. -/
def overwriting : Field :=
  may "options" (fields [mayFlag "overwrite", mayFlag "ignoreIfExists"])

/-- A reason for a change. -/
def annotation : Field := may "annotationId" .text

/-- A file that comes, goes or gets another name. -/
def fileOperation : Shape := .tagged "kind" [
  ("create", fields [need "uri" .address, overwriting, annotation]),
  ("rename", fields [need "oldUri" .address, need "newUri" .address, overwriting, annotation]),
  ("delete", fields [need "uri" .address,
    may "options" (fields [mayFlag "recursive", mayFlag "ignoreIfNotExists", annotation])])]

def workspaceEdit : Shape := fields [
  mayOmit "changes" (.table .address (.list textEdit)),
  may "documentChanges"
    (.either [.list documentEdit, .list (.either [fileOperation, documentEdit])]),
  may "changeAnnotations" (.table .text (fields
    [need "label" .text, mayFlag "needsConfirmation", may "description" .text]))]

/-! ## Parts of parameters -/

def atPlace : Shape := sharing (progressField :: placeFields)

def manyAtPlace : Shape := sharing (placeFields ++ reportFields)

def manyInDocument (more : List Field) : Shape :=
  sharing (documentField :: more ++ reportFields)

def rangeField : Field := need "range" range

def hierarchyItem (tags : Shape) : Shape := fields [
  need "name" .text,
  need "kind" .integer,
  may "tags" tags,
  may "detail" .text,
  need "uri" .address,
  rangeField,
  need "selectionRange" range,
  may "data" .any]

def ofItem (tags : Shape) : Shape := sharing (need "item" (hierarchyItem tags) :: reportFields)

/-- The settings of a formatter. It may have some of its own. -/
def formatting : Field :=
  need "options" (.record true [
    need "tabSize" .word,
    need "insertSpaces" .flag,
    mayFlag "trimTrailingWhitespace",
    mayFlag "insertFinalNewline",
    mayFlag "trimFinalNewlines"] (.either [.flag, .integer, .text]))

def signatures : Shape := fields [
  need "signatures" (.list (fields [
    need "label" .text,
    may "documentation" documentation,
    may "parameters" (.list (fields [
      need "label" (.either [.text, .tuple [.word, .word]]),
      may "documentation" documentation])),
    may "activeParameter" .word])),
  may "activeSignature" .word,
  may "activeParameter" .word]

def signatureContext : Shape := fields [
  need "triggerKind" .integer,
  may "triggerCharacter" .text,
  need "isRetrigger" .flag,
  may "activeSignatureHelp" signatures]

def actionContext : Shape := fields [
  need "diagnostics" (.list diagnostic),
  may "only" (.list .text),
  may "triggerKind" .integer]

def action : Shape := fields [
  need "title" .text,
  may "kind" .text,
  may "diagnostics" (.list diagnostic),
  may "edit" workspaceEdit,
  may "command" command,
  mayFlag "isPreferred",
  may "disabled" (fields [need "reason" .text]),
  may "data" .any]

def hint : Shape := fields [
  need "position" position,
  need "label" (.either [.text, .list (fields [
    need "value" .text,
    may "tooltip" documentation,
    may "location" location,
    may "command" command])]),
  may "kind" .integer,
  may "textEdits" (.list textEdit),
  may "tooltip" documentation,
  mayFlag "paddingLeft",
  mayFlag "paddingRight",
  may "data" .any]

/-- A name in the workspace. -/
def symbolOfWorkspace : Shape := fields [
  need "name" .text,
  need "kind" .integer,
  may "tags" (.list .integer),
  may "containerName" .text,
  need "location" (.either [location, fields [need "uri" .address]]),
  may "data" .any]

def files : Shape := fields [need "files" (.list (fields [need "uri" .text]))]

/-! ## The requests -/

/-- The requests that are not answered, each with the shape of its parameters. -/
def unanswered : List (String × Shape) := [
  ("textDocument/willSaveWaitUntil", fields [documentField, need "reason" .integer]),
  ("textDocument/declaration", manyAtPlace),
  ("textDocument/definition", manyAtPlace),
  ("textDocument/typeDefinition", manyAtPlace),
  ("textDocument/implementation", manyAtPlace),
  ("textDocument/references", sharing (placeFields ++ reportFields ++
    [need "context" (fields [need "includeDeclaration" .flag])])),
  ("textDocument/prepareCallHierarchy", atPlace),
  ("callHierarchy/incomingCalls", ofItem (.list .integer)),
  ("callHierarchy/outgoingCalls", ofItem (.list .integer)),
  ("textDocument/prepareTypeHierarchy", atPlace),
  ("typeHierarchy/supertypes", ofItem .integer),
  ("typeHierarchy/subtypes", ofItem .integer),
  ("textDocument/documentHighlight", manyAtPlace),
  ("textDocument/documentLink", manyInDocument []),
  ("documentLink/resolve", fields
    [rangeField, may "target" .address, may "tooltip" .text, may "data" .any]),
  ("textDocument/hover", atPlace),
  ("textDocument/codeLens", manyInDocument []),
  ("codeLens/resolve", fields [rangeField, may "command" command, may "data" .any]),
  ("textDocument/foldingRange", manyInDocument []),
  ("textDocument/selectionRange", manyInDocument [need "positions" (.list position)]),
  ("textDocument/documentSymbol", manyInDocument []),
  ("textDocument/semanticTokens/full/delta", manyInDocument [need "previousResultId" .text]),
  ("textDocument/semanticTokens/range", manyInDocument [rangeField]),
  ("textDocument/inlineValue", sharing [progressField, documentField, rangeField,
    need "context" (fields [need "frameId" .integer, need "stoppedLocation" range])]),
  ("textDocument/inlayHint", sharing [progressField, documentField, rangeField]),
  ("inlayHint/resolve", hint),
  ("textDocument/moniker", manyAtPlace),
  ("textDocument/diagnostic",
    manyInDocument [may "identifier" .text, may "previousResultId" .text]),
  ("workspace/diagnostic", sharing ([
    may "identifier" .text,
    need "previousResultIds" (.list (fields [need "uri" .address, need "value" .text]))] ++
    reportFields)),
  ("textDocument/signatureHelp", sharing
    (may "context" signatureContext :: progressField :: placeFields)),
  ("textDocument/codeAction", manyInDocument [rangeField, need "context" actionContext]),
  ("codeAction/resolve", action),
  ("textDocument/documentColor", manyInDocument []),
  ("textDocument/colorPresentation", manyInDocument [
    need "color" (fields (["red", "green", "blue", "alpha"].map (need · .number))),
    rangeField]),
  ("textDocument/formatting", sharing [documentField, formatting, progressField]),
  ("textDocument/rangeFormatting",
    sharing [documentField, rangeField, formatting, progressField]),
  ("textDocument/onTypeFormatting", sharing (placeFields ++ [need "ch" .text, formatting])),
  ("textDocument/rename", sharing (placeFields ++ [need "newName" .text, progressField])),
  ("textDocument/prepareRename", fields placeFields),
  ("textDocument/linkedEditingRange", atPlace),
  ("workspace/symbol", sharing (reportFields ++ [need "query" .text])),
  ("workspaceSymbol/resolve", symbolOfWorkspace),
  ("workspace/executeCommand", sharing
    [need "command" .text, ("arguments", .omissible, .list .any), progressField]),
  ("workspace/willCreateFiles", files),
  ("workspace/willRenameFiles",
    fields [need "files" (.list (fields [need "oldUri" .text, need "newUri" .text]))]),
  ("workspace/willDeleteFiles", files)]

end LanguageServer.Shape
