import LanguageServer.Json.Forms
import LanguageServer.Server
import LanguageServer.Startup

/-! # What the server sends

Answers and notices as JSON. -/

namespace LanguageServer

/-- The kinds of tokens, in the order of their numbers. -/
def legend : Json :=
  .obj [("tokenTypes", .arr (TokenKind.all.map fun k => .str k.name)), ("tokenModifiers", .arr [])]

/-- Documents are changed by ranges. -/
def incrementalSync : Nat := 2

def capabilities (workspaceFolders : Bool) : Json :=
  .object [
    ("textDocumentSync", some (.nat incrementalSync)),
    ("completionProvider", some (.obj [
      ("resolveProvider", .bool true),
      ("triggerCharacters", .arr (CompletionItem.triggerCharacters.map .str))])),
    ("semanticTokensProvider", some (.obj [("legend", legend), ("full", .bool true)])),
    ("workspace",
      if workspaceFolders then some (.obj [("workspaceFolders", .obj [("supported", .bool true)])])
      else none)]

def Answer.toJson : Answer → Json
  | .capabilities workspaceFolders =>
    .obj [("capabilities", LanguageServer.capabilities workspaceFolders),
      ("serverInfo", .obj [("name", .str Startup.name), ("version", .str Startup.version)])]
  | .nothing => .null
  | .items list => .arr (list.map CompletionItem.toJson)
  | .item i => i.toJson
  | .tokens ts =>
    .object [("resultId", ts.resultId.map .str), ("data", some (.arr (List.map .nat ts)))]

def LogLevel.code : LogLevel → Nat
  | info => 3
  | log => 4

def configurationRegistration : Json :=
  .obj [("id", .str "nexus-lsp/didChangeConfiguration"),
    ("method", .str "workspace/didChangeConfiguration")]

def Notice.toJson : Notice → Json
  | .diagnostics uri found version =>
    .obj [("method", .str "textDocument/publishDiagnostics"),
      ("params", .obj [("uri", .str (toString uri)),
        ("diagnostics", .arr (found.map Diagnostic.toJson)), ("version", .int version)])]
  | .logMessage level message =>
    .obj [("method", .str "window/logMessage"),
      ("params", .obj [("type", .nat level.code), ("message", .str message)])]
  | .register id =>
    .obj [("method", .str "client/registerCapability"),
      ("params", .obj [("registrations", .arr [configurationRegistration])]), ("id", .nat id)]

end LanguageServer
