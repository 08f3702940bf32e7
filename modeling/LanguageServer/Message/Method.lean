import LanguageServer.Message.Requests

/-! # Methods

What the name of a method stands for. A method is a request or a notification by its name, whether
or not a message gives it an identity. -/

namespace LanguageServer

inductive Method where
  | introduction
  | ready
  | shutdown
  | exit
  /-- Takes a request back. It may come at any time. -/
  | cancel
  | opened
  | changed
  | closed
  | configurationChanged
  | foldersChanged
  | completion
  | resolve
  | tokens
  /-- A notification of which nothing comes. -/
  | unheeded
  /-- A request that is not answered, with the shape of its parameters. -/
  | unanswered (params : Shape)

namespace Method

def handled : List (String × Method) := [
  ("initialize", introduction),
  ("initialized", ready),
  ("shutdown", shutdown),
  ("exit", exit),
  ("$/cancelRequest", cancel),
  ("textDocument/didOpen", opened),
  ("textDocument/didChange", changed),
  ("textDocument/didClose", closed),
  ("workspace/didChangeConfiguration", configurationChanged),
  ("workspace/didChangeWorkspaceFolders", foldersChanged),
  ("textDocument/completion", completion),
  ("completionItem/resolve", resolve),
  ("textDocument/semanticTokens/full", tokens)]

/-- The notifications of which nothing comes. -/
def unheededNames : List String :=
  ["textDocument/willSave", "textDocument/didSave", "workspace/didCreateFiles",
    "workspace/didRenameFiles", "workspace/didDeleteFiles", "workspace/didChangeWatchedFiles"]

def all : List (String × Method) :=
  handled ++ unheededNames.map (·, unheeded) ++
    Shape.unanswered.map fun m => (m.1, unanswered m.2)

def ofName? (name : String) : Option Method := all.lookup name

def isRequest : Method → Bool
  | introduction | shutdown | completion | resolve | tokens | unanswered _ => true
  | ready | exit | cancel | opened | changed | closed | configurationChanged | foldersChanged
  | unheeded => false

end Method

end LanguageServer
