import LanguageServer.Completion
import LanguageServer.Diagnostic
import LanguageServer.Server.Store
import LanguageServer.Token.Delta

/-! # The server

What the server does with a message that has reached it. It holds the open documents and what the
client can do, and nothing else changes. Every answer about a document is made from its text as it
is now. -/

namespace LanguageServer

/-- What the client can do, as far as the server adapts to it. -/
structure ClientSupport where
  /-- The client asks to be registered for changes of its configuration. -/
  configuration : Bool
  /-- The client has workspace folders. -/
  workspaceFolders : Bool
deriving DecidableEq, Repr

/-- How the client takes a registration. -/
inductive Consent where
  | granted
  | refused
deriving DecidableEq, Repr

/-- What a client asks or tells. -/
inductive Event where
  /-- The client says who it is. -/
  | introduction (support : ClientSupport)
  /-- The client is ready. `consent` is what it will say to a registration. -/
  | ready (consent : Consent)
  | shutdown
  | opened (uri : Uri) (text : Text) (version : Int)
  | changed (uri : Uri) (edits : List Edit) (version : Int)
  | closed (uri : Uri)
  | configurationChanged
  | foldersChanged
  | completion
  | resolve (item : CompletionItem)
  | tokens (uri : Uri)
deriving BEq, Repr

inductive Answer where
  /-- What the server can do. Workspace folders are mentioned only to a client that has them. -/
  | capabilities (workspaceFolders : Bool)
  | nothing
  | items (items : List CompletionItem)
  | item (item : CompletionItem)
  | tokens (ts : SemanticTokens)
deriving BEq, Repr

inductive LogLevel where
  | info
  | log
deriving DecidableEq, Repr

/-- What the server sends without being asked. -/
inductive Notice where
  | diagnostics (uri : Uri) (found : List Diagnostic) (version : Int)
  | logMessage (level : LogLevel) (message : String)
  /-- Asks the client to report changes of its configuration. `id` is the request's own. -/
  | register (id : Nat)
deriving DecidableEq, Repr

/-- What the server warns of in its log, which the client does not see. -/
inductive Warning where
  /-- The client does not take the registration. -/
  | registrationRefused
  /-- A document is changed that is not open. -/
  | notOpen (uri : Uri)
deriving DecidableEq, Repr

/-- The state of a server. -/
structure Server where
  vocabulary : Vocabulary
  documents : Store
  support : ClientSupport
  /-- The requests sent so far. -/
  requests : Nat
deriving DecidableEq

/-- What comes of a message. -/
structure Effect where
  server : Server
  answer : Option Answer := none
  sent : List Notice := []
  warnings : List Warning := []

namespace Server

def start (v : Vocabulary) : Server where
  vocabulary := v
  documents := .empty
  support := ⟨false, false⟩
  requests := 0

def diagnose (uri : Uri) (d : Document) : Notice :=
  .diagnostics uri (braceDiagnostics d.text) d.version

/-- Keeps a document and reports on it. -/
def keep (s : Server) (uri : Uri) (d : Document) : Effect :=
  { server := { s with documents := s.documents.put uri d }, sent := [diagnose uri d] }

def ignore (s : Server) : Effect := { server := s }

def warn (s : Server) (warning : Warning) : Effect := { server := s, warnings := [warning] }

def reply (s : Server) (answer : Answer) : Effect := { server := s, answer := some answer }

/-- Greets a client that is ready. If it refuses the registration, it is greeted all the same. -/
def greet (s : Server) (consent : Consent) : Effect :=
  let hello := Notice.logMessage .info "Nexus LSP Server started"
  if s.support.configuration then
    { server := { s with requests := s.requests + 1 }
      sent := [.register s.requests, hello]
      warnings :=
        match consent with
        | .granted => []
        | .refused => [.registrationRefused] }
  else { server := s, sent := [hello] }

def handle (s : Server) : Event → Effect
  | .introduction support =>
    { s with support }.reply (.capabilities support.workspaceFolders)
  | .ready consent => s.greet consent
  | .shutdown => s.reply .nothing
  | .opened uri text version => s.keep uri ⟨text, version⟩
  | .changed uri edits version =>
    match s.documents.get? uri with
    | some d => s.keep uri (d.update edits version)
    | none => s.warn (.notOpen uri)
  | .closed uri => { s with documents := s.documents.remove uri }.ignore
  -- The vocabulary is fixed for the life of the program.
  | .configurationChanged => s.ignore
  | .foldersChanged =>
    { server := s, sent := [.logMessage .log "Workspace folder change event received."] }
  | .completion => s.reply (.items (CompletionItem.list s.vocabulary))
  | .resolve item => s.reply (.item (item.resolve s.vocabulary))
  | .tokens uri =>
    s.reply (.tokens (semanticTokens s.vocabulary ((s.documents.get? uri).map (·.text))))

def run (s : Server) : List Event → Server × List Effect
  | [] => (s, [])
  | e :: es =>
    let effect := s.handle e
    let (last, effects) := effect.server.run es
    (last, effect :: effects)

end Server

end LanguageServer
