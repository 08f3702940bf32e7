import LanguageServer.Message
import LanguageServer.Message.Forms
import LanguageServer.Message.Params

/-! # Sessions

A session is a server and the phase that it is in. The phase decides whether a message reaches the
server at all: nothing does before the introduction, only the exit does after the shutdown, and
nothing at all after the exit. -/

namespace LanguageServer

/-- How far a session has come. -/
inductive Phase where
  | fresh
  | running
  | shutDown
  | exited
deriving DecidableEq, Repr

/-- A server and its phase. -/
structure Session where
  server : Server
  phase : Phase

/-- What the client sees of one message: the response, if there is one, and what was sent. -/
structure Reaction where
  response : Option Response
  sent : List Notice

namespace Session

def start (v : Vocabulary) : Session := ⟨.start v, .fresh⟩

def silent : Reaction := ⟨none, []⟩

/-- A request is refused. A message that wants no answer gets none. -/
def refuse (m : Message) (fault : Fault) : Reaction := ⟨m.id.map fun id => ⟨id, .error fault⟩, []⟩

/-- Why nothing is handled in a phase. -/
def closedFault : Phase → Fault
  | .fresh => .notInitialized
  | _ => .invalidRequest

def perform (s : Session) (m : Message) (e : Event) : Session × Reaction :=
  let effect := s.server.handle e
  let response := do some ⟨← m.id, .ok (← effect.answer).toJson⟩
  ({ s with server := effect.server }, ⟨response, effect.sent⟩)

/-- A message reaches the server. A request without an identity and a notification with one are
not handled. -/
def deliver (consent : Consent) (s : Session) (m : Message) (method : Method) :
    Session × Reaction :=
  if method.isRequest then
    if m.id.isNone then (s, silent)
    else
      match method with
      | .unanswered shape =>
        if (m.params.map shape.fits).getD false then (s, refuse m (.methodNotFound none))
        else (s, refuse m .invalidParams)
      | _ =>
        match Event.read? consent method m.params with
        | some e => s.perform m e
        | none => (s, refuse m .invalidParams)
  else if m.id.isSome then (s, refuse m .invalidRequest)
  else
    match Event.read? consent method m.params with
    | some e => s.perform m e
    | none => (s, silent)

/-- The introduction. It opens the session if it is answered. -/
def introduce (consent : Consent) (s : Session) (m : Message) : Session × Reaction :=
  if s.phase = .fresh then
    let (next, reaction) := s.deliver consent m .introduction
    match reaction.response with
    | some ⟨_, .ok _⟩ => ({ next with phase := .running }, reaction)
    | _ => (s, reaction)
  else (s, refuse m .invalidRequest)

def dispatch (consent : Consent) (s : Session) (m : Message) : Method → Session × Reaction
  | .exit => ({ s with phase := .exited }, silent)
  | .cancel => s.deliver consent m .cancel
  | .introduction => s.introduce consent m
  -- A running server is shut down even by a message that is then refused.
  | .shutdown =>
    if s.phase = .running then { s with phase := .shutDown }.deliver consent m .shutdown
    else (s, refuse m (closedFault s.phase))
  | method =>
    if s.phase = .running then s.deliver consent m method
    else (s, refuse m (closedFault s.phase))

/-- A method that the protocol does not know. One that starts with `$/` may be passed over. -/
def reject (m : Message) : Reaction :=
  if ['$', '/'].isPrefixOf m.method.toList then silent
  else refuse m (.methodNotFound (some m.method))

/-- Receives one message. After the exit there is no reaction. -/
def receive (s : Session) (consent : Consent) (m : Message) : Session × Option Reaction :=
  if s.phase = .exited then (s, none)
  else
    match Method.ofName? m.method with
    | some method =>
      let (s, reaction) := s.dispatch consent m method
      (s, some reaction)
    | none => (s, some (reject m))

end Session

end LanguageServer
