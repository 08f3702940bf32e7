import LanguageServer.Json.Forms
import LanguageServer.Message.Capabilities
import LanguageServer.Message.Method
import LanguageServer.Server

/-! # Parameters

Reading the parameters of the methods that are handled. Every field that the protocol gives a type
is checked, even if nothing is done with it, because a message with a wrong field is refused. -/

namespace LanguageServer

namespace Shape

def opened : Shape := fields [need "textDocument" (fields
  [need "uri" .address, need "languageId" .text, need "version" .integer, need "text" .text])]

def changed : Shape := fields [
  need "textDocument" (fields [need "uri" .address, need "version" .integer]),
  need "contentChanges" (.list edit)]

def closed : Shape := fields [documentField]

def configurationChanged : Shape := fields [need "settings" .any]

def foldersChanged : Shape := fields [need "event"
  (fields [need "added" (.list folder), need "removed" (.list folder)])]

def completion : Shape := sharing (placeFields ++ reportFields ++
  [may "context" (fields [need "triggerKind" .integer, may "triggerCharacter" .text])])

end Shape

namespace Event

/-- A flag that is off unless it is set. -/
def flag? (j : Json) (name : String) : Option Bool :=
  (j.optional? name Json.bool?).map (·.getD false)

def support? (capabilities : Json) : Option ClientSupport := do
  match capabilities.getSome? "workspace" with
  | none => return ⟨false, false⟩
  | some workspace =>
    return ⟨← flag? workspace "configuration", ← flag? workspace "workspaceFolders"⟩

def introduction? (j : Json) : Option Event := do
  let j ← Shape.introduction.read? j
  return .introduction (← j.required? "capabilities" support?)

def document? (j : Json) : Option Uri := j.required? "textDocument" (·.required? "uri" Uri.ofJson?)

def opened? (j : Json) : Option Event := do
  let d ← (← Shape.opened.read? j).get? "textDocument"
  return .opened (← d.required? "uri" Uri.ofJson?) (← d.required? "text" Json.str?).toList
    (← d.required? "version" Json.signedWord?)

def changed? (j : Json) : Option Event := do
  let j ← Shape.changed.read? j
  let version ← j.required? "textDocument" (·.required? "version" Json.signedWord?)
  let edits ← j.required? "contentChanges" fun es => do (← es.arr?).mapM Edit.ofJson?
  return .changed (← document? j) edits version

def closed? (j : Json) : Option Event := do
  return .closed (← document? (← Shape.closed.read? j))

def tokens? (j : Json) : Option Event := do
  return .tokens (← document? (← (Shape.manyInDocument []).read? j))

/-- An event of which only the shape matters. -/
def shaped? (shape : Shape) (e : Event) (j : Json) : Option Event :=
  if shape.fits j then some e else none

/-- What a message asks or tells. `consent` is what the client would say to a registration. -/
def read? (consent : Consent) (method : Method) (params : Option Json) : Option Event :=
  match method with
  | .introduction => params.bind introduction?
  | .ready => params.bind (shaped? (.fields []) (.ready consent))
  | .shutdown => if params.isNone then some .shutdown else none
  | .opened => params.bind opened?
  | .changed => params.bind changed?
  | .closed => params.bind closed?
  | .configurationChanged => params.bind (shaped? .configurationChanged .configurationChanged)
  | .foldersChanged => params.bind (shaped? .foldersChanged .foldersChanged)
  | .completion => params.bind (shaped? .completion .completion)
  | .resolve => params.bind fun j => (CompletionItem.ofJson? j).map .resolve
  | .tokens => params.bind tokens?
  | .exit | .cancel | .unheeded | .unanswered _ => none

end Event

end LanguageServer
