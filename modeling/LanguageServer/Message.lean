import LanguageServer.Json

/-! # Messages

A message names a method. With an identity it is a request and has to be answered, and without one
it is a notification. -/

namespace LanguageServer

structure Message where
  method : String
  params : Option Json
  id : Option Json
deriving BEq, Repr

namespace Message

/-- Identities are numbers of 64 bits, strings or null. -/
def id? : Json → Option Json
  | .null => some .null
  | .int n => if -9223372036854775808 ≤ n ∧ n ≤ 9223372036854775807 then some (.int n) else none
  | .str s => some (.str s)
  | _ => none

/-- A message from JSON. Parameters that are null are there. -/
def ofJson? (j : Json) : Option Message := do
  let id ← match j.get? "id" with
    | none => some none
    | some id => (id? id).map some
  return ⟨← j.required? "method" Json.str?, j.get? "params", id⟩

end Message

/-- Why a request is refused. -/
inductive Fault where
  | invalidRequest
  | invalidParams
  /-- The method is not known, or is known and has no answer here. -/
  | methodNotFound (unknown : Option String)
  | notInitialized
  | unreadable
deriving DecidableEq, Repr

namespace Fault

def code : Fault → Int
  | invalidRequest => -32600
  | methodNotFound _ => -32601
  | invalidParams => -32602
  | unreadable => -32700
  | notInitialized => -32002

def message : Fault → String
  | invalidRequest => "Invalid request"
  | methodNotFound _ => "Method not found"
  | invalidParams => "Invalid params"
  | unreadable => "Parse error"
  | notInitialized => "Server not initialized"

/-- What a fault tells besides. -/
def data? : Fault → Option Json
  | methodNotFound unknown => unknown.map .str
  | _ => none

def toJson (f : Fault) : Json :=
  .object [("code", some (.int f.code)), ("message", some (.str f.message)), ("data", f.data?)]

end Fault

structure Response where
  id : Json
  outcome : Except Fault Json

def Response.toJson (r : Response) : Json :=
  match r.outcome with
  | .ok result => .obj [("id", r.id), ("result", result)]
  | .error fault => .obj [("id", r.id), ("error", fault.toJson)]

end LanguageServer
