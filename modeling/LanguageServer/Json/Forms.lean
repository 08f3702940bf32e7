import LanguageServer.Diagnostic
import LanguageServer.Document
import LanguageServer.Json.Shape

/-! # JSON forms

Shapes that many messages have in common, and how positions, ranges, edits and diagnostics are
sent. -/

namespace LanguageServer

namespace Shape

/-- Yes or no, if the sender cares. -/
def mayFlag (name : String) : Field := may name .flag

def position : Shape := fields [need "line" .word, need "character" .word]

def range : Shape := fields [need "start" position, need "end" position]

def location : Shape := fields [need "uri" .address, need "range" range]

def identity : Shape := .either [.integer, .text]

/-- A text, or a text with its format. -/
def documentation : Shape :=
  .either [.text, fields [need "kind" (.oneOf ["plaintext", "markdown"]), need "value" .text]]

/-- Something that the client can be asked to run. -/
def command : Shape :=
  fields [need "title" .text, need "command" .text, may "arguments" (.list .any)]

def textEdit : Shape := fields [need "range" range, need "newText" .text]

def folder : Shape := fields [need "uri" .address, need "name" .text]

/-! ## Parameters -/

def documentField : Field := need "textDocument" (fields [need "uri" .address])

def placeFields : List Field := [documentField, need "position" position]

def progressField : Field := may "workDoneToken" identity

def reportFields : List Field :=
  [progressField, may "partialResultToken" identity]

end Shape

/-! ## Places and edits -/

def Position.ofJson? (j : Json) : Option Position := do
  let j ← Shape.position.read? j
  Position.at? (← j.required? "line" Json.word?) (← j.required? "character" Json.word?)

def Position.toJson (p : Position) : Json :=
  .obj [("line", .nat p.line), ("character", .nat p.column)]

def Range.ofJson? (j : Json) : Option Range := do
  let j ← Shape.range.read? j
  return ⟨← j.required? "start" Position.ofJson?, ← j.required? "end" Position.ofJson?⟩

def Range.toJson (r : Range) : Json := .obj [("start", r.start.toJson), ("end", r.stop.toJson)]

def Shape.edit : Shape :=
  fields [may "range" range, may "rangeLength" .word, need "text" .text]

/-- An edit from JSON. The length of the range is not used. -/
def Edit.ofJson? (j : Json) : Option Edit := do
  let j ← Shape.edit.read? j
  return ⟨← j.optional? "range" Range.ofJson?, (← j.required? "text" Json.str?).toList⟩

def Diagnostic.toJson (d : Diagnostic) : Json :=
  .obj [("range", d.range.toJson), ("severity", .nat severity), ("source", .str source),
    ("message", .str d.message)]

end LanguageServer
