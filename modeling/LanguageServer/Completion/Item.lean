import LanguageServer.Json.Forms

/-! # Completion items

What the client is offered, and sends back when it wants to know more. A client may have put more
into an item than the server ever does, so every field of an item is kept. -/

namespace LanguageServer

inductive MarkupKind where
  | plainText
  | markdown
deriving DecidableEq, Repr

def MarkupKind.name : MarkupKind → String
  | plainText => "plaintext"
  | markdown => "markdown"

def MarkupKind.ofName? (name : String) : Option MarkupKind :=
  [plainText, markdown].find? (·.name == name)

inductive Documentation where
  | text (s : String)
  | markup (kind : MarkupKind) (value : String)
deriving DecidableEq, Repr

/-- What an item stands for. The client knows the numbers. -/
structure ItemKind where
  code : Int
deriving DecidableEq, Repr

namespace ItemKind

def function : ItemKind := ⟨3⟩

def keyword : ItemKind := ⟨14⟩

def snippet : ItemKind := ⟨15⟩

def typeParameter : ItemKind := ⟨25⟩

end ItemKind

/-- How the text of an item is inserted. The client knows the numbers. -/
structure InsertFormat where
  code : Int
deriving DecidableEq, Repr

def InsertFormat.snippet : InsertFormat := ⟨2⟩

structure CompletionItem where
  label : String
  kind : Option ItemKind := none
  detail : Option String := none
  documentation : Option Documentation := none
  deprecated : Option Bool := none
  preselect : Option Bool := none
  sortText : Option String := none
  filterText : Option String := none
  insertText : Option String := none
  insertFormat : Option InsertFormat := none
  commitCharacters : Option (List String) := none
  data : Option Json := none
  /-- The fields that the server never looks at. -/
  others : List (String × Json) := []
deriving BEq, Repr

namespace Shape

/-- A text edit, or one that replaces more if the client prefers it. -/
def itemEdit : Shape :=
  .either [textEdit,
    fields [need "newText" .text, need "insert" range, need "replace" range]]

/-- The shape of an item. Only the label has to be there. -/
def completionItem : Shape := fields [
  need "label" .text,
  may "labelDetails" (fields [may "detail" .text, may "description" .text]),
  may "kind" .integer,
  may "detail" .text,
  may "documentation" documentation,
  mayFlag "deprecated",
  mayFlag "preselect",
  may "sortText" .text,
  may "filterText" .text,
  may "insertText" .text,
  may "insertTextFormat" .integer,
  may "insertTextMode" .integer,
  may "textEdit" itemEdit,
  may "additionalTextEdits" (.list textEdit),
  may "command" command,
  may "commitCharacters" (.list .text),
  may "data" .any,
  may "tags" (.list .integer)]

end Shape

namespace Documentation

def ofJson? : Json → Option Documentation
  | .str s => some (.text s)
  | j => do
    let kind ← MarkupKind.ofName? (← j.required? "kind" Json.str?)
    return .markup kind (← j.required? "value" Json.str?)

/-- A description as JSON. -/
def toJson : Documentation → Json
  | text s => .str s
  | markup kind value => .obj [("kind", .str kind.name), ("value", .str value)]

end Documentation

namespace CompletionItem

/-- The names of the fields that the server never looks at. -/
def otherNames : List String :=
  ["labelDetails", "insertTextMode", "textEdit", "additionalTextEdits", "command", "tags"]

def ofJson? (j : Json) : Option CompletionItem := do
  let j ← Shape.completionItem.read? j
  return {
    label := ← j.required? "label" Json.str?
    kind := ← j.optional? "kind" fun k => k.signedWord?.map ItemKind.mk
    detail := ← j.optional? "detail" Json.str?
    documentation := ← j.optional? "documentation" Documentation.ofJson?
    deprecated := ← j.optional? "deprecated" Json.bool?
    preselect := ← j.optional? "preselect" Json.bool?
    sortText := ← j.optional? "sortText" Json.str?
    filterText := ← j.optional? "filterText" Json.str?
    insertText := ← j.optional? "insertText" Json.str?
    insertFormat := ← j.optional? "insertTextFormat" fun f => f.signedWord?.map InsertFormat.mk
    commitCharacters := ← j.optional? "commitCharacters" Json.strings?
    data := j.getSome? "data"
    others := otherNames.filterMap fun name => (j.getSome? name).map (name, ·)
  }

/-- An item as JSON. What it does not have is not written. -/
def toJson (i : CompletionItem) : Json :=
  let known := Json.object [
    ("label", some (.str i.label)),
    ("kind", i.kind.map fun k => .int k.code),
    ("detail", i.detail.map .str),
    ("documentation", i.documentation.map Documentation.toJson),
    ("deprecated", i.deprecated.map .bool),
    ("preselect", i.preselect.map .bool),
    ("sortText", i.sortText.map .str),
    ("filterText", i.filterText.map .str),
    ("insertText", i.insertText.map .str),
    ("insertTextFormat", i.insertFormat.map fun f => .int f.code),
    ("commitCharacters", i.commitCharacters.map fun cs => .arr (cs.map .str)),
    ("data", i.data)]
  known.extend i.others

end CompletionItem

end LanguageServer
