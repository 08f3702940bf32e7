import LanguageServer.Json
import LanguageServer.Uri.Reader

/-! # Shapes of JSON values

A shape says what a value has to look like. Reading a value by its shape keeps the members that the
shape names and drops all others, so what has been read can be trusted. A record may also come as
the list of its fields in order, unless it shares its object with other records. -/

namespace LanguageServer

def Uri.ofJson? (j : Json) : Option Uri := do Uri.read? (← j.str?).toList

/-- When a field of a record may be left out. -/
inductive Presence where
  | required
  /-- In an object, but not in a list. -/
  | optional
  /-- In an object and at the end of a list. -/
  | omissible
deriving DecidableEq, Repr

/-- The shape of a value. -/
inductive Shape where
  | any
  | text
  | flag
  | integer
  | word
  | number
  | address
  /-- One of a few names. -/
  | oneOf (names : List String)
  | nullable (shape : Shape)
  | list (item : Shape)
  | tuple (items : List Shape)
  /-- An object with names of one shape and values of another. -/
  | table (key value : Shape)
  /-- The first shape that fits. -/
  | either (shapes : List Shape)
  /-- A member of an object tells the shape of the whole, by name or by its place among the cases.
  A list has it in front. -/
  | tagged (tag : String) (cases : List (String × Shape))
  /-- A record. One that is `shared` has its object in common with other records, and members
  beside the fields have the shape `others`. -/
  | record (shared : Bool) (fields : List (String × Presence × Shape)) (others : Shape)

namespace Shape

/-- A field of a record: its name, when it may be left out, and its shape. -/
abbrev Field := String × Presence × Shape

/-- A name by itself, or as the only member of an object, with nothing in it. -/
def nameOf? : Json → Option String
  | .str s => some s
  | .obj [(s, .null)] => some s
  | _ => none

def isNumber : Json → Bool
  | .int _ => true
  | .decimal _ => true
  | _ => false

/-- The tag as it is seen by the cases behind the first. -/
def nextTag : Json → Json
  | .int n => .int (n - 1)
  | tag => tag

/-- Puts a field in front of others. One that is null and could be left out is left out. -/
def put (name : String) (presence : Presence) (value : Json) (rest : List (String × Json)) :
    List (String × Json) :=
  match presence, value with
  | .required, _ => (name, value) :: rest
  | _, .null => rest
  | _, _ => (name, value) :: rest

mutual

/-- Reads a value of a shape. -/
def read? : Shape → Json → Option Json
  | .any, j => some j
  | .text, j => j.str?.map .str
  | .flag, j => j.bool?.map .bool
  | .integer, j => j.signedWord?.map .int
  | .word, j => j.word?.map .nat
  | .number, j => if isNumber j then some j else none
  | .address, j => (Uri.ofJson? j).map fun _ => j
  | .oneOf names, j => (nameOf? j).bind fun n => if names.contains n then some (.str n) else none
  | .nullable shape, j =>
    match j with
    | .null => some .null
    | j => shape.read? j
  | .list item, j => do return .arr (← (← j.arr?).mapM item.read?)
  | .tuple items, j => do return .arr (← readItems? items (← j.arr?))
  | .table key value, j => do
    return .obj (← (← j.obj?).mapM fun m => do
      let _ ← key.read? (.str m.1)
      return (m.1, ← value.read? m.2))
  | .either shapes, j => readFirst? shapes j
  | .tagged _ cases, .arr (tag :: items) => readCase? cases tag (.arr items)
  | .tagged tag cases, j => do readCase? cases (← j.get? tag) j
  | .record shared fields others, j =>
    match j with
    | .obj members =>
      if members.all fun m => fields.any (·.1 == m.1) || (others.read? m.2).isSome then
        (readMembers? fields j).map .obj
      else none
    | .arr items => if shared then none else (readFields? fields items).map .obj
    | _ => none

/-- Reads a list, each item by a shape of its own. -/
def readItems? : List Shape → List Json → Option (List Json)
  | [], [] => some []
  | shape :: shapes, j :: js => do return (← shape.read? j) :: (← readItems? shapes js)
  | _, _ => none

/-- Reads a value by the first shape that fits. -/
def readFirst? : List Shape → Json → Option Json
  | [], _ => none
  | shape :: shapes, j => (shape.read? j).or (readFirst? shapes j)

/-- Reads a value by the shape that a tag stands for. -/
def readCase? : List (String × Shape) → Json → Json → Option Json
  | [], _, _ => none
  | (name, shape) :: cases, tag, j =>
    if tag == .str name || tag == .int 0 then shape.read? j
    else readCase? cases (nextTag tag) j

/-- Reads the fields of a record from an object. -/
def readMembers? : List Field → Json → Option (List (String × Json))
  | [], _ => some []
  | (name, presence, shape) :: fields, j =>
    match j.get? name with
    | some member => do return put name presence (← shape.read? member) (← readMembers? fields j)
    | none => if presence = .required then none else readMembers? fields j

/-- Reads the fields of a record from a list. -/
def readFields? : List Field → List Json → Option (List (String × Json))
  | [], [] => some []
  | [], _ :: _ => none
  | (name, presence, shape) :: fields, j :: js => do
    return put name presence (← shape.read? j) (← readFields? fields js)
  | (_, presence, _) :: fields, [] => if presence = .omissible then readFields? fields [] else none

end

def fits (shape : Shape) (j : Json) : Bool := (shape.read? j).isSome

/-! ## Fields -/

def need (name : String) (shape : Shape) : Field := (name, .required, shape)

/-- A field that may be null, or missing in an object. -/
def may (name : String) (shape : Shape) : Field := (name, .optional, .nullable shape)

/-- A field that may be null or missing. -/
def mayOmit (name : String) (shape : Shape) : Field := (name, .omissible, .nullable shape)

/-- A record that has its object to itself. -/
def fields (fields : List Field) : Shape := .record false fields .any

/-- A record that shares its object. -/
def sharing (fields : List Field) : Shape := .record true fields .any

end Shape

end LanguageServer
