/-! # JSON values

Messages and vocabulary files are JSON. A value keeps what was written: the order of an object's
members, a name that is given twice, and the text of a number that is not an integer. -/

namespace LanguageServer

inductive Json where
  | null
  | bool (b : Bool)
  | int (n : Int)
  /-- A number with a fraction or an exponent, as it was written. -/
  | decimal (text : String)
  | str (s : String)
  | arr (items : List Json)
  | obj (members : List (String × Json))
deriving Inhabited, Repr, BEq

namespace Json

instance : Coe String Json := ⟨.str⟩

instance : Coe Bool Json := ⟨.bool⟩

def nat (n : Nat) : Json := .int n

/-- A member of an object. The last one of its name counts. -/
def get? : Json → String → Option Json
  | .obj members, name => (members.reverse.find? (·.1 == name)).map (·.2)
  | _, _ => none

/-- A member that is there and not null. -/
def getSome? (j : Json) (name : String) : Option Json :=
  match j.get? name with
  | some .null => none
  | m => m

def str? : Json → Option String
  | .str s => some s
  | _ => none

def bool? : Json → Option Bool
  | .bool b => some b
  | _ => none

def arr? : Json → Option (List Json)
  | .arr items => some items
  | _ => none

def obj? : Json → Option (List (String × Json))
  | .obj members => some members
  | _ => none

def int? : Json → Option Int
  | .int n => some n
  | _ => none

/-- An integer of 32 bits without a sign. -/
def word? : Json → Option Nat
  | .int n => if 0 ≤ n ∧ n ≤ 4294967295 then some n.toNat else none
  | _ => none

/-- An integer of 32 bits with a sign. -/
def signedWord? : Json → Option Int
  | .int n => if -2147483648 ≤ n ∧ n ≤ 2147483647 then some n else none
  | _ => none

def strings? (j : Json) : Option (List String) := do (← j.arr?).mapM str?

/-- A member that has to be there, as a value of another type. -/
def required? {α : Type} (j : Json) (name : String) (read : Json → Option α) : Option α :=
  (j.get? name).bind read

/-- A member that may be missing or null, as a value of another type. Fails only on a member that
is there and cannot be read. -/
def optional? {α : Type} (j : Json) (name : String) (read : Json → Option α) :
    Option (Option α) :=
  match j.getSome? name with
  | none => some none
  | some member => (read member).map some

/-- An object without the members that have no value. -/
def object (members : List (String × Option Json)) : Json :=
  .obj (members.filterMap fun m => m.2.map fun value => (m.1, value))

def extend : Json → List (String × Json) → Json
  | .obj members, more => .obj (members ++ more)
  | j, _ => j

end Json

end LanguageServer
