import LanguageServer.Position

/-! # The editor's buffer

What a client means by an edit. A buffer is a list of lines, and a line is a list of UTF-16 units.
An edit cuts two lines and joins the pieces with the lines of the new text. Nothing here knows of
characters or bytes. -/

namespace LanguageServer

def Text.charUnits (c : Char) : List Nat :=
  let n := c.toNat
  if n < 0x10000 then [n] else [0xD800 + (n - 0x10000) / 0x400, 0xDC00 + (n - 0x10000) % 0x400]

/-- Lines of UTF-16 units. There is always one, and no line holds a line feed. -/
abbrev Buffer := List (List Nat)

namespace Buffer

/-- Puts the units of one character in front of the first line. -/
def cons (units : List Nat) : Buffer → Buffer
  | [] => [units]
  | line :: lines => (units ++ line) :: lines

def ofText : Text → Buffer
  | [] => [[]]
  | c :: cs => if c = '\n' then [] :: ofText cs else cons (Text.charUnits c) (ofText cs)

/-- Continues the last line of a buffer with the first line of another. -/
def append : Buffer → Buffer → Buffer
  | [], b => b
  | [line], b => cons line b
  | line :: lines, b => line :: append lines b

def before (b : Buffer) (p : Position) : Buffer :=
  b.take p.line ++ [(b.getD p.line []).take p.column]

def behind (b : Buffer) (p : Position) : Buffer :=
  (b.getD p.line []).drop p.column :: b.drop (p.line + 1)

/-- The first unit of a pair. -/
def isLead (unit : Nat) : Bool := 0xD800 ≤ unit && unit ≤ 0xDBFF

/-- A position is in the buffer if its line is, its column is at most the end of the line, and it
is not inside a pair. -/
def Has (b : Buffer) (p : Position) : Prop :=
  ∃ line, b[p.line]? = some line ∧ p.column ≤ line.length ∧
    (0 < p.column → isLead (line.getD (p.column - 1) 0) = false)

/-- The buffer after the part between two positions is replaced. -/
def replace (b : Buffer) (r : Range) (t : Text) : Buffer :=
  append (append (before b r.start) (ofText t)) (behind b r.stop)

end Buffer

end LanguageServer
