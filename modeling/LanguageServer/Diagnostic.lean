import LanguageServer.Position

/-! # Diagnostics

The one thing that is diagnosed is a text with more braces of one sort than of the other. Braces
are counted wherever they stand, in strings and comments too. They are looked for in the bytes of
the text. What is reported covers the whole text, up to `documentEnd`. -/

namespace LanguageServer

/-! ## The end of a text

For a client a line ends at a line feed, at a carriage return with a line feed behind it, and at
a carriage return alone. -/

/-- The position after a text, for all three line breaks. -/
def Position.walkBreaks (p : Position) : Text → Position
  | [] => p
  | '\r' :: '\n' :: cs => p.nextLine.walkBreaks cs
  | c :: cs =>
    if c = '\r' ∨ c = '\n' then p.nextLine.walkBreaks cs
    else (p.right (Text.charWidth c)).walkBreaks cs

/-- The position at the end of a text, for all three line breaks. -/
def documentEnd (t : Text) : Position :=
  if '\r' ∈ t then Position.origin.walkBreaks t else .endOf t

/-! ## Braces -/

/-- An error in a part of a text. -/
structure Diagnostic where
  range : Range
  message : String
deriving DecidableEq, Repr

namespace Diagnostic

def source : String := "nexus-lsp"

/-- All diagnostics are errors. -/
def severity : Nat := 1

end Diagnostic

/-- How many braces a text has. -/
structure BraceCount where
  opening : Nat
  closing : Nat
deriving DecidableEq, Repr

namespace BraceCount

/-- The count after one more byte. -/
def next (n : BraceCount) (b : UInt8) : BraceCount :=
  if b = '{'.toUInt8 then { n with opening := n.opening + 1 }
  else if b = '}'.toUInt8 then { n with closing := n.closing + 1 }
  else n

/-- The braces of a text. -/
def ofText (t : Text) : BraceCount := t.bytes.foldl next ⟨0, 0⟩

def isBalanced (n : BraceCount) : Bool := n.opening == n.closing

instance : Add BraceCount := ⟨fun m n => ⟨m.opening + n.opening, m.closing + n.closing⟩⟩

/-- What is said of braces that do not balance. -/
def message (n : BraceCount) : String :=
  "Unmatched braces: " ++ toString n.opening ++ " opening, " ++ toString n.closing ++ " closing"

theorem add_def (m n : BraceCount) : m + n = ⟨m.opening + n.opening, m.closing + n.closing⟩ := rfl

theorem foldl_next (bs : List UInt8) (n : BraceCount) :
    bs.foldl next n = n + ⟨bs.count '{'.toUInt8, bs.count '}'.toUInt8⟩ := by
  induction bs generalizing n with
  | nil => rfl
  | cons b bs ih =>
    have hapart : '{'.toUInt8 ≠ '}'.toUInt8 := by decide
    rw [List.foldl_cons, ih, next, List.count_cons, List.count_cons]
    split
    · next h =>
      subst h
      simp [add_def, hapart, Nat.add_comm, Nat.add_left_comm]
    · next h =>
      split
      · next h' =>
        subst h'
        simp [add_def, hapart.symm, Nat.add_comm, Nat.add_left_comm]
      · next h' => simp [h, h']

@[simp] theorem ofText_append (a b : Text) : ofText (a ++ b) = ofText a + ofText b := by
  simp only [ofText, Text.bytes_append, List.foldl_append, foldl_next, add_def, Nat.zero_add]

end BraceCount

/-- None if the braces balance, else one for the whole text. -/
def braceDiagnostics (t : Text) : List Diagnostic :=
  let n := BraceCount.ofText t
  if n.isBalanced then [] else [⟨⟨.origin, documentEnd t⟩, n.message⟩]

end LanguageServer
