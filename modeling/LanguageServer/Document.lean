import LanguageServer.Position

/-! # Open documents

The text of an open document follows the editor by edits. An edit names a range by two positions,
which are resolved to byte offsets in the text as it is then. A position that the text does not
have is drawn to one it has, so no edit fails. -/

namespace LanguageServer

namespace Text

/-- The offset of a line and a column, both counted from here. Only a line feed ends a line. A
column behind the end of its line is drawn to the end, and a column inside a character to the
start of that character. -/
def offsetFrom : Text → Nat → Nat → Nat
  | [], _, _ => 0
  | c :: cs, 0, column =>
    if c = '\n' ∨ column < charWidth c then 0
    else c.utf8Size + offsetFrom cs 0 (column - charWidth c)
  | c :: cs, line + 1, column =>
    c.utf8Size + offsetFrom cs (if c = '\n' then line else line + 1) column

/-- The byte offset of a position. -/
def offsetAt (t : Text) (p : Position) : Nat := offsetFrom t p.line p.column

end Text

/-- A change of a text. Without a range it replaces the whole text. -/
structure Edit where
  range : Option Range
  text : Text
deriving DecidableEq, Repr

/-- The text after an edit. A range that ends before it starts is empty. -/
def Edit.apply (e : Edit) (t : Text) : Text :=
  match e.range with
  | none => e.text
  | some r =>
    let start := t.offsetAt r.start
    let stop := max start (t.offsetAt r.stop)
    t.takeBytes start ++ e.text ++ t.dropBytes stop

/-- The text and version of an open document. -/
structure Document where
  text : Text
  version : Int
deriving DecidableEq, Repr

namespace Document

def edit (d : Document) (e : Edit) : Document := { d with text := e.apply d.text }

/-- The document after a batch of edits, each in the text that the one before left. -/
def update (d : Document) (es : List Edit) (version : Int) : Document :=
  { es.foldl edit d with version }

end Document

end LanguageServer
