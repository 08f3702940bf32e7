import LanguageServer.Text

/-! # Tables of characters

A table gives some characters a text each. Such a table is long, so it is kept as words, in
hexadecimal numbers. `B2:32,33` gives the text `2` to U+00B2 and `3` to the next character.
`132:69+6A` gives a text of two characters. `C0-D6:E0` gives U+00E0 to U+00C0 and goes on up to
U+00D6, one by one on both sides, and `100-12E/2:101` does the same in steps of two. -/

namespace LanguageServer.Text

/-- The character with a number. -/
def charOf? (n : Nat) : Option Char := if n.isValidChar then some (Char.ofNat n) else none

/-- Texts of some characters: of the first one, and of each one that is `step` further. -/
structure Row where
  first : Nat
  step : Nat
  images : List Text
deriving DecidableEq, Repr

/-- A table is a list of rows. -/
abbrev Table := List Row

namespace Row

def image? (r : Row) (c : Char) : Option Text :=
  if r.first ≤ c.toNat && (c.toNat - r.first) % r.step == 0 then
    r.images[(c.toNat - r.first) / r.step]?
  else none

def source? (r : Row) (t : Text) : Option Char := do
  charOf? (r.first + r.step * (← r.images.idxOf? t))

/-- A text as a word shows it. -/
def readImage? (t : Text) : Option Text :=
  (parts (· == '+') t).mapM fun n => (number? 16 n).bind charOf?

/-- The texts of `count` characters, the first of which is `n`. -/
def run? (n step count : Nat) : Option (List Text) :=
  (List.range count).mapM fun i => (charOf? (n + step * i)).map ([·])

/-- The row of a word. -/
def ofText? (t : Text) : Option Row := do
  let [place, images] := parts (· == ':') t | none
  match parts (· == '-') place with
  | [first] => return ⟨← number? 16 first, 1, ← (parts (· == ',') images).mapM readImage?⟩
  | [first, rest] =>
    let first ← number? 16 first
    let (last, step) := cutAt (· == '/') rest
    let last ← number? 16 last
    let step ← number? 16 (step.getD ['1'])
    return ⟨first, step, ← run? (← number? 16 images) step ((last - first) / step + 1)⟩
  | _ => none

end Row

namespace Table

def ofLines (lines : List String) : Table :=
  lines.flatMap fun line => (parts (· == ' ') line.toList).filterMap Row.ofText?

def image? (table : Table) (c : Char) : Option Text := table.findSome? (·.image? c)

def source? (table : Table) (t : Text) : Option Char := table.findSome? (·.source? t)

end Table

end LanguageServer.Text
