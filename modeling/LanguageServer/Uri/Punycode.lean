import LanguageServer.Text.Table

/-! # Punycode

Letters outside ASCII in names that take ASCII only. The ASCII characters come first. Behind a
hyphen the others follow, from the lowest on, each by a number that says how far it is from the
one before, in code and in place. The digits of a number do not all have the same base, so that
usual distances are short and a number shows its end. -/

namespace LanguageServer.Uri.Punycode

/-- The digit for a number below 36: letters, then ciphers. -/
def digit (n : Nat) : Char := if n < 26 then Char.ofNat (97 + n) else Char.ofNat (22 + n)

def digitValue? (c : Char) : Option Nat :=
  if c.isLower then some (c.toNat - 97)
  else if c.isUpper then some (c.toNat - 65)
  else if c.isDigit then some (c.toNat - 22)
  else none

/-- The value from which on a digit is not the last one of its number. -/
def threshold (position bias : Nat) : Nat := max 1 (min 26 (36 * (position + 1) - bias))

/-- How often a distance can be divided before it is small, and what is left of it. -/
def shrink (distance : Nat) : Nat × Nat :=
  if 455 < distance then
    let (count, rest) := shrink (distance / 35)
    (count + 1, rest)
  else (0, distance)
termination_by distance
decreasing_by exact Nat.div_lt_self (by omega) (by omega)

/-- The next bias after a distance, with `count` characters in place. -/
def adapt (distance count : Nat) (isFirst : Bool) : Nat :=
  let distance := if isFirst then distance / 700 else distance / 2
  let (count, rest) := shrink (distance + distance / count)
  36 * count + 36 * rest / (rest + 38)

/-- Where the next character is looked for: from this code and place on, with `count` characters
in place. -/
structure Cursor where
  code : Nat
  place : Nat
  bias : Nat
  count : Nat
deriving DecidableEq, Repr

/-- The cursor behind `basic` ASCII characters. -/
def Cursor.start (basic : Nat) : Cursor := ⟨128, 0, 72, basic⟩

/-- The cursor behind a character that was found at a distance. -/
def Cursor.found (s : Cursor) (distance code place : Nat) : Cursor :=
  ⟨code, place + 1, adapt distance (s.count + 1) (s.place == 0), s.count + 1⟩

/-! ## Writing -/

/-- The digits of a number from a position on. -/
def digits (bias position n : Nat) : Text :=
  let t := threshold position bias
  if n < t then [digit n]
  else digit (t + (n - t) % (36 - t)) :: digits bias (position + 1) ((n - t) / (36 - t))
termination_by n
decreasing_by
  have ht : 1 ≤ threshold position bias := by unfold threshold; omega
  exact Nat.lt_of_le_of_lt (Nat.div_le_self _ _) (by omega)

/-- Writes characters, each with those in front of it. -/
def encodeFrom (s : Cursor) : List (Char × Text) → Text
  | [] => []
  | (c, front) :: rest =>
    let place := (front.filter (· ≤ c)).length
    let distance := (c.toNat - s.code) * (s.count + 1) + place - s.place
    digits s.bias 0 distance ++ encodeFrom (s.found distance c.toNat place) rest

/-- The characters of a text, each with those in front of it. -/
def withFronts (t : Text) : List (Char × Text) := t.zipIdx.map fun p => (p.1, t.take p.2)

def encode (t : Text) : Text :=
  let basic := t.filter (·.toNat < 128)
  let others := (withFronts t).filter (128 ≤ ·.1.toNat)
  (if basic.isEmpty then [] else basic ++ ['-']) ++
    encodeFrom (.start basic.length) (others.mergeSort fun a b => a.1 ≤ b.1)

/-! ## Reading -/

/-- A number in the middle of its digits: its value so far, what the next digit counts, and the
position of that digit. -/
structure Progress where
  text : Text
  cursor : Cursor
  value : Nat
  weight : Nat
  position : Nat

/-- Nothing is read yet but the ASCII characters. -/
def Progress.start (basic : Text) : Progress := ⟨basic, .start basic.length, 0, 1, 0⟩

/-- Numbers have 32 bits. -/
def numberLimit : Nat := 4294967296

/-- Reads a digit. The last digit of a number puts a character into the text. -/
def Progress.read? (p : Progress) (c : Char) : Option Progress := do
  let d ← digitValue? c
  let value := p.value + d * p.weight
  let t := threshold p.position p.cursor.bias
  if d < t then
    let sum := p.cursor.place + value
    let code := p.cursor.code + sum / (p.cursor.count + 1)
    let place := sum % (p.cursor.count + 1)
    let next ← Text.charOf? code
    if numberLimit ≤ sum then none
    else
      return ⟨p.text.take place ++ next :: p.text.drop place,
        p.cursor.found value code place, 0, 1, 0⟩
  else
    let weight := p.weight * (36 - t)
    if numberLimit ≤ weight then none
    else return { p with value, weight, position := p.position + 1 }

/-- The ASCII characters in front of the last hyphen, and what follows it. -/
def cutBasic (t : Text) : Text × Text :=
  match Text.cutAt (· == '-') t.reverse with
  | (_, none) => ([], t)
  | (_, some []) => ([], t)
  | (rest, some basic) => (basic.reverse, rest.reverse)

def decode? (t : Text) : Option Text := do
  let (basic, rest) := cutBasic t
  let p ← rest.foldlM Progress.read? (.start basic)
  if p.position = 0 then some p.text else none

end LanguageServer.Uri.Punycode
