/-! # Texts

A text is a list of characters. Here is what is asked of single characters, how digits are read, and
how a text is cut at characters of a kind. -/

namespace LanguageServer

/-- A text is the list of its characters. -/
abbrev Text := List Char

namespace Text

/-! ## Characters -/

/-- Whether a character is in one of the ranges, ends included. -/
def isWithin (ranges : List (Nat × Nat)) (c : Char) : Bool :=
  ranges.any fun r => r.1 ≤ c.toNat && c.toNat ≤ r.2

/-- The ranges of the property White_Space, ends included. -/
def blankRanges : List (Nat × Nat) :=
  [(0x09, 0x0D), (0x20, 0x20), (0x85, 0x85), (0xA0, 0xA0), (0x1680, 0x1680), (0x2000, 0x200A),
    (0x2028, 0x2029), (0x202F, 0x202F), (0x205F, 0x205F), (0x3000, 0x3000)]

/-- A character with the property White_Space, such as a no-break space or a line separator. -/
def isBlank (c : Char) : Bool := isWithin blankRanges c

/-! ## Digits -/

def hexValue? (c : Char) : Option Nat :=
  if '0' ≤ c ∧ c ≤ '9' then some (c.toNat - 48)
  else if 'a' ≤ c ∧ c ≤ 'f' then some (c.toNat - 87)
  else if 'A' ≤ c ∧ c ≤ 'F' then some (c.toNat - 55)
  else none

/-- The number that digits write in a base. No digits write zero. -/
def number? (base : Nat) (t : Text) : Option Nat :=
  t.foldlM (fun n c => do
    let d ← hexValue? c
    if d < base then some (base * n + d) else none) 0

/-! ## Parts -/

/-- The parts of a text between the characters that `p` holds for. -/
def parts (p : Char → Bool) : Text → List Text
  | [] => [[]]
  | c :: cs =>
    if p c then [] :: parts p cs
    else
      match parts p cs with
      | [] => [[c]]
      | s :: ss => (c :: s) :: ss

/-- Cuts a text at the first character that `p` holds for. -/
def cutAt (p : Char → Bool) (t : Text) : Text × Option Text :=
  match t.dropWhile (!p ·) with
  | [] => (t, none)
  | _ :: rest => (t.takeWhile (!p ·), some rest)

/-- A text without the characters at both ends that `p` holds for. -/
def trim (p : Char → Bool) (t : Text) : Text := ((t.dropWhile p).reverse.dropWhile p).reverse

end Text

end LanguageServer
