import LanguageServer.Text.Normal.Compositions
import LanguageServer.Text.Normal.Order

/-! # Normal texts

One letter can be written as one character or as a letter with marks. In a normal text the marks
are in order and joined to their letters wherever there is a character for both. The syllables of
Hangul are not in the table, because their numbers follow from the numbers of their parts. -/

namespace LanguageServer.Text

/-! ## Hangul -/

/-- The number of a syllable from the places of its parts. -/
def syllable (lead vowel tail : Nat) : Nat := 0xAC00 + (lead * 21 + vowel) * 28 + tail

def syllableParts? (c : Char) : Option Text :=
  if 0xAC00 ≤ c.toNat && c.toNat ≤ 0xD7A3 then
    let n := c.toNat - 0xAC00
    let tail := if n % 28 = 0 then [] else [Char.ofNat (0x11A7 + n % 28)]
    some (Char.ofNat (0x1100 + n / 588) :: Char.ofNat (0x1161 + n % 588 / 28) :: tail)
  else none

/-- Joins two parts of a syllable. -/
def joinSyllable? (a b : Char) : Option Char :=
  let m := a.toNat
  let n := b.toNat
  if 0x1100 ≤ m && m ≤ 0x1112 && 0x1161 ≤ n && n ≤ 0x1175 then
    charOf? (syllable (m - 0x1100) (n - 0x1161) 0)
  else if 0xAC00 ≤ m && m ≤ 0xD7A3 && (m - 0xAC00) % 28 == 0 && 0x11A8 ≤ n && n ≤ 0x11C2 then
    charOf? (m + (n - 0x11A7))
  else none

/-! ## Composition -/

def decomposed (c : Char) : Text :=
  if c.toNat < 0xC0 then [c] else ((syllableParts? c).or (compositions.image? c)).getD [c]

/-- The character for a letter and the mark behind it. -/
def compose? (a b : Char) : Option Char :=
  (joinSyllable? a b).or (compositions.source? (decomposed a ++ [b]))

/-- Joins marks to the letter `base`. `kept` are the marks between that have not joined it, the
last one first. A mark joins if none of the same class is in between. -/
def composeFrom (base : Char) (kept : Text) : Text → Text
  | [] => base :: kept.reverse
  | c :: cs =>
    let isBlocked := kept.head?.any fun k => combiningClass c ≤ combiningClass k
    match if isBlocked then none else compose? base c with
    | some joined => composeFrom joined kept cs
    | none =>
      if combiningClass c = 0 then base :: kept.reverse ++ composeFrom c [] cs
      else composeFrom base (c :: kept) cs

def composed : Text → Text
  | [] => []
  | c :: cs => composeFrom c [] cs

/-- The normal form of a text. A text without marks and without letters that are made of parts is
normal. -/
def normal (t : Text) : Text :=
  if t.all (·.toNat < 0xC0) then t else composed (ordered (t.flatMap decomposed))

end LanguageServer.Text
