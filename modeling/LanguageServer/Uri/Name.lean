import LanguageServer.Text.Direction
import LanguageServer.Text.Joining
import LanguageServer.Text.Normal
import LanguageServer.Text.Unprintable
import LanguageServer.Uri
import LanguageServer.Uri.Name.Forms
import LanguageServer.Uri.Punycode

/-! # Names of hosts

A name may be written in any script, and is kept in ASCII. Two names that look alike are one, so
each character is first put into its plain form. The labels between the dots are then written one
by one, and a label in another script starts with `xn--`. -/

namespace LanguageServer.Uri.Name

/-! ## Characters -/

def isAscii (c : Char) : Bool := c.toNat < 128

/-- The characters that ask for letters to be joined, or not to be. -/
def isJoiner (c : Char) : Bool := c == '\u200c' || c == '\u200d'

/-- The plain form of a character, or none for one that may not stand in a name. -/
def plain? (c : Char) : Option Text :=
  if isAscii c then some [c.toLower]
  else if Text.isWithin droppedRanges c then some []
  else
    match forms.image? c with
    | some form => some form
    | none =>
      let isBarred := Text.isUnprintable c || Text.isWithin barredRanges c
      if isBarred && !isJoiner c then none else some [c]

/-- A character that is its own plain form. -/
def isPlain (c : Char) : Bool := plain? c == some [c]

/-- The plain form of a text. -/
def plainText? (t : Text) : Option Text := return Text.normal (← t.mapM plain?).flatten

/-- Characters of ASCII that no name may hold. -/
def isForbidden (c : Char) : Bool :=
  isForbiddenInHost c || c == '%' || c.toNat < 0x20 || c == '\x7f'

/-! ## Joiners -/

/-- Whether each joiner is in a place where it changes how letters look. `front` is what stands in
front of the text, in reverse. -/
def joinersFit (front : Text) : Text → Bool
  | [] => true
  | c :: cs =>
    let isBehindVirama := front.head?.any Text.isVirama
    let isBetween :=
      (front.dropWhile Text.isTransparent).head?.any Text.joinsForward &&
        (cs.dropWhile Text.isTransparent).head?.any Text.joinsBackward
    let fits :=
      if c = '\u200d' then isBehindVirama
      else if c = '\u200c' then isBehindVirama || isBetween
      else true
    fits && joinersFit (c :: front) cs

/-! ## Directions -/

/-- Whether a character is written from the right. The first scripts are all written from the
left. -/
def isFromRight (c : Char) : Bool := 0x590 ≤ c.toNat && (Text.Direction.of c).isFromRight

/-- Whether a label reads in one direction, with these directions of its characters. -/
def readsOneWay (directions : List Text.Direction) : Bool :=
  let last := (directions.reverse.dropWhile (· == .mark)).head?
  match directions.head? with
  | none => true
  | some .leftToRight =>
    directions.all (!·.isFromRight) && last.any fun d => d == .leftToRight || d == .number
  | some .rightToLeft | some .arabicLetter =>
    directions.all (· != .leftToRight) && last.any (fun d => d.isFromRight || d == .number) &&
      !(directions.contains .number && directions.contains .arabicNumber)
  | some _ => false

/-! ## Labels -/

/-- A part of a name: as it is shown, and as it is written in ASCII. -/
structure Label where
  shown : Text
  written : Text
deriving DecidableEq, Repr

namespace Label

/-- What a label in another script starts with. -/
def mark : Text := "xn--".toList

/-- The most characters that are read behind the mark. -/
def writtenLimit : Nat := 2000

/-- The most characters that are written in ASCII. -/
def shownLimit : Nat := 1000

/-- Whether a label can be shown. -/
def isWellFormed (t : Text) : Bool := !t.head?.any Text.isMark && joinersFit [] t

/-- A label that was written in ASCII. It has to be what the shown label is written as. -/
def ofWritten? (t : Text) : Option Label := do
  let code := t.drop mark.length
  if !code.all isAscii || code.getLast?.all (· == '-') || writtenLimit < code.length then none
  let shown ← Punycode.decode? code
  if shown.all isPlain && Text.normal shown == shown && !mark.isPrefixOf shown &&
      isWellFormed shown then
    return ⟨shown, t⟩
  else none

/-- A label in its plain form. -/
def ofPlain? (t : Text) : Option Label :=
  if mark.isPrefixOf t then ofWritten? t
  else if t.all isAscii then some ⟨t, t⟩
  else if isWellFormed t && t.length ≤ shownLimit then some ⟨t, mark ++ Punycode.encode t⟩
  else none

end Label

/-! ## Names -/

/-- A name in ASCII. If a part of it is written from the right, each part has to read in one
direction. -/
def toAscii? (t : Text) : Option Text := do
  let t ← plainText? t
  if t.any isForbidden then none
  let labels ← (Text.parts (· == '.') t).mapM Label.ofPlain?
  let isOneWay (l : Label) := readsOneWay (l.shown.map Text.Direction.of)
  if labels.any (·.shown.any isFromRight) && !labels.all isOneWay then none
  return List.intercalate ['.'] (labels.map (·.written))

end LanguageServer.Uri.Name
