import LanguageServer.Text.Units
import LanguageServer.Token
import LanguageServer.Vocabulary

/-! # Lexemes

A text is cut into lexemes, and nothing is left out: blanks and unknown characters are lexemes
too. The rule of a lexeme is decided by its first one or two characters (`Rule.of`), and the rule
decides how far it goes (`Rule.cut`). No text is refused. A comment or a string without its end
goes to the end of the text. -/

namespace LanguageServer

/-- How a lexeme is read. -/
inductive Rule where
  /-- One blank character, a line feed included. -/
  | blank
  /-- To the end of the line, without the line feed. -/
  | lineComment
  /-- Through the first closer. -/
  | blockComment
  /-- Through the first quote that no backslash precedes. -/
  | string
  /-- A run of digits and number marks. -/
  | number
  /-- A run of letters, digits, underscores and dots. -/
  | word
  /-- Any other character, alone. -/
  | symbol
deriving DecidableEq, Repr

/-- A piece of text and the rule it was read by. -/
structure Lexeme where
  rule : Rule
  text : Text
deriving DecidableEq, Repr

namespace Lexeme

/-- Opens a comment to the end of the line. -/
def lineOpener : Text := ['/', '*']

/-- Opens a comment with a closer. -/
def blockOpener : Text := ['/', '!']

/-- Closes a comment. -/
def blockCloser : Text := ['!', '/']

/-- A word starts with an ASCII letter or an underscore. -/
def startsWord (c : Char) : Bool := c.isAlpha || c == '_'

/-- A word goes on with ASCII letters, digits, underscores and dots. -/
def continuesWord (c : Char) : Bool := c.isAlphanum || c == '_' || c == '.'

/-- A number goes on with digits, dots, signs and exponent letters. -/
def continuesNumber (c : Char) : Bool :=
  c.isDigit || c == '.' || c == 'e' || c == 'E' || c == '+' || c == '-'

/-- Cuts a text behind the first occurrence of `marker`, or at its end. -/
def through (marker : Text) : Text → Text × Text
  | [] => ([], [])
  | c :: cs =>
    if marker.isPrefixOf (c :: cs) then (marker, (c :: cs).drop marker.length)
    else
      let r := through marker cs
      (c :: r.1, r.2)

/-- Cuts a text behind the first quote that no backslash precedes, or at its end. `previous` is
the character before the text. -/
def throughQuote (previous : Char) : Text → Text × Text
  | [] => ([], [])
  | c :: cs =>
    if c = '"' ∧ previous ≠ '\\' then ([c], cs)
    else
      let r := throughQuote c cs
      (c :: r.1, r.2)

end Lexeme

open Lexeme

/-- The rule for a lexeme that starts with `c`, before the text `cs`. The first that applies
wins. -/
def Rule.of (c : Char) (cs : Text) : Rule :=
  if Text.isBlank c then .blank
  else if lineOpener.isPrefixOf (c :: cs) then .lineComment
  else if blockOpener.isPrefixOf (c :: cs) then .blockComment
  else if c = '"' then .string
  else if c.isDigit then .number
  else if startsWord c then .word
  else .symbol

/-- Cuts the text behind a lexeme's first character into the rest of the lexeme and what
follows it. -/
def Rule.cut : Rule → Text → Text × Text
  | .blank, cs => ([], cs)
  | .lineComment, cs => (cs.takeWhile (· != '\n'), cs.dropWhile (· != '\n'))
  | .blockComment, cs =>
    -- The closer may not use the opener's mark: `/!/` is still open.
    let r := through blockCloser (cs.drop 1)
    (cs.take 1 ++ r.1, r.2)
  | .string, cs => throughQuote '"' cs
  | .number, cs => (cs.takeWhile continuesNumber, cs.dropWhile continuesNumber)
  | .word, cs => (cs.takeWhile continuesWord, cs.dropWhile continuesWord)
  | .symbol, cs => ([], cs)

namespace Lexeme

theorem through_append (marker t : Text) : (through marker t).1 ++ (through marker t).2 = t := by
  induction t with
  | nil => rfl
  | cons c cs ih =>
    unfold through
    split
    · next h =>
      obtain ⟨r, hr⟩ := List.isPrefixOf_iff_prefix.1 h
      simp only [← hr, List.drop_left]
    · simpa using ih

theorem throughQuote_append (previous : Char) (t : Text) :
    (throughQuote previous t).1 ++ (throughQuote previous t).2 = t := by
  induction t generalizing previous with
  | nil => rfl
  | cons c cs ih =>
    unfold throughQuote
    split
    · rfl
    · simpa using ih c

theorem cut_append (r : Rule) (cs : Text) : (r.cut cs).1 ++ (r.cut cs).2 = cs := by
  cases r with
  | blockComment => simp only [Rule.cut, List.append_assoc, through_append, List.take_append_drop]
  | string => exact throughQuote_append _ _
  | _ => simp [Rule.cut]

theorem length_cut_le (r : Rule) (cs : Text) : (r.cut cs).2.length ≤ cs.length := by
  have := congrArg List.length (cut_append r cs)
  rw [List.length_append] at this
  omega

/-- The first lexeme of a text that starts with `c`. -/
def first (c : Char) (cs : Text) : Lexeme := ⟨.of c cs, c :: ((Rule.of c cs).cut cs).1⟩

/-- The text behind the first lexeme. -/
def rest (c : Char) (cs : Text) : Text := ((Rule.of c cs).cut cs).2

@[simp] theorem first_append_rest (c : Char) (cs : Text) :
    (first c cs).text ++ rest c cs = c :: cs := by
  simp [first, rest, cut_append]

theorem length_rest_lt (c : Char) (cs : Text) : (rest c cs).length < (c :: cs).length :=
  Nat.lt_succ_of_le (length_cut_le _ _)

end Lexeme

/-! ## Kinds -/

/-- The kind of a word. A keyword is a keyword even with a capital, and a capital alone makes a
type. -/
def Vocabulary.wordKind (v : Vocabulary) (w : String) : TokenKind :=
  if v.keywords.contains w then .keyword
  else if v.types.contains w || w.toList.head?.any Char.isUpper then .typeName
  else if v.builtinFunctions.contains w then .functionName
  else .variableName

/-- The kind of a character on its own. One that is in both symbol sets is an operator. -/
def Vocabulary.symbolKind? (v : Vocabulary) (c : Char) : Option TokenKind :=
  if v.operators.contains c then some .operator
  else if v.punctuation.contains c then some .punctuation
  else none

/-- The kind of a lexeme. Blanks and unknown symbols have none. -/
def Lexeme.kind? (v : Vocabulary) (l : Lexeme) : Option TokenKind :=
  match l.rule, l.text with
  | .blank, _ => none
  | .lineComment, _ => some .comment
  | .blockComment, _ => some .comment
  | .string, _ => some .string
  | .number, _ => some .number
  | .word, w => some (v.wordKind (String.ofList w))
  | .symbol, [c] => v.symbolKind? c
  | .symbol, _ => none

end LanguageServer
