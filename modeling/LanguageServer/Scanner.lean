import LanguageServer.Lexeme
import LanguageServer.Token

/-! # Scanning

A scanner stands between two lexemes and knows its place both as a byte offset and as a position.
Each turn reads one lexeme off the text, and the scanner's `next` takes turns up to the next token.
`scan` lists the tokens of a whole text. -/

namespace LanguageServer

/-- A lexeme and where it starts. -/
structure Placed where
  lexeme : Lexeme
  offset : Nat
  start : Position
deriving DecidableEq, Repr

namespace Placed

/-- The byte offset behind the lexeme. -/
def stop (l : Placed) : Nat := l.offset + Text.byteSize l.lexeme.text

/-- The token of a lexeme, if it has a kind. -/
def token? (v : Vocabulary) (l : Placed) : Option Token :=
  (l.lexeme.kind? v).map fun kind => ⟨l.start, Text.boundedWidth l.lexeme.text, kind⟩

end Placed

/-- A place between two lexemes: the text still to read, its byte offset and its position. -/
structure Scanner where
  rest : Text
  offset : Nat
  place : Position
deriving DecidableEq, Repr

namespace Scanner

def start (t : Text) : Scanner := ⟨t, 0, .origin⟩

def skip : Scanner → Scanner
  | ⟨[], offset, place⟩ => ⟨[], offset, place⟩
  | ⟨c :: cs, offset, place⟩ => ⟨cs, offset + c.utf8Size, place.step c⟩

/-- Reads one lexeme. A blank is passed over, any other lexeme is measured. -/
def turn? : Scanner → Option (Placed × Scanner)
  | ⟨[], _, _⟩ => none
  | ⟨c :: cs, offset, place⟩ =>
    let l := Lexeme.first c cs
    some (⟨l, offset, place⟩,
      if l.rule = .blank then skip ⟨c :: cs, offset, place⟩
      else ⟨Lexeme.rest c cs, offset + Text.byteSize l.text, place.after l.text⟩)

theorem turn?_cons (c : Char) (cs : Text) (offset : Nat) (place : Position) :
    turn? ⟨c :: cs, offset, place⟩ =
      some (⟨Lexeme.first c cs, offset, place⟩,
        ⟨Lexeme.rest c cs, offset + Text.byteSize (Lexeme.first c cs).text,
          place.after (Lexeme.first c cs).text⟩) := by
  simp only [turn?]
  split
  · next h =>
    have hrule : Rule.of c cs = .blank := h
    simp only [Lexeme.first, Lexeme.rest, hrule, Rule.cut, Position.after_singleton]
    rfl
  · rfl

theorem length_turn? {s s' : Scanner} {l : Placed} (h : s.turn? = some (l, s')) :
    s'.rest.length < s.rest.length := by
  obtain ⟨_ | ⟨c, cs⟩, offset, place⟩ := s
  · simp [turn?] at h
  · simp only [turn?_cons, Option.some.injEq, Prod.mk.injEq] at h
    rw [← h.2]
    exact Lexeme.length_rest_lt c cs

/-- The lexemes still to come. -/
def run (s : Scanner) : List Placed :=
  match _h : s.turn? with
  | none => []
  | some (l, s') => l :: s'.run
termination_by s.rest.length
decreasing_by exact length_turn? _h

/-- Takes turns up to the next token. At the end there is none, and none after that. -/
def next (v : Vocabulary) (s : Scanner) : Option Token × Scanner :=
  match _h : s.turn? with
  | none => (none, s)
  | some (l, s') =>
    match l.token? v with
    | some t => (some t, s')
    | none => s'.next v
termination_by s.rest.length
decreasing_by exact length_turn? _h

theorem length_next {v : Vocabulary} {s s' : Scanner} {t : Token} (h : s.next v = (some t, s')) :
    s'.rest.length < s.rest.length := by
  fun_induction next v s with
  | case1 => simp at h
  | case2 s l r hs t' ht =>
    simp only [Prod.mk.injEq] at h
    exact h.2 ▸ length_turn? hs
  | case3 s l r hs hn ih => exact Nat.lt_trans (ih h) (length_turn? hs)

def steps (v : Vocabulary) (s : Scanner) : Nat → List (Option Token)
  | 0 => []
  | count + 1 =>
    let (t, s) := s.next v
    t :: s.steps v count

end Scanner

/-- The tokens of a text, in order. -/
def scan (v : Vocabulary) (t : Text) : List Token :=
  (Scanner.start t).run.filterMap (Placed.token? v)

end LanguageServer
