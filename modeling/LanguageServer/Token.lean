import LanguageServer.Position

/-! # Tokens

A token is a piece of a text with one of nine kinds. A kind is sent as its place in the legend, so
the order of `all` is part of what the client is told. -/

namespace LanguageServer

inductive TokenKind where
  | keyword
  | typeName
  | functionName
  | variableName
  | number
  | string
  | comment
  | operator
  | punctuation
deriving DecidableEq, Repr

namespace TokenKind

/-- Every kind, in the order of the legend. -/
def all : List TokenKind :=
  [.keyword, .typeName, .functionName, .variableName, .number, .string, .comment, .operator,
    .punctuation]

def code : TokenKind → Nat
  | keyword => 0
  | typeName => 1
  | functionName => 2
  | variableName => 3
  | number => 4
  | string => 5
  | comment => 6
  | operator => 7
  | punctuation => 8

def ofCode? (n : Nat) : Option TokenKind := all[n]?

def name : TokenKind → String
  | keyword => "keyword"
  | typeName => "type"
  | functionName => "function"
  | variableName => "variable"
  | number => "number"
  | string => "string"
  | comment => "comment"
  | operator => "operator"
  | punctuation => "punctuation"

@[simp] theorem ofCode?_code (k : TokenKind) : ofCode? k.code = some k := by cases k <;> rfl

theorem code_of_ofCode? {n : Nat} {k : TokenKind} (h : ofCode? n = some k) : k.code = n := by
  have hn : n < 9 := by
    have := (List.getElem?_eq_some_iff.1 h).1
    simpa [all] using this
  have : n = 0 ∨ n = 1 ∨ n = 2 ∨ n = 3 ∨ n = 4 ∨ n = 5 ∨ n = 6 ∨ n = 7 ∨ n = 8 := by omega
  rcases this with rfl | rfl | rfl | rfl | rfl | rfl | rfl | rfl | rfl <;>
    (cases h; rfl)

end TokenKind

/-- A named piece of text: where it starts and how many UTF-16 units it has. A token of several
lines counts its line feeds. -/
structure Token where
  start : Position
  length : Nat
  kind : TokenKind
deriving DecidableEq, Repr

end LanguageServer
