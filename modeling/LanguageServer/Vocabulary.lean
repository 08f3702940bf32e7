import LanguageServer.OrderedSet

/-! # Vocabularies

The words and symbols of the language are data. A vocabulary is chosen once, before the first
scan, and everything that names a word looks it up here. -/

namespace LanguageServer

/-- The words and symbols of the language. -/
structure Vocabulary where
  keywords : OrderedSet String
  types : OrderedSet String
  builtinFunctions : OrderedSet String
  operators : OrderedSet Char
  punctuation : OrderedSet Char
deriving DecidableEq

namespace Vocabulary

/-- The standard keywords. The marks of visibility at the end are never read as words, but they
are completed. -/
def standardKeywords : List String :=
  ["sum", "class", "implement", "global", "Constructor", "Factory", "if", "else", "for", "while",
    "return", "match", "new", "self", "Sequential", "true", "false", "public", "private",
    "protected", "+", "-", "#"]

def standardTypes : List String :=
  ["i32", "i64", "i16", "i8", "i4", "u32", "u64", "u16", "u8", "f32", "f64", "bool", "string",
    "void", "char"]

/-- The standard built-in functions. A dotted name is one word. -/
def standardBuiltinFunctions : List String := ["printf", "warnf", "Math.Random"]

def standardOperators : List Char := ['+', '-', '*', '/', '%', '=', '<', '>', '!', '&', '|']

def standardPunctuation : List Char := ['(', ')', '{', '}', '[', ']', ',', '.', ';', ':']

/-- The vocabulary of a server that was given none. -/
def standard : Vocabulary where
  keywords := .ofList standardKeywords
  types := .ofList standardTypes
  builtinFunctions := .ofList standardBuiltinFunctions
  operators := .ofList standardOperators
  punctuation := .ofList standardPunctuation

instance : Inhabited Vocabulary := ⟨standard⟩

end Vocabulary

end LanguageServer
