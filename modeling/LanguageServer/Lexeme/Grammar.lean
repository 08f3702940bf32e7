import LanguageServer.Lexeme

/-! # The lexical grammar

What a lexeme is, said without how it is read. `Factors t ls` says that a text is the lexemes `ls`
one after another, each by the first rule that applies where it starts. -/

namespace LanguageServer

namespace Rule

def all : List Rule := [.blank, .lineComment, .blockComment, .string, .number, .word, .symbol]

/-- A text starts as the lexemes of a rule do. -/
def Applies : Rule → Text → Prop
  | .blank, t => ∃ c, t.head? = some c ∧ Text.isBlank c = true
  | .lineComment, t => Lexeme.lineOpener <+: t
  | .blockComment, t => Lexeme.blockOpener <+: t
  | .string, t => t.head? = some '"'
  | .number, t => ∃ c, t.head? = some c ∧ c.isDigit = true
  | .word, t => ∃ c, t.head? = some c ∧ Lexeme.startsWord c = true
  | .symbol, t => t ≠ []

def IsFirst (r : Rule) (t : Text) : Prop :=
  ∃ earlier later, all = earlier ++ r :: later ∧ r.Applies t ∧ ∀ r' ∈ earlier, ¬ r'.Applies t

/-- Place `i` of a string holds its closing quote: a quote that is not the first and has no
backslash before it. -/
def ClosesAt (l : Text) (i : Nat) : Prop := 0 < i ∧ l[i]? = some '"' ∧ l[i - 1]? ≠ some '\\'

/-- A run of characters that ends where the next one does not belong to it. -/
def IsRun (p : Char → Bool) (l rest : Text) : Prop :=
  (∀ c ∈ l, p c = true) ∧ ∀ c, rest.head? = some c → p c = false

/-- A rule reads `l` where the text `rest` follows. -/
def Covers : Rule → Text → Text → Prop
  | .blank, l, _ => l.length = 1
  | .lineComment, l, rest => IsRun (· != '\n') l rest
  | .blockComment, l, rest =>
    ∃ body, l = Lexeme.blockOpener ++ body ∧
      (Lexeme.blockCloser <:+ body ∧ ¬ Lexeme.blockCloser <:+: body.dropLast ∨
        rest = [] ∧ ¬ Lexeme.blockCloser <:+: body)
  | .string, l, rest =>
    ClosesAt l (l.length - 1) ∧ (∀ i < l.length - 1, ¬ ClosesAt l i) ∨
      rest = [] ∧ ∀ i, ¬ ClosesAt l i
  | .number, l, rest => IsRun Lexeme.continuesNumber l rest
  | .word, l, rest => IsRun Lexeme.continuesWord l rest
  | .symbol, l, _ => l.length = 1

end Rule

/-- A text is these lexemes, one after another. -/
inductive Factors : Text → List Lexeme → Prop where
  | nil : Factors [] []
  | cons {l : Lexeme} {rest : Text} {ls : List Lexeme} (nonempty : l.text ≠ [])
      (first : l.rule.IsFirst (l.text ++ rest)) (covers : l.rule.Covers l.text rest)
      (more : Factors rest ls) : Factors (l.text ++ rest) (l :: ls)

end LanguageServer
