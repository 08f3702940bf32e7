import LanguageServer.Scanner

/-! # Relative tokens

Tokens are sent relative to the one before: the line as a difference, and the column as a
difference too if the line is the same. Each token is five words, the last of them for modifiers,
of which there are none. `semanticTokens` is the answer that a client gets, and `decode?` reads
words back. -/

namespace LanguageServer

/-- A token relative to the one before it. -/
structure Delta where
  line : Nat
  column : Nat
  length : Nat
  kind : TokenKind
  modifiers : Nat
deriving DecidableEq, Repr

def Delta.wordCount : Nat := 5

/-- The words of a token. -/
def Delta.words (d : Delta) : List Nat := [d.line, d.column, d.length, d.kind.code, d.modifiers]

/-- The words of a token list. -/
def flatten (ds : List Delta) : List Nat := ds.flatMap Delta.words

/-- Knows where the last token started. -/
structure Encoder where
  previous : Position
deriving DecidableEq, Repr

namespace Encoder

def start : Encoder := ⟨.origin⟩

/-- Makes one token relative. The token may not start before the last one. -/
def encode (e : Encoder) (t : Token) : Delta × Encoder :=
  let line := t.start.line - e.previous.line
  let column := if line = 0 then t.start.column - e.previous.column else t.start.column
  (⟨line, column, t.length, t.kind, 0⟩, ⟨t.start⟩)

/-- Makes a list of tokens relative, and keeps the encoder for more. -/
def encodeList (e : Encoder) : List Token → List Delta × Encoder
  | [] => ([], e)
  | t :: ts =>
    let (d, e) := e.encode t
    let (ds, e) := e.encodeList ts
    (d :: ds, e)

/-- Makes the tokens still to come relative, each as soon as it is scanned. -/
def encodeScan (v : Vocabulary) (e : Encoder) (s : Scanner) : List Delta :=
  match _h : s.next v with
  | (none, _) => []
  | (some t, s') =>
    let (d, e) := e.encode t
    d :: e.encodeScan v s'
termination_by s.rest.length
decreasing_by exact Scanner.length_next _h

end Encoder

/-- The tokens of a list, each relative to the one before. -/
def encode (ts : List Token) : List Delta := (Encoder.start.encodeList ts).1

/-- The tokens of a text, each relative to the one before. -/
def encodeDocument (v : Vocabulary) (t : Text) : List Delta :=
  Encoder.start.encodeScan v (Scanner.start t)

/-! ## The answer -/

/-- A token as the protocol has it. Its type is a place in the legend. -/
structure SemanticToken where
  deltaLine : Nat
  deltaStart : Nat
  length : Nat
  tokenType : Nat
  modifierBits : Nat
deriving BEq, Repr

def SemanticToken.ofDelta (d : Delta) : SemanticToken where
  deltaLine := d.line
  deltaStart := d.column
  length := d.length
  tokenType := d.kind.code
  modifierBits := d.modifiers

def SemanticToken.words (t : SemanticToken) : List Nat :=
  [t.deltaLine, t.deltaStart, t.length, t.tokenType, t.modifierBits]

/-- The answer to a request for tokens. The name is for a client that asks for changes later. -/
structure SemanticTokens where
  resultId : Option String
  data : List SemanticToken
deriving BEq, Repr

def SemanticTokens.words (ts : SemanticTokens) : List Nat := ts.data.flatMap SemanticToken.words

/-- Tokens are sent as one list of numbers. -/
instance : Coe SemanticTokens (List Nat) := ⟨SemanticTokens.words⟩

/-- The tokens of a document. One that is not open has none. -/
def semanticTokens (v : Vocabulary) (t : Option Text) : SemanticTokens where
  resultId := none
  data := (t.map fun t => (encodeDocument v t).map SemanticToken.ofDelta).getD []

theorem SemanticToken.words_ofDelta (d : Delta) : (ofDelta d).words = d.words := rfl

theorem words_semanticTokens (v : Vocabulary) (t : Text) :
    (semanticTokens v (some t)).words = flatten (encodeDocument v t) := by
  have hdata : (semanticTokens v (some t)).data =
      (encodeDocument v t).map SemanticToken.ofDelta := rfl
  rw [SemanticTokens.words, hdata, List.flatMap_map]
  simp only [SemanticToken.words_ofDelta, flatten]

/-! ## Reading back -/

/-- The place a relative start leads to. -/
def Position.shift? (p : Position) (line column : Nat) : Option Position :=
  if line = 0 then Position.at? p.line (p.column + column)
  else Position.at? (p.line + line) column

def decodeFrom? (p : Position) : List Nat → Option (List Token)
  | [] => some []
  | line :: column :: length :: code :: 0 :: words => do
    let start ← p.shift? line column
    let kind ← TokenKind.ofCode? code
    let ts ← decodeFrom? start words
    return ⟨start, length, kind⟩ :: ts
  | _ => none

/-- Reads words back into tokens. Fails on a broken record, an unknown kind, a modifier, and a
place that is out of range. -/
def decode? (words : List Nat) : Option (List Token) := decodeFrom? .origin words

end LanguageServer
