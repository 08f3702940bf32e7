import LanguageServer.Completion.Item
import LanguageServer.Vocabulary

/-! # Completion

The list never depends on the text: every word of the vocabulary, and then the snippets. An item
holds its word as data, and `resolve` describes an item by the set that the data is in. -/

namespace LanguageServer

/-- A text with places to fill in. -/
structure Snippet where
  label : String
  body : String
  data : String
deriving DecidableEq, Repr

def Snippet.all : List Snippet := [
  ⟨"Options<T>", "Options<$\x7b1:T\x7d>", "options_template"⟩,
  ⟨"class", "class $\x7b1:ClassName\x7d\n\x7b\n\t$\x7b2\x7d\n\x7d", "class_snippet"⟩,
  ⟨"sum", "sum $\x7b1:TypeName\x7d\n\x7b\n\t$\x7b2:Variant\x7d\n\x7d", "sum_snippet"⟩,
  ⟨"match", "match ($\x7b1:value\x7d)\n\x7b\n\t$\x7b2:Pattern\x7d => $\x7b3:expression\x7d\n\x7d",
    "match_snippet"⟩]

namespace CompletionItem

/-- The characters behind which a client asks for a list. -/
def triggerCharacters : List String := [".", ":", ">", "<"]

def ofWord (kind : ItemKind) (w : String) : CompletionItem :=
  { label := w, kind := some kind, data := some (.str w) }

def ofSnippet (s : Snippet) : CompletionItem where
  label := s.label
  kind := some .snippet
  insertText := some s.body
  insertFormat := some .snippet
  data := some (.str s.data)

/-- Everything that can be completed. -/
def list (v : Vocabulary) : List CompletionItem :=
  v.keywords.toList.map (ofWord .keyword) ++ v.types.toList.map (ofWord .typeParameter) ++
    v.builtinFunctions.toList.map (ofWord .function) ++ Snippet.all.map ofSnippet

end CompletionItem

/-- The set that a word is described by. -/
inductive WordRole where
  | keyword
  | type
  | builtinFunction
deriving DecidableEq, Repr

namespace WordRole

/-- The first set that has a word: keywords, then types, then built-in functions. -/
def of? (v : Vocabulary) (w : String) : Option WordRole :=
  if v.keywords.contains w then some .keyword
  else if v.types.contains w then some .type
  else if v.builtinFunctions.contains w then some .builtinFunction
  else none

def detail : WordRole → String
  | keyword => "Nexus keyword"
  | type => "Nexus type"
  | builtinFunction => "Built-in function"

def documentation (w : String) : WordRole → String
  | keyword => "Keyword: " ++ w
  | type => "Built-in type: " ++ w
  | builtinFunction => "Function: " ++ w

end WordRole

namespace CompletionItem

def describe (i : CompletionItem) (role : WordRole) (w : String) : CompletionItem :=
  { i with
    detail := some role.detail
    documentation := some (.text (role.documentation w)) }

/-- Describes an item by the word in its data. An item with other data comes back as it is. -/
def resolve (v : Vocabulary) (i : CompletionItem) : CompletionItem :=
  match i.data with
  | some (.str w) =>
    match WordRole.of? v w with
    | some role => i.describe role w
    | none => i
  | _ => i

end CompletionItem

end LanguageServer
