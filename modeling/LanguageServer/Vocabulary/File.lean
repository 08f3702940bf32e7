import LanguageServer.Json.Reader
import LanguageServer.Startup.Failure
import LanguageServer.Vocabulary

/-! # Vocabulary files

A file that gives some of the five sets. What it does not give keeps the standard, and an empty
list is an empty set. Symbols are given as strings, and each has to be one character. -/

namespace LanguageServer

/-- The five lists of a vocabulary file, as they are written. -/
structure VocabularyFile where
  keywords : Option (List String) := none
  types : Option (List String) := none
  builtinFunctions : Option (List String) := none
  operators : Option (List String) := none
  punctuation : Option (List String) := none
deriving DecidableEq, Repr

namespace VocabularyFile

/-! ## As a vocabulary -/

/-- The words of a field, or the standard ones. -/
def wordSet (words : Option (List String)) (standard : List String) : OrderedSet String :=
  .ofList (words.getD standard)

/-- The one character of an entry. -/
def symbol (set : SymbolSet) (entry : String) : Except StartupFailure Char :=
  match entry.toList with
  | [c] => .ok c
  | _ => .error (.notOneCharacter set entry)

/-- The symbols of a field, or the standard ones. -/
def symbolSet (set : SymbolSet) (entries : Option (List String)) (standard : List Char) :
    Except StartupFailure (OrderedSet Char) :=
  match entries with
  | none => .ok (.ofList standard)
  | some entries => (entries.mapM (symbol set)).map .ofList

/-- The vocabulary that a file describes. The first entry that is not one character is at fault,
and operators come before punctuation. -/
def toVocabulary (f : VocabularyFile) : Except StartupFailure Vocabulary := do
  let operators ← symbolSet .operators f.operators Vocabulary.standardOperators
  let punctuation ← symbolSet .punctuation f.punctuation Vocabulary.standardPunctuation
  return {
    keywords := wordSet f.keywords Vocabulary.standardKeywords
    types := wordSet f.types Vocabulary.standardTypes
    builtinFunctions := wordSet f.builtinFunctions Vocabulary.standardBuiltinFunctions
    operators
    punctuation
  }

/-- The file that describes a vocabulary in full. -/
def ofVocabulary (v : Vocabulary) : VocabularyFile where
  keywords := some v.keywords.toList
  types := some v.types.toList
  builtinFunctions := some v.builtinFunctions.toList
  operators := some (v.operators.toList.map String.singleton)
  punctuation := some (v.punctuation.toList.map String.singleton)

/-! ## As JSON -/

def fieldNames : List String :=
  ["keywords", "types", "builtinFunctions", "operators", "punctuation"]

def field? : Option Json → Option (Option (List String))
  | none => some none
  | some .null => some none
  | some j => j.strings?.map some

/-- A file from the values of its fields, in order. The last ones may be left out. -/
def ofFields? (fields : List (Option Json)) : Option VocabularyFile := do
  let field (n : Nat) := field? (fields.getD n none)
  return ⟨← field 0, ← field 1, ← field 2, ← field 3, ← field 4⟩

/-- A file from an object. No other names are known, and none may be given twice. -/
def ofObject? (members : List (String × Json)) : Option VocabularyFile :=
  let names := members.map (·.1)
  if names.all fieldNames.contains && names.eraseDups.length == names.length then
    ofFields? (fieldNames.map (Json.obj members).get?)
  else none

/-- A file from JSON: an object, or the list of the first fields. -/
def ofJson? : Json → Option VocabularyFile
  | .obj members => ofObject? members
  | .arr items => if items.length ≤ fieldNames.length then ofFields? (items.map some) else none
  | _ => none

/-- Reads the contents of the file at `path`. -/
def read (path : String) (contents : Except ReadFailure ByteArray) :
    Except StartupFailure VocabularyFile := do
  let bytes ← contents.mapError (.read path)
  let some text := String.fromUTF8? bytes | throw (.read path .notText)
  let some file := (Json.readString? text).bind ofJson? | throw (.parse path)
  return file

end VocabularyFile

end LanguageServer
