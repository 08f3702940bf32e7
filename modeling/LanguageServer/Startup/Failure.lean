import LanguageServer.Text.Extender
import LanguageServer.Text.Unprintable

/-! # Failures at startup

What can keep a server from starting, each cause with its wording. A text that is named in a wording
stands in quotes, and what would break the quotes, the line or the reading of it is escaped. -/

namespace LanguageServer

/-! ## Quoted texts -/

namespace Text

/-- A character by its number, in the fewest hexadecimal digits. -/
def numbered (c : Char) : Text := ['\\', 'u', '{'] ++ Nat.toDigits 16 c.toNat ++ ['}']

/-- A character between quotes. -/
def quotedChar (c : Char) : Text :=
  if c = '\x00' then ['\\', '0']
  else if c = '\t' then ['\\', 't']
  else if c = '\r' then ['\\', 'r']
  else if c = '\n' then ['\\', 'n']
  else if c = '\\' then ['\\', '\\']
  else if c = '"' then ['\\', '"']
  else if isExtender c || isUnprintable c then numbered c
  else [c]

def quoted (t : Text) : Text := '"' :: t.flatMap quotedChar ++ ['"']

end Text

/-! ## Causes -/

/-- Why a file cannot be read as text. -/
inductive ReadFailure where
  | notFound
  | isDirectory
  | notText
  /-- Any other reason, in the words of the system. -/
  | other (reason : String)
deriving DecidableEq, Repr

def ReadFailure.message : ReadFailure → String
  | notFound => "No such file or directory (os error 2)"
  | isDirectory => "Is a directory (os error 21)"
  | notText => "stream did not contain valid UTF-8"
  | other reason => reason

/-- A set of single characters in a vocabulary. -/
inductive SymbolSet where
  | operators
  | punctuation
deriving DecidableEq, Repr

def SymbolSet.name : SymbolSet → String
  | operators => "operators"
  | punctuation => "punctuation"

/-- Why a server does not start. -/
inductive StartupFailure where
  /-- The vocabulary file cannot be read. -/
  | read (path : String) (reason : ReadFailure)
  /-- The vocabulary file is not of the right form. -/
  | parse (path : String)
  /-- An entry of a symbol set is not one character. -/
  | notOneCharacter (set : SymbolSet) (entry : String)
  /-- The last argument is an option that takes a value. -/
  | missingValue (option : String)
  | unknownArgument (argument : String)
deriving DecidableEq, Repr

namespace StartupFailure

/-- What went wrong, without a reason from the system. -/
def message : StartupFailure → String
  | read path _ => "failed to read vocabulary file `" ++ path ++ "`"
  | parse path => "invalid vocabulary file `" ++ path ++ "`"
  | notOneCharacter set entry =>
    "`" ++ set.name ++ "` entry " ++ String.ofList (Text.quoted entry.toList) ++
      " must be exactly one character"
  | missingValue option => "missing value for `" ++ option ++ "`"
  | unknownArgument argument => "unknown argument `" ++ argument ++ "`"

/-- What went wrong, and the reason from the system if there is one. -/
def report : StartupFailure → String
  | read path reason => (read path reason).message ++ ": " ++ reason.message
  | failure => failure.message

end StartupFailure

end LanguageServer
