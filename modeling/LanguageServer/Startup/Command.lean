import LanguageServer.Startup.Failure

/-! # The command line

Options are read from left to right. The first that asks for something else than serving, or is
wrong, decides, and what follows it is not looked at. -/

namespace LanguageServer

/-- What a server is started with. A path is any name that the system has for a file, and is passed
on unread. -/
structure Settings where
  vocabularyPath : Option String
deriving DecidableEq, Repr

inductive Command where
  | help
  | version
  | serve (settings : Settings)
deriving DecidableEq, Repr

namespace Command

def vocabularyVariable : String := "NEXUS_LSP_VOCABULARY"

def vocabularyOption : String := "--vocabulary"

/-- The path in an argument that holds the option and its value together. -/
def attachedPath? (argument : String) : Option String :=
  let start := (vocabularyOption ++ "=").toList
  if start.isPrefixOf argument.toList then
    some (String.ofList (argument.toList.drop start.length))
  else none

/-- Reads arguments when `path` was the last path so far. -/
def parseFrom (environment path : Option String) : List String → Except StartupFailure Command
  | [] => .ok (.serve ⟨path.or (environment.filter (· ≠ ""))⟩)
  | argument :: rest =>
    if argument = "--help" ∨ argument = "-h" then .ok .help
    else if argument = "--version" ∨ argument = "-V" then .ok .version
    else if argument = vocabularyOption then
      match rest with
      | [] => .error (.missingValue vocabularyOption)
      | value :: rest => parseFrom environment (some value) rest
    -- Editors say how they will talk to the server. There is only this one way.
    else if argument = "--stdio" then parseFrom environment path rest
    else
      match attachedPath? argument with
      | some value => parseFrom environment (some value) rest
      | none => .error (.unknownArgument argument)

/-- Reads the arguments. The last path counts, and without one the environment's. Of that nothing is
read but whether it is empty. -/
def parse (arguments : List String) (environment : Option String) :
    Except StartupFailure Command :=
  parseFrom environment none arguments

/-! ## The grammar -/

/-- An item of a command line that serves. -/
inductive Item where
  | stdio
  | attached (path : String)
  | separate (path : String)
deriving DecidableEq, Repr

namespace Item

def arguments : Item → List String
  | stdio => ["--stdio"]
  | attached path => [vocabularyOption ++ "=" ++ path]
  | separate path => [vocabularyOption, path]

def path? : Item → Option String
  | stdio => none
  | attached path => some path
  | separate path => some path

def lastPath? (items : List Item) : Option String := (items.filterMap path?).getLast?

end Item

end Command

end LanguageServer
