import LanguageServer.Startup.Command
import LanguageServer.Vocabulary.File

/-! # Starting

From the command line to a vocabulary, or to the end of the program. -/

namespace LanguageServer

/-- How a program ends: its code and what it writes. -/
structure Exit where
  code : Nat
  stdout : String
  stderr : String
deriving DecidableEq, Repr

namespace Startup

def name : String := "nexus-lsp"

def version : String := "0.1.0-alpha.1"

def usageLines : List String :=
  ["Usage: nexus-lsp [--vocabulary <path>]",
    "",
    "Options:",
    "  --vocabulary <path>  JSON file overriding keyword/type/builtin/symbol sets",
    "                       (default: $" ++ Command.vocabularyVariable ++ ", then built-in sets)",
    "  --stdio              Accepted for editor compatibility; stdio is the only transport",
    "  -V, --version        Print version",
    "  -h, --help           Print this help",
    "",
    "Logging: set RUST_LOG (e.g. RUST_LOG=nexus_lsp=debug); logs go to stderr."]

def usage : String := String.join (usageLines.map (· ++ "\n"))

/-- What to serve with, or how to end at once. A wrong command line shows the help too. -/
def settings (arguments : List String) (environment : Option String) : Except Exit Settings :=
  match Command.parse arguments environment with
  | .ok (.serve settings) => .ok settings
  | .ok .version => .error ⟨0, name ++ " " ++ version ++ "\n", ""⟩
  | .ok .help => .error ⟨0, "", usage⟩
  | .error failure => .error ⟨2, "", "error: " ++ failure.report ++ "\n\n" ++ usage⟩

/-- The vocabulary of a server. `contents` are those of the file that the settings name. -/
def loadVocabulary (s : Settings) (contents : Except ReadFailure ByteArray) :
    Except StartupFailure Vocabulary :=
  match s.vocabularyPath with
  | none => .ok .standard
  | some path => do (← VocabularyFile.read path contents).toVocabulary

/-- The vocabulary to serve with, or how to end. -/
def vocabulary (s : Settings) (contents : Except ReadFailure ByteArray) : Except Exit Vocabulary :=
  (loadVocabulary s contents).mapError fun failure =>
    ⟨1, "", "error: " ++ failure.report ++ "\n"⟩

end Startup

end LanguageServer
