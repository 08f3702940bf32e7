import LanguageServer.Frame
import LanguageServer.Session

/-! # The program

Reads messages from standard input and writes to standard output, frame by frame. What is said is
decided elsewhere. -/

namespace LanguageServer.Program

/-- The contents of a file, or why there are none. -/
def contents (path : String) : IO (Except ReadFailure ByteArray) := do
  try
    return .ok (← IO.FS.readBinFile path)
  catch
    | .noFileOrDirectory _ _ _ => return .error .notFound
    | .inappropriateType _ _ _ => return .error .isDirectory
    | e => return .error (.other (toString e))

/-- The lines up to an empty one. The end of the input ends the last header. -/
partial def readHeader (stdin : IO.FS.Stream) (lines : List String) : IO (Option (List String)) := do
  let line ← stdin.getLine
  if line.isEmpty then return none
  if line.toList.all Char.isWhitespace then return some lines.reverse
  readHeader stdin (line :: lines)

/-- Reads bytes until there are `count`, or no more come. -/
partial def readBytes (stdin : IO.FS.Stream) (count : Nat) (got : ByteArray) : IO ByteArray := do
  if count ≤ got.size then return got
  let more ← stdin.read (count - got.size).toUSize
  if more.isEmpty then return got
  readBytes stdin count (got ++ more)

def send (stdout : IO.FS.Stream) (j : Json) : IO Unit := do
  stdout.putStr (Frame.encode j)
  stdout.flush

/-- Serves until the input ends or the client asks for the exit. -/
partial def serve (stdin stdout : IO.FS.Stream) (s : Session) : IO Unit := do
  let some header ← readHeader stdin [] | return
  let some length := Frame.length? header | serve stdin stdout s
  match Frame.body (← readBytes stdin length .empty) with
  | .answer => serve stdin stdout s
  | .faulty fault =>
    send stdout (Response.toJson ⟨.null, .error fault⟩)
    serve stdin stdout s
  | .message m =>
    let (s, reaction) := s.receive .granted m
    let some reaction := reaction | return
    for notice in reaction.sent do send stdout notice.toJson
    if let some response := reaction.response then send stdout response.toJson
    serve stdin stdout s

def leave (e : Exit) : IO UInt32 := do
  IO.print e.stdout
  IO.eprint e.stderr
  return e.code.toUInt32

def run (arguments : List String) : IO UInt32 := do
  match Startup.settings arguments (← IO.getEnv Command.vocabularyVariable) with
  | .error e => leave e
  | .ok settings =>
    let file ← contents (settings.vocabularyPath.getD "")
    match Startup.vocabulary settings file with
    | .error e => leave e
    | .ok v =>
      serve (← IO.getStdin) (← IO.getStdout) (.start v)
      return 0

end LanguageServer.Program

/-- The language server. -/
def main (arguments : List String) : IO UInt32 := LanguageServer.Program.run arguments
