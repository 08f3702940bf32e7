import LanguageServer.Json.Printer
import LanguageServer.Json.Reader
import LanguageServer.Message

/-! # Frames

On a stream every message names its protocol and has a header that gives its length in bytes. -/

namespace LanguageServer.Frame

def lengthField : Text := "content-length".toList

/-- The length in a line of a header, if the line gives it. -/
def lengthIn? (line : Text) : Option Nat :=
  match line.dropWhile (· != ':') with
  | [] => none
  | _ :: value =>
    let digits := Text.trim Char.isWhitespace value
    if (Text.trim Char.isWhitespace (line.takeWhile (· != ':'))).map Char.toLower = lengthField &&
        !digits.isEmpty && digits.all Char.isDigit then
      some (Json.digitsValue digits)
    else none

def length? (header : List String) : Option Nat := header.findSome? fun l => lengthIn? l.toList

/-- An object that names its protocol. -/
def named : Json → Json
  | .obj members => .obj (("jsonrpc", .str "2.0") :: members)
  | j => j

def encode (j : Json) : String :=
  let body := (named j).print
  "Content-Length: " ++ toString body.utf8ByteSize ++ "\r\n\r\n" ++ body

inductive Body where
  | message (m : Message)
  /-- The client's answer to a request of the server. -/
  | answer
  | faulty (f : Fault)

def body (bytes : ByteArray) : Body :=
  match (String.fromUTF8? bytes).bind Json.readString? with
  | none => .faulty .unreadable
  | some j =>
    match Message.ofJson? j with
    | some m => .message m
    | none =>
      if (j.get? "result").isSome || (j.get? "error").isSome then .answer
      else .faulty .invalidRequest

end LanguageServer.Frame
