import LanguageServer.Json
import LanguageServer.Text.Units

/-! # Writing JSON

Values are written without blanks. In a string only the quote, the backslash and the control
characters are escaped. -/

namespace LanguageServer.Json

def hexDigit (n : Nat) : Char := Nat.digitChar n

/-- A character as it stands in a written string. -/
def escaped (c : Char) : Text :=
  if c = '"' then ['\\', '"']
  else if c = '\\' then ['\\', '\\']
  else if c = '\n' then ['\\', 'n']
  else if c = '\r' then ['\\', 'r']
  else if c = '\t' then ['\\', 't']
  else if c.toNat < 0x20 then ['\\', 'u', '0', '0', hexDigit (c.toNat / 16), hexDigit (c.toNat % 16)]
  else [c]

def writeString (out : String) (s : String) : String :=
  (s.toList.foldl (fun out c => (escaped c).foldl String.push out) (out.push '"')).push '"'

mutual

def write (out : String) : Json → String
  | .null => out ++ "null"
  | .bool true => out ++ "true"
  | .bool false => out ++ "false"
  | .int n => out ++ toString n
  | .decimal text => out ++ text
  | .str s => writeString out s
  | .arr items => (writeItems (out.push '[') true items).push ']'
  | .obj members => (writeMembers (out.push '\x7b') true members).push '\x7d'

/-- Writes the items of a list, with a comma before all but the first. -/
def writeItems (out : String) (isFirst : Bool) : List Json → String
  | [] => out
  | j :: js => writeItems (write (if isFirst then out else out.push ',') j) false js

/-- Writes the members of an object, with a comma before all but the first. -/
def writeMembers (out : String) (isFirst : Bool) : List (String × Json) → String
  | [] => out
  | (name, j) :: ms =>
    let out := if isFirst then out else out.push ','
    writeMembers (write ((writeString out name).push ':') j) false ms

end

def print (j : Json) : String := write "" j

end LanguageServer.Json
