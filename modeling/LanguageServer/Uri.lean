import LanguageServer.Text

/-! # Addresses of documents

A document is known by its address. Two spellings of one address are one document, so an address
is kept in its parts and in one spelling: the scheme in lower case, no `.` and `..` segments, and
reserved characters encoded. -/

namespace LanguageServer

namespace Uri

/-- Whose resource an address names. The parts are encoded. -/
structure Authority where
  user : Text
  password : Text
  host : Text
  /-- The service number, unless it is the scheme's own. -/
  service : Option Nat
deriving DecidableEq, Repr

/-- What is named: a list of segments, or a text without structure. -/
inductive Path where
  | segments (names : List Text)
  | opaqueText (t : Text)
deriving DecidableEq, Repr

end Uri

structure Uri where
  scheme : Text
  authority : Option Uri.Authority
  path : Uri.Path
  query : Option Text
  fragment : Option Text
deriving DecidableEq, Repr

namespace Uri

def decimalText (n : Nat) : Text := Nat.toDigits 10 n

def Authority.toText (a : Authority) : Text :=
  let password := if a.password.isEmpty then [] else ':' :: a.password
  let user := if a.user.isEmpty && a.password.isEmpty then [] else a.user ++ password ++ ['@']
  user ++ a.host ++ (a.service.map fun n => ':' :: decimalText n).getD []

def Path.toText : Path → Text
  | .segments names => names.flatMap ('/' :: ·)
  | .opaqueText t => t

/-- What stands between the scheme and the path. Without an authority a path may not start as
one would. -/
def lead (u : Uri) : Text :=
  match u.authority, u.path with
  | some a, _ => ['/', '/'] ++ a.toText
  | none, .segments ([] :: _ :: _) => ['/', '.']
  | none, _ => []

def toText (u : Uri) : Text :=
  u.scheme ++ [':'] ++ u.lead ++ u.path.toText ++ (u.query.map ('?' :: ·)).getD [] ++
    (u.fragment.map ('#' :: ·)).getD []

instance : ToString Uri := ⟨fun u => String.ofList u.toText⟩

/-! ## Percent encoding

Each part of an address has characters that may not stand in it as they are. They are written as
their UTF-8 bytes, each as `%` and two digits. What is encoded already is left alone. -/

def upperHexDigit (n : Nat) : Char := (Nat.digitChar n).toUpper

/-- A byte by its number. -/
def percentByte (b : UInt8) : Text :=
  ['%', upperHexDigit (b.toNat / 16), upperHexDigit (b.toNat % 16)]

/-- Writes the characters that `reserved` holds for by their numbers. -/
def percentEncode (reserved : Char → Bool) (t : Text) : Text :=
  t.flatMap fun c => if reserved c then (String.utf8EncodeChar c).flatMap percentByte else [c]

/-- Controls, and everything that is not ASCII. -/
def isControl (c : Char) : Bool := c.toNat < 0x20 || 0x7E < c.toNat

def inFragment (c : Char) : Bool := isControl c || " \"<>`".toList.contains c

def inPath (c : Char) : Bool := inFragment c || "#?\x7b\x7d".toList.contains c

/-- Encoded in the name and password of a user. -/
def inUser (c : Char) : Bool := inPath c || "/:;=@[\\]^|".toList.contains c

/-- Encoded behind the question mark. A scheme that the web knows has one more. -/
def inQuery (isSpecial : Bool) (c : Char) : Bool :=
  isControl c || " \"#<>".toList.contains c || (isSpecial && c == '\'')

/-- Characters that no host may hold. -/
def isForbiddenInHost (c : Char) : Bool := c == '\x00' || " #/:<>?@[\\]^|".toList.contains c

/-- The bytes of a text. Two digits behind a percent sign are one byte. -/
def percentDecode : Text → List UInt8
  | '%' :: a :: b :: cs =>
    match Text.hexValue? a, Text.hexValue? b with
    | some m, some n => (16 * m + n).toUInt8 :: percentDecode cs
    | _, _ => 37 :: percentDecode (a :: b :: cs)
  | c :: cs => String.utf8EncodeChar c ++ percentDecode cs
  | [] => []

def utf8Text? (bytes : List UInt8) : Option Text :=
  (String.fromUTF8? ⟨bytes.toArray⟩).map String.toList

end Uri

end LanguageServer
