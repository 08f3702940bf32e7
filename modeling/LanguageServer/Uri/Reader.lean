import LanguageServer.Text
import LanguageServer.Uri
import LanguageServer.Uri.Host

/-! # Reading addresses

An address has to be absolute, so it starts with a scheme. Clients spell addresses freely. They
use backslashes, leave out slashes, and write drive letters in place of a host, so little is
refused. -/

namespace LanguageServer.Uri

/-! ## Parts -/

/-- Blanks around an address, and tabs and line breaks inside, are not part of it. -/
def cleaned (t : Text) : Text :=
  (Text.trim (·.toNat ≤ 0x20) t).filter fun c => c != '\t' && c != '\n' && c != '\r'

/-- A scheme goes on with letters, digits and three marks. -/
def continuesScheme (c : Char) : Bool := c.isAlphanum || c == '+' || c == '-' || c == '.'

/-- The scheme in lower case, and what follows its colon. -/
def scheme? (t : Text) : Option (Text × Text) :=
  match t.takeWhile continuesScheme, t.dropWhile continuesScheme with
  | c :: cs, ':' :: rest => if c.isAlpha then some ((c :: cs).map Char.toLower, rest) else none
  | _, _ => none

/-- The schemes that the web knows, and the service number that each has by itself. -/
def specialSchemes : List (Text × Option Nat) :=
  [("file".toList, none), ("ftp".toList, some 21), ("http".toList, some 80),
    ("https".toList, some 443), ("ws".toList, some 80), ("wss".toList, some 443)]

/-- A scheme that the web knows. -/
def isSpecial (scheme : Text) : Bool := specialSchemes.any (·.1 == scheme)

def fileScheme : Text := "file".toList

/-- Special schemes take a backslash for a slash. -/
def isSlash (special : Bool) (c : Char) : Bool := c == '/' || (special && c == '\\')

/-! ## Authorities -/

/-- A service number. The scheme's own is left out. -/
def service? (standard : Option Nat) (t : Text) : Option (Option Nat) :=
  if t.isEmpty then some none
  else if t.all Char.isDigit then
    let n := t.foldl (fun n c => 10 * n + (c.toNat - 48)) 0
    if 65535 < n then none
    else some (if standard = some n then none else some n)
  else none

/-- A host and what stands behind its colon. A colon in brackets belongs to the host. -/
def cutService (t : Text) : Text × Option Text :=
  let inner := if t.head? == some '[' then t.takeWhile (· != ']') else []
  let (outer, service) := Text.cutAt (· == ':') (t.drop inner.length)
  (inner ++ outer, service)

/-- A user and the host behind the last at sign. -/
def cutUser (t : Text) : Text × Text :=
  match Text.cutAt (· == '@') t.reverse with
  | (_, none) => ([], t)
  | (host, some user) => (user.reverse, host.reverse)

/-- An authority, and the start of a path if the service number ends in a backslash. Only an
authority with no user and no service number may leave its host empty. -/
def authority? (scheme t : Text) : Option (Authority × Text) := do
  let (user, place) := cutUser t
  let (name, password) := Text.cutAt (· == ':') user
  let name := percentEncode inUser name
  let password := percentEncode inUser (password.getD [])
  let (host, service) := cutService place
  let host ← if isSpecial scheme then domain? host else opaqueHost? host
  let isAnonymous := name.isEmpty && password.isEmpty
  if host.isEmpty && !(isAnonymous && service.isNone) then none
  let digits := (service.getD []).takeWhile (· != '\\')
  let standard := (specialSchemes.find? (·.1 == scheme)).bind (·.2)
  return (⟨name, password, host, ← service? standard digits⟩,
    (service.getD []).drop digits.length)

/-- The host of a local file. The local host need not be named. -/
def fileHost? (t : Text) : Option Text := do
  let host ← if t.isEmpty then some [] else domain? t
  return if host = "localhost".toList then [] else host

/-! ## Paths -/

/-- A drive letter with its colon or bar. -/
def isDrive : Text → Bool
  | [c, m] => c.isAlpha && (m == ':' || m == '|')
  | _ => false

/-- A segment with its encoded dots in the open. -/
def plainDots : Text → Text
  | '%' :: '2' :: 'e' :: cs => '.' :: plainDots cs
  | '%' :: '2' :: 'E' :: cs => '.' :: plainDots cs
  | c :: cs => c :: plainDots cs
  | [] => []

/-- Goes up one segment. A drive stays. -/
def shorten (path : List Text) : List Text :=
  if path.getLast?.any isDrive then path else path.dropLast

/-- Puts a segment behind a path. `.` and `..` are steps and no names, but a path that ends in one
ends in a slash. -/
def pushSegment (isFile : Bool) (path : List Text) (segment : Text) (isLast : Bool) : List Text :=
  let close := if isLast then [[]] else []
  if plainDots segment = ['.', '.'] then shorten path ++ close
  else if plainDots segment = ['.'] then path ++ close
  else if isFile && path.isEmpty && isDrive segment then path ++ [segment.take 1 ++ [':']]
  else path ++ [percentEncode inPath segment]

/-- Puts segments behind a path. -/
def pushSegments (isFile : Bool) (path : List Text) : List Text → List Text
  | [] => path
  | segment :: segments =>
    pushSegments isFile (pushSegment isFile path segment segments.isEmpty) segments

/-- The segments of a path, which stands behind its first slash. -/
def segmentsOf (scheme t : Text) : List Text :=
  pushSegments (scheme == fileScheme) [] (Text.parts (isSlash (isSpecial scheme)) t)

def dropSlash (special : Bool) : Text → Text
  | c :: cs => if isSlash special c then cs else c :: cs
  | [] => []

/-! ## Addresses -/

/-- A local file. All slashes at the start of its path are one. A path that starts with a drive
is on this machine, whatever host is named. -/
def fileParts (host : Text) (names : List Text) : Option Authority × Path :=
  let host := if names.head?.any isDrive then [] else host
  let names := names.dropWhile List.isEmpty
  (some ⟨[], [], host, none⟩, .segments (if names.isEmpty then [[]] else names))

/-- The authority and path of a local file. A slash behind a host starts the path, and one behind
no host is a segment of it. -/
def fileParts? (t : Text) : Option (Option Authority × Path) := do
  let here (t : Text) := fileParts [] (segmentsOf fileScheme t)
  match t with
  | a :: b :: rest =>
    if isSlash true a && isSlash true b then
      let name := rest.takeWhile (!isSlash true ·)
      let behind := rest.drop name.length
      -- A drive in the place of the host is the start of the path.
      if isDrive name then return here rest
      let host ← fileHost? name
      if host.isEmpty then return here behind
      return fileParts host (segmentsOf fileScheme (dropSlash true behind))
    else return here (dropSlash true t)
  | _ => return here (dropSlash true t)

/-- The authority and path of a special scheme. Any number of slashes leads to the authority. -/
def specialParts? (scheme t : Text) : Option (Option Authority × Path) := do
  let t := t.dropWhile (isSlash true)
  let place := t.takeWhile (!isSlash true ·)
  let (authority, _) ← authority? scheme place
  return (authority, .segments (segmentsOf scheme (dropSlash true (t.drop place.length))))

/-- The authority and path of any other scheme. `isWhole` says that neither a query nor a fragment
follows. Only then an authority may be an at sign alone. -/
def otherParts? (scheme t : Text) (isWhole : Bool) : Option (Option Authority × Path) := do
  match t with
  | '/' :: '/' :: rest =>
    let place := rest.takeWhile (· != '/')
    let path := rest.drop place.length
    if place = ['@'] && !(path.isEmpty && isWhole) then none
    let (authority, start) ← authority? scheme place
    let path := start ++ path
    if path.isEmpty then return (authority, .segments [])
    return (authority, .segments (segmentsOf scheme (dropSlash false path)))
  | '/' :: path => return (none, .segments (segmentsOf scheme path))
  | _ => return (none, .opaqueText (percentEncode isControl t))

/-- Reads an absolute address. -/
def read? (t : Text) : Option Uri := do
  let (scheme, t) ← scheme? (cleaned t)
  let (t, fragment) := Text.cutAt (· == '#') t
  let (t, query) := Text.cutAt (· == '?') t
  let (authority, path) ←
    if scheme = fileScheme then fileParts? t
    else if isSpecial scheme then specialParts? scheme t
    else otherParts? scheme t (query.isNone && fragment.isNone)
  return {
    scheme, authority, path
    query := query.map (percentEncode (inQuery (isSpecial scheme)))
    fragment := fragment.map (percentEncode inFragment)
  }

end LanguageServer.Uri
