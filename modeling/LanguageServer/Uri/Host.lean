import LanguageServer.Text
import LanguageServer.Uri
import LanguageServer.Uri.Name

/-! # Hosts

A host is a name or an address in numbers. A name is ASCII, in lower case. The two forms of
addresses, four bytes and eight groups, have many spellings, so an address is read as numbers and
written in one way. -/

namespace LanguageServer.Uri

open Text (number?)

/-! ## Four bytes -/

/-- A number in a host. A leading `0x` makes it hexadecimal, and any other leading zero octal. -/
def hostNumber? : Text → Option Nat
  | [] => none
  | '0' :: 'x' :: t => number? 16 t
  | '0' :: c :: t => number? 8 (c :: t)
  | t => number? 10 t

/-- The parts of a name between its dots. A dot at the end is passed over. -/
def labels (t : Text) : List Text :=
  let parts := Text.parts (· == '.') t
  if 1 < parts.length && parts.getLast? == some [] then parts.dropLast else parts

/-- Whether a name has to be an address: its last part is a number. -/
def endsInNumber (t : Text) : Bool :=
  match (labels t).getLast? with
  | some l => !l.isEmpty && (l.all Char.isDigit || (hostNumber? l).isSome)
  | none => false

/-- The value of an address from its numbers. Each is a byte, and the last one fills all that the
others leave. -/
def addressValue? (numbers : List Nat) : Option Nat :=
  let bytes := numbers.dropLast
  let last := numbers.getLast?.getD 0
  if bytes.length < 4 && bytes.all (· < 256) && last < Nat.pow 256 (4 - bytes.length) then
    some (bytes.foldl (fun n b => 256 * n + b) 0 * Nat.pow 256 (4 - bytes.length) + last)
  else none

def bytesText (n : Nat) : Text :=
  let bytes := [n / 16777216, n / 65536, n / 256, n].map (· % 256)
  List.intercalate ['.'] (bytes.map (Nat.toDigits 10))

def bytesAddress? (t : Text) : Option Text := do
  return bytesText (← addressValue? (← (labels t).mapM hostNumber?))

/-! ## Eight groups -/

/-- A group: one to four hexadecimal digits. -/
def group? (t : Text) : Option Nat :=
  if t.isEmpty || 4 < t.length then none else number? 16 t

/-- A byte in decimal digits, with no zero in front. -/
def byte? (t : Text) : Option Nat :=
  match t with
  | [] => none
  | '0' :: _ :: _ => none
  | t => (number? 10 t).filter (· < 256)

/-- The groups between colons. If `bytes`, four bytes may stand for the last two. -/
def groups? (bytes : Bool) (t : Text) : Option (List Nat) :=
  let parts := if t.isEmpty then [] else Text.parts (· == ':') t
  match bytes, Text.parts (· == '.') (parts.getLast?.getD []) with
  | true, [a, b, c, d] => do
    let gs ← parts.dropLast.mapM group?
    return gs ++ [256 * (← byte? a) + (← byte? b), 256 * (← byte? c) + (← byte? d)]
  | _, _ => parts.mapM group?

/-- Cuts a text at its first double colon. -/
def cutGap : Text → Text × Option Text
  | [] => ([], none)
  | ':' :: ':' :: cs => ([], some cs)
  | c :: cs =>
    let r := cutGap cs
    (c :: r.1, r.2)

/-- An address of eight groups. A double colon stands for as many zeros as are missing. -/
def groupsAddress? (t : Text) : Option (List Nat) :=
  match cutGap t with
  | (whole, none) => (groups? true whole).filter (·.length == 8)
  | (before, some behind) => do
    let gs ← groups? false before
    let hs ← groups? true behind
    if gs.length + hs.length < 8 then
      some (gs ++ List.replicate (8 - gs.length - hs.length) 0 ++ hs)
    else none

/-- Groups between colons. The first of the longest runs of zeros is left out, if it has two at
least. -/
def groupsText (gs : List Nat) : Text :=
  let joined (gs : List Nat) : Text := List.intercalate [':'] (gs.map (Nat.toDigits 16))
  let runs := (List.range gs.length).map fun i => ((gs.drop i).takeWhile (· == 0)).length
  let longest := runs.foldl max 0
  if longest < 2 then joined gs
  else
    let place := runs.idxOf longest
    joined (gs.take place) ++ [':', ':'] ++ joined (gs.drop (place + longest))

/-- An address of eight groups, in brackets. -/
def bracketed? (t : Text) : Option Text :=
  match t, t.getLast? with
  | '[' :: inner, some ']' => do
    return '[' :: groupsText (← groupsAddress? inner.dropLast) ++ [']']
  | _, _ => none

/-! ## Hosts -/

/-- The host of a special scheme. -/
def domain? (t : Text) : Option Text :=
  if t.head? == some '[' then bracketed? t
  else do
    let name ← Name.toAscii? (← utf8Text? (percentDecode t))
    if name.isEmpty then none
    else if endsInNumber name then bytesAddress? name
    else some name

/-- The host of any other scheme. -/
def opaqueHost? (t : Text) : Option Text :=
  if t.head? == some '[' then bracketed? t
  else if t.any isForbiddenInHost then none
  else some (percentEncode isControl t)

end LanguageServer.Uri
