import LanguageServer.Scanner

/-! # Scanning in place

The scan of a text that stays in one piece. A cursor keeps a byte offset into the text and the
position there, and the end of a lexeme is searched for byte by byte. Such a search knows nothing of
characters, so all that could go wrong behind it is checked: what is taken out of the text has to be
whole characters (`Text.sliceChecked`), a lexeme may not be empty (`Cursor.lexeme`), and a line has
to have a number for the client (`Position.stepChecked`). A check that fails is a `ScanFault`. -/

namespace LanguageServer

/-- Why a scan cannot go on. -/
inductive ScanFault where
  /-- The bytes from `start` to `stop` are not there, or no whole characters. -/
  | badSlice (start stop : Nat)
  /-- The lexeme at `start` has no bytes. -/
  | emptyLexeme (start : Nat)
  /-- The line behind the last one that has a number. -/
  | tooManyLines
deriving DecidableEq, Repr

namespace ScanFault

variable {α β : Type}

@[simp] theorem ok_bind (a : α) (f : α → Except ScanFault β) : Except.ok a >>= f = f a := rfl

theorem bind_eq_ok {x : Except ScanFault α} {f : α → Except ScanFault β} {b : β} :
    x >>= f = .ok b ↔ ∃ a, x = .ok a ∧ f a = .ok b := by
  cases x <;> simp [bind, Except.bind]

theorem map_eq_ok {x : Except ScanFault α} {f : α → β} {b : β} :
    f <$> x = .ok b ↔ ∃ a, x = .ok a ∧ f a = b := by
  cases x <;> simp [Functor.map, Except.map]

end ScanFault

namespace Text

/-- The text from byte `start` to byte `stop`, which have to be boundaries. -/
def sliceChecked (t : Text) (start stop : Nat) : Except ScanFault Text :=
  if start ≤ stop ∧ t.IsBoundary start ∧ t.IsBoundary stop then .ok (t.slice start stop)
  else .error (.badSlice start stop)

theorem lt_byteSize_of_sliceChecked {t cs : Text} {c : Char} {start stop : Nat}
    (h : t.sliceChecked start stop = .ok (c :: cs)) : start < t.byteSize := by
  unfold sliceChecked at h
  split at h
  · next hchecks =>
    have hsize := congrArg byteSize (takeBytes_append_dropBytes start t)
    rw [byteSize_append, hchecks.2.1] at hsize
    cases hrest : dropBytes start t with
    | nil =>
      rw [slice, hrest] at h
      cases h
    | cons d ds =>
      rw [hrest, byteSize_cons] at hsize
      have hpos := d.utf8Size_pos
      omega
  · cases h

/-- The bytes from `start` on, which may not be past the end. -/
def bytesChecked (t : Text) (start : Nat) : Except ScanFault (List UInt8) :=
  if start ≤ t.byteSize then .ok (t.bytes.drop start) else .error (.badSlice start t.byteSize)

/-- Where the first `marker` starts. -/
def findBytes? (marker : List UInt8) : List UInt8 → Option Nat
  | [] => if marker = [] then some 0 else none
  | b :: bs => if marker.isPrefixOf (b :: bs) then some 0 else (findBytes? marker bs).map (· + 1)

/-- How many bytes there are through the first quote that no backslash precedes, or to the end.
`previous` is the byte before them. -/
def quotedBytes (previous : UInt8) : List UInt8 → Nat
  | [] => 0
  | b :: bs =>
    if b = '"'.toUInt8 ∧ previous ≠ '\\'.toUInt8 then 1 else quotedBytes b bs + 1

/-- How many bytes there are in front of the first one that `p` does not hold for. -/
def runBytes (p : Char → Bool) (bs : List UInt8) : Nat := (bs.takeWhile (p <| .ofUInt8 ·)).length

end Text

namespace Position

/-- The position after one character, if its line has a number. -/
def stepChecked (p : Position) (c : Char) : Except ScanFault Position :=
  if c = '\n' ∧ unitLimit ≤ p.line then .error .tooManyLines else .ok (p.step c)

/-- The position after the bytes `start` to `stop` of a text. -/
def advanceChecked (p : Position) (t : Text) (start stop : Nat) : Except ScanFault Position := do
  let span ← t.sliceChecked start stop
  if (Text.findBytes? (Text.bytes ['\n']) span.bytes).isNone then
    return p.right span.boundedWidth
  else span.foldlM stepChecked p

end Position

open Lexeme

/-- The rule for a lexeme that starts with `c`, where `bs` are the bytes from `c` on. -/
def Rule.ofBytes (c : Char) (bs : List UInt8) : Rule :=
  if Text.isBlank c then .blank
  else if (Text.bytes lineOpener).isPrefixOf bs then .lineComment
  else if (Text.bytes blockOpener).isPrefixOf bs then .blockComment
  else if c = '"' then .string
  else if c.isDigit then .number
  else if startsWord c then .word
  else .symbol

/-- Where a lexeme of a rule stops that starts at the byte `start` with `c`. -/
def Rule.stopInBytes (t : Text) (start : Nat) (c : Char) : Rule → Except ScanFault Nat
  | .blank | .symbol => return start + c.utf8Size
  | .lineComment => do
    let bs ← t.bytesChecked start
    return (Text.findBytes? (Text.bytes ['\n']) bs).elim t.byteSize (start + ·)
  | .blockComment => do
    let body := start + blockOpener.byteSize
    let bs ← t.bytesChecked body
    return (Text.findBytes? (Text.bytes blockCloser) bs).elim t.byteSize
      (body + · + blockCloser.byteSize)
  | .string => do
    match ← t.bytesChecked start with
    | [] => return start + 1
    | quote :: bs => return start + 1 + Text.quotedBytes quote bs
  | .number => do
    let bs ← t.bytesChecked start
    return start + Text.runBytes continuesNumber bs
  | .word => do
    let bs ← t.bytesChecked start
    return start + Text.runBytes continuesWord bs

/-- A place in a text: its byte offset and its position. -/
structure Cursor where
  offset : Nat
  place : Position
deriving DecidableEq, Repr

namespace Cursor

def start : Cursor := ⟨0, .origin⟩

def skip (k : Cursor) (c : Char) : Except ScanFault Cursor := do
  let place ← k.place.stepChecked c
  return ⟨k.offset + c.utf8Size, place⟩

/-- Takes the text up to the byte `stop` as one lexeme. -/
def lexeme (t : Text) (k : Cursor) (rule : Rule) (stop : Nat) :
    Except ScanFault (Placed × Cursor) :=
  if stop ≤ k.offset then .error (.emptyLexeme k.offset)
  else do
    let text ← t.sliceChecked k.offset stop
    let place ← k.place.advanceChecked t k.offset stop
    return (⟨⟨rule, text⟩, k.offset, k.place⟩, ⟨stop, place⟩)

/-- Reads the lexeme that starts with `c`. -/
def read (t : Text) (k : Cursor) (c : Char) : Except ScanFault (Placed × Cursor) := do
  let bs ← t.bytesChecked k.offset
  let rule := Rule.ofBytes c bs
  if rule = .blank then
    let after ← k.skip c
    return (⟨⟨.blank, [c]⟩, k.offset, k.place⟩, after)
  else
    let stop ← rule.stopInBytes t k.offset c
    k.lexeme t rule stop

/-- Reads one lexeme, if there is text left. -/
def turn? (t : Text) (k : Cursor) : Except ScanFault (Option (Placed × Cursor)) := do
  match ← t.sliceChecked k.offset t.byteSize with
  | [] => return none
  | c :: _ => some <$> k.read t c

/-- The lexemes of the first `count` turns. -/
def turns (t : Text) (k : Cursor) : Nat → Except ScanFault (List Placed)
  | 0 => return []
  | count + 1 => do
    match ← k.turn? t with
    | none => return []
    | some (l, k) =>
      let ls ← k.turns t count
      return l :: ls

theorem offset_lt_of_read {t : Text} {k k' : Cursor} {c : Char} {l : Placed}
    (h : k.read t c = .ok (l, k')) : k.offset < k'.offset := by
  obtain ⟨bs, -, h⟩ := ScanFault.bind_eq_ok.mp h
  simp only at h
  split at h
  · obtain ⟨after, hskip, h⟩ := ScanFault.bind_eq_ok.mp h
    obtain ⟨place, -, hafter⟩ := ScanFault.bind_eq_ok.mp hskip
    cases hafter
    cases h
    exact Nat.lt_add_of_pos_right c.utf8Size_pos
  · obtain ⟨stop, -, h⟩ := ScanFault.bind_eq_ok.mp h
    unfold lexeme at h
    split at h
    · cases h
    · next hlt =>
      obtain ⟨text, -, h⟩ := ScanFault.bind_eq_ok.mp h
      obtain ⟨place, -, h⟩ := ScanFault.bind_eq_ok.mp h
      cases h
      exact Nat.lt_of_not_le hlt

theorem offset_lt_of_turn? {t : Text} {k k' : Cursor} {l : Placed}
    (h : k.turn? t = .ok (some (l, k'))) : k.offset < t.byteSize ∧ k.offset < k'.offset := by
  obtain ⟨rest, hrest, h⟩ := ScanFault.bind_eq_ok.mp h
  cases rest with
  | nil => cases h
  | cons c cs =>
    obtain ⟨⟨l', k''⟩, hread, h⟩ := ScanFault.map_eq_ok.mp h
    cases h
    exact ⟨Text.lt_byteSize_of_sliceChecked hrest, offset_lt_of_read hread⟩

/-- Takes turns up to the next token. -/
def next (v : Vocabulary) (t : Text) (k : Cursor) : Except ScanFault (Option Token × Cursor) :=
  match _h : k.turn? t with
  | .error fault => .error fault
  | .ok none => .ok (none, k)
  | .ok (some (l, k')) =>
    match l.token? v with
    | some token => .ok (some token, k')
    | none => k'.next v t
termination_by t.byteSize - k.offset
decreasing_by
  obtain ⟨hin, hon⟩ := offset_lt_of_turn? _h
  omega

def steps (v : Vocabulary) (t : Text) (k : Cursor) : Nat → Except ScanFault (List (Option Token))
  | 0 => return []
  | count + 1 => do
    let (token, k) ← k.next v t
    let tokens ← k.steps v t count
    return token :: tokens

end Cursor

end LanguageServer
