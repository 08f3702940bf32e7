import LanguageServer.Json
import LanguageServer.Text

/-! # Reading JSON

Reading is strict: four blanks, no comments, no trailing commas, nothing behind the value, no raw
control characters in a string and no lone surrogates. A text is first cut into pieces, and the
pieces are then assembled on a stack of open lists and objects. -/

namespace LanguageServer.Json

/-! ## Strings -/

/-- What one place of a written string stands for. -/
inductive StringItem where
  | char (c : Char)
  /-- A UTF-16 unit that was written as a number. -/
  | unit (n : Nat)
deriving DecidableEq, Repr

/-- The character that a short escape stands for. -/
def shortEscape? : Char → Option Char
  | '"' => some '"'
  | '\\' => some '\\'
  | '/' => some '/'
  | 'b' => some '\x08'
  | 'f' => some '\x0C'
  | 'n' => some '\n'
  | 'r' => some '\r'
  | 't' => some '\t'
  | _ => none

/-- Reads a string behind its first quote: its items, and the text behind its last quote. -/
def stringItems? : Text → Option (List StringItem × Text)
  | [] => none
  | '"' :: cs => some ([], cs)
  | '\\' :: 'u' :: a :: b :: c :: d :: cs => do
    let n := (((← Text.hexValue? a) * 16 + (← Text.hexValue? b)) * 16 + (← Text.hexValue? c)) * 16 + (← Text.hexValue? d)
    let (items, rest) ← stringItems? cs
    return (.unit n :: items, rest)
  | '\\' :: e :: cs => do
    let c ← shortEscape? e
    let (items, rest) ← stringItems? cs
    return (.char c :: items, rest)
  | c :: cs =>
    if c = '\\' ∨ c.toNat < 0x20 then none
    else do
      let (items, rest) ← stringItems? cs
      return (.char c :: items, rest)

/-- The first half of a surrogate pair. -/
def isHighSurrogate (n : Nat) : Bool := 0xD800 ≤ n && n ≤ 0xDBFF

/-- The second half of a surrogate pair. -/
def isLowSurrogate (n : Nat) : Bool := 0xDC00 ≤ n && n ≤ 0xDFFF

/-- Joins surrogate pairs. `high` is a first half that waits for its second. -/
def joinSurrogates? (high : Option Nat) : List StringItem → Option Text
  | [] => if high.isNone then some [] else none
  | .char c :: items => if high.isNone then (joinSurrogates? none items).map (c :: ·) else none
  | .unit n :: items =>
    match high with
    | some h =>
      if isLowSurrogate n then
        let c := Char.ofNat (0x10000 + (h - 0xD800) * 0x400 + (n - 0xDC00))
        (joinSurrogates? none items).map (c :: ·)
      else none
    | none =>
      if isHighSurrogate n then joinSurrogates? (some n) items
      else if isLowSurrogate n then none
      else (joinSurrogates? none items).map (Char.ofNat n :: ·)

theorem length_stringItems? {t rest : Text} {items : List StringItem}
    (h : stringItems? t = some (items, rest)) : rest.length < t.length := by
  fun_induction stringItems? t generalizing items rest with
  | case1 => simp at h
  | case2 cs => simp_all
  | case3 a b c d cs ih =>
    simp only [Option.bind_eq_bind, Option.bind_eq_some_iff] at h
    obtain ⟨_, _, _, _, _, _, _, _, ⟨i, r⟩, hr, h⟩ := h
    have := ih hr
    simp only [Option.pure_def, Option.some.injEq, Prod.mk.injEq] at h
    simp only [List.length_cons, ← h.2]
    omega
  | case4 e cs _ ih =>
    simp only [Option.bind_eq_bind, Option.bind_eq_some_iff] at h
    obtain ⟨_, _, ⟨i, r⟩, hr, h⟩ := h
    have := ih hr
    simp only [Option.pure_def, Option.some.injEq, Prod.mk.injEq] at h
    simp only [List.length_cons, ← h.2]
    omega
  | case5 => simp at h
  | case6 c cs _ _ _ _ ih =>
    simp only [Option.bind_eq_bind, Option.bind_eq_some_iff] at h
    obtain ⟨⟨i, r⟩, hr, h⟩ := h
    have := ih hr
    simp only [Option.pure_def, Option.some.injEq, Prod.mk.injEq] at h
    simp only [List.length_cons, ← h.2]
    omega

/-! ## Numbers -/

/-- The characters of a number. -/
def isNumberMark (c : Char) : Bool :=
  c.isDigit || c == '-' || c == '+' || c == '.' || c == 'e' || c == 'E'

def digitsValue (t : Text) : Nat := t.foldl (fun n c => 10 * n + (c.toNat - 48)) 0

/-- Whether a text is a fraction, an exponent, both in this order, or empty. -/
def isNumberTail (t : Text) : Bool :=
  let isDigits (t : Text) : Bool := !t.isEmpty && t.all Char.isDigit
  let isExponent : Text → Bool
    | [] => true
    | e :: '+' :: t => (e == 'e' || e == 'E') && isDigits t
    | e :: '-' :: t => (e == 'e' || e == 'E') && isDigits t
    | e :: t => (e == 'e' || e == 'E') && isDigits t
  match t with
  | '.' :: t => isDigits (t.takeWhile Char.isDigit) && isExponent (t.dropWhile Char.isDigit)
  | t => isExponent t

/-- A number without its sign: the digits before the tail, and the tail. No digit may follow a
leading zero. -/
def unsigned? (t : Text) : Option (Nat × Text) :=
  let whole := t.takeWhile Char.isDigit
  let tail := t.dropWhile Char.isDigit
  if whole.isEmpty || (whole.head? == some '0' && 1 < whole.length) || !isNumberTail tail then none
  else some (digitsValue whole, tail)

/-- A number. Minus zero is no integer. -/
def number? : Text → Option Json
  | '-' :: t =>
    match unsigned? t with
    | some (n, []) => some (if n = 0 then .decimal "-0" else .int (-n))
    | some _ => some (.decimal (String.ofList ('-' :: t)))
    | none => none
  | t =>
    match unsigned? t with
    | some (n, []) => some (.int n)
    | some _ => some (.decimal (String.ofList t))
    | none => none

/-! ## Pieces -/

/-- A piece of written JSON. -/
inductive Piece where
  | openList
  | closeList
  | openObject
  | closeObject
  | comma
  | colon
  /-- A value with no values inside. -/
  | leaf (value : Json)

def isBlank (c : Char) : Bool := c == ' ' || c == '\n' || c == '\r' || c == '\t'

/-- The piece that is one character. -/
def bracket? : Char → Option Piece
  | '[' => some .openList
  | ']' => some .closeList
  | '{' => some .openObject
  | '}' => some .closeObject
  | ',' => some .comma
  | ':' => some .colon
  | _ => none

def literals : List (Text × Json) :=
  [(['n', 'u', 'l', 'l'], .null), (['t', 'r', 'u', 'e'], .bool true),
    (['f', 'a', 'l', 's', 'e'], .bool false)]

/-- Reads one piece that starts with `c`, and gives the text behind it. -/
def piece? (c : Char) (cs : Text) : Option (Piece × Text) :=
  if let some p := bracket? c then some (p, cs)
  else if c = '"' then do
    let (items, rest) ← stringItems? cs
    let s ← joinSurrogates? none items
    return (.leaf (.str (String.ofList s)), rest)
  else if isNumberMark c then
    (number? (c :: cs.takeWhile isNumberMark)).map fun n => (.leaf n, cs.dropWhile isNumberMark)
  else
    (literals.find? fun l => l.1.isPrefixOf (c :: cs)).map fun l =>
      (.leaf l.2, cs.drop (l.1.length - 1))

theorem length_piece? {c : Char} {cs rest : Text} {p : Piece} (h : piece? c cs = some (p, rest)) :
    rest.length < (c :: cs).length := by
  rw [List.length_cons, Nat.lt_succ_iff]
  unfold piece? at h
  split at h
  · simp only [Option.some.injEq, Prod.mk.injEq] at h
    exact h.2 ▸ Nat.le_refl _
  split at h
  · simp only [Option.bind_eq_bind, Option.bind_eq_some_iff] at h
    obtain ⟨⟨i, r⟩, hr, _, _, h⟩ := h
    simp only [Option.pure_def, Option.some.injEq, Prod.mk.injEq] at h
    exact h.2 ▸ Nat.le_of_lt (length_stringItems? hr)
  split at h
  · simp only [Option.map_eq_some_iff, Prod.mk.injEq] at h
    obtain ⟨_, _, _, h⟩ := h
    exact h ▸ (List.dropWhile_sublist _).length_le
  · simp only [Option.map_eq_some_iff, Prod.mk.injEq] at h
    obtain ⟨_, _, _, h⟩ := h
    exact h ▸ (List.drop_sublist _ _).length_le

def pieces? (t : Text) : Option (List Piece) :=
  match t with
  | [] => some []
  | c :: cs =>
    if isBlank c then pieces? cs
    else
      match _h : piece? c cs with
      | none => none
      | some (p, rest) => (pieces? rest).map (p :: ·)
termination_by t.length
decreasing_by
  · simp
  · exact length_piece? _h

/-! ## Assembling -/

/-- A list or an object that is still open, with its last item first. -/
inductive Frame where
  | list (items : List Json)
  | object (members : List (String × Json))
  /-- An object whose next member has its name already. -/
  | member (members : List (String × Json)) (name : String)

/-- What the pieces so far leave open. -/
inductive Reading where
  /-- A value has to follow. -/
  | value (above : List Frame)
  /-- An item or the end of the list has to follow. -/
  | firstItem (above : List Frame)
  /-- A name or the end of the object has to follow. -/
  | firstName (above : List Frame)
  /-- A name has to follow. -/
  | name (members : List (String × Json)) (above : List Frame)
  /-- A colon has to follow. -/
  | colon (members : List (String × Json)) (name : String) (above : List Frame)
  /-- A comma or the end of the innermost frame has to follow. -/
  | more (frame : Frame) (above : List Frame)
  /-- Nothing may follow. -/
  | done (value : Json)

namespace Reading

/-- A value is complete: it goes into the innermost frame. -/
def complete (j : Json) : List Frame → Reading
  | [] => .done j
  | .list items :: above => .more (.list (j :: items)) above
  | .object members :: above => .more (.object members) above
  | .member members key :: above => .more (.object ((key, j) :: members)) above

/-- A value starts with this piece. -/
def begin? (above : List Frame) : Piece → Option Reading
  | .openList => some (.firstItem above)
  | .openObject => some (.firstName above)
  | .leaf j => some (complete j above)
  | _ => none

/-- Takes one more piece. -/
def step? : Reading → Piece → Option Reading
  | .value above, p => begin? above p
  | .firstItem above, .closeList => some (complete (.arr []) above)
  | .firstItem above, p => begin? (.list [] :: above) p
  | .firstName above, .closeObject => some (complete (.obj []) above)
  | .firstName above, .leaf (.str key) => some (.colon [] key above)
  | .name members above, .leaf (.str key) => some (.colon members key above)
  | .colon members key above, .colon => some (.value (.member members key :: above))
  | .more (.list items) above, .comma => some (.value (.list items :: above))
  | .more (.list items) above, .closeList => some (complete (.arr items.reverse) above)
  | .more (.object members) above, .comma => some (.name members above)
  | .more (.object members) above, .closeObject => some (complete (.obj members.reverse) above)
  | _, _ => none

end Reading

/-- Reads a text as one JSON value. -/
def read? (t : Text) : Option Json := do
  match ← (← pieces? t).foldlM Reading.step? (.value []) with
  | .done value => some value
  | _ => none

def readString? (s : String) : Option Json := read? s.toList

end LanguageServer.Json
