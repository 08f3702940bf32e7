import LanguageServer.Text.Units

/-! # Positions

A position is a line and a column in UTF-16 units, both from zero. A column stops at
`unitLimit`, so every position can be sent. Consuming a text moves a position: a line feed to
the start of the next line, any other character to the right by its width. -/

namespace LanguageServer

/-- A place in a text: line and column in UTF-16 units. -/
structure Position where
  line : Nat
  column : Nat
  column_le : column ≤ unitLimit := by decide
deriving DecidableEq, Repr

namespace Position

def origin : Position := ⟨0, 0, Nat.zero_le _⟩

instance : Inhabited Position := ⟨origin⟩

/-- The position at a line and column, if a client can be told it. -/
def at? (line column : Nat) : Option Position :=
  if h : line ≤ unitLimit ∧ column ≤ unitLimit then some ⟨line, column, h.2⟩ else none

/-- Positions are ordered by line, then by column. -/
protected def compare (p q : Position) : Ordering :=
  (compare p.line q.line).then (compare p.column q.column)

instance : Ord Position := ⟨Position.compare⟩

instance : LE Position := ⟨fun p q => p.line < q.line ∨ p.line = q.line ∧ p.column ≤ q.column⟩

instance (p q : Position) : Decidable (p ≤ q) := inferInstanceAs (Decidable (_ ∨ _))

/-- `n` units further in the same line. -/
def right (p : Position) (n : Nat) : Position :=
  ⟨p.line, min (p.column + n) unitLimit, Nat.min_le_right _ _⟩

def nextLine (p : Position) : Position := ⟨p.line + 1, 0, Nat.zero_le _⟩

/-- The position after one character. -/
def step (p : Position) (c : Char) : Position :=
  if c = '\n' then p.nextLine else p.right (Text.charWidth c)

/-- A position that was counted from `p`, counted from where `p` is. Only the line of `p` itself
goes on at its column. -/
def plus (p q : Position) : Position :=
  if q.line = 0 then p.right q.column else ⟨p.line + q.line, q.column, q.column_le⟩

instance : Add Position := ⟨plus⟩

/-- The position after a text, one character at a time. -/
def walk (p : Position) (t : Text) : Position := t.foldl step p

/-- The position after a text. A text inside one line is only measured. -/
def after (p : Position) (t : Text) : Position :=
  if '\n' ∈ t then p.walk t else p.right t.boundedWidth

/-- The position after the bytes `start` to `stop` of a text. -/
def advance (p : Position) (t : Text) (start stop : Nat) : Position :=
  p.after (t.slice start stop)

/-- The position at the end of a text. -/
def endOf (t : Text) : Position := origin.after t

@[ext] theorem ext {p q : Position} (hl : p.line = q.line) (hc : p.column = q.column) : p = q := by
  cases p; cases q; simp_all

@[simp] theorem walk_nil (p : Position) : p.walk [] = p := rfl

@[simp] theorem walk_cons (p : Position) (c : Char) (t : Text) :
    p.walk (c :: t) = (p.step c).walk t := rfl

@[simp] theorem walk_append (p : Position) (a b : Text) : p.walk (a ++ b) = (p.walk a).walk b := by
  simp [walk]

@[simp] theorem right_zero (p : Position) : p.right 0 = p := by
  ext <;> simp [right, Nat.min_eq_left p.column_le]

@[simp] theorem right_right (p : Position) (m n : Nat) : (p.right m).right n = p.right (m + n) := by
  ext <;> simp [right]; omega

theorem right_boundedWidth (p : Position) (t : Text) : p.right t.boundedWidth = p.right t.width := by
  ext
  · rfl
  · -- What the text is too wide by is lost in the column anyway.
    simp only [right, Text.boundedWidth_eq]
    omega

theorem after_singleton (p : Position) (c : Char) : p.after [c] = p.step c := by
  unfold after
  split
  · rfl
  · next h =>
    have hc : c ≠ '\n' := fun hc => h (hc ▸ List.mem_singleton_self c)
    rw [right_boundedWidth, step, if_neg hc]
    rfl

end Position

/-- Two positions: the part of a text from the first to the second. -/
structure Range where
  start : Position
  stop : Position
deriving DecidableEq, Repr

end LanguageServer
