import LanguageServer.Text

/-! # Units of texts

Clients count a text in UTF-16 units and edits cut it at UTF-8 byte offsets, so both measures are
functions on the list of its characters. Cutting loses nothing
(`takeBytes_append_dropBytes`), and both measures add up over a concatenation. `byteSize` is the
number of the `bytes` (`length_bytes`). -/

namespace LanguageServer

/-- Positions and lengths are 32-bit numbers for the client. A count that would pass this one
stays on it. -/
def unitLimit : Nat := 4294967295

namespace Text

/-- UTF-16 units of one character: two from U+10000 on, else one. -/
def charWidth (c : Char) : Nat := if c.toNat < 0x10000 then 1 else 2

/-- UTF-16 units of a text. -/
def width (t : Text) : Nat := t.foldr (fun c n => charWidth c + n) 0

/-- The UTF-8 bytes of a text, one after another. -/
def bytes (t : Text) : List UInt8 := t.flatMap String.utf8EncodeChar

/-- UTF-8 bytes of a text. -/
def byteSize (t : Text) : Nat := t.foldr (fun c n => c.utf8Size + n) 0

def isAscii (t : Text) : Bool := t.all (·.toNat < 0x80)

/-- UTF-16 units of a text, as the client is told them. In ASCII every byte is one. -/
def boundedWidth (t : Text) : Nat :=
  min (if t.isAscii then t.byteSize else t.width) unitLimit

/-- The whole characters in the first `n` bytes. -/
def takeBytes (n : Nat) : Text → Text
  | [] => []
  | c :: cs => if c.utf8Size ≤ n then c :: takeBytes (n - c.utf8Size) cs else []

/-- What follows the whole characters in the first `n` bytes. -/
def dropBytes (n : Nat) : Text → Text
  | [] => []
  | c :: cs => if c.utf8Size ≤ n then dropBytes (n - c.utf8Size) cs else c :: cs

/-- The text from byte `start` to byte `stop`. -/
def slice (t : Text) (start stop : Nat) : Text := takeBytes (stop - start) (dropBytes start t)

/-- A byte offset at which a character starts or the text ends. -/
def IsBoundary (t : Text) (n : Nat) : Prop := byteSize (takeBytes n t) = n

instance (t : Text) (n : Nat) : Decidable (IsBoundary t n) :=
  inferInstanceAs (Decidable (_ = _))

@[simp] theorem width_nil : width [] = 0 := rfl

@[simp] theorem width_cons (c : Char) (t : Text) : width (c :: t) = charWidth c + width t := rfl

@[simp] theorem width_append (a b : Text) : width (a ++ b) = width a + width b := by
  induction a with
  | nil => simp
  | cons c cs ih => simp [ih, Nat.add_assoc]

@[simp] theorem byteSize_nil : byteSize [] = 0 := rfl

@[simp] theorem byteSize_cons (c : Char) (t : Text) :
    byteSize (c :: t) = c.utf8Size + byteSize t := rfl

@[simp] theorem byteSize_append (a b : Text) : byteSize (a ++ b) = byteSize a + byteSize b := by
  induction a with
  | nil => simp
  | cons c cs ih => simp [ih, Nat.add_assoc]

@[simp] theorem bytes_append (a b : Text) : bytes (a ++ b) = bytes a ++ bytes b :=
  List.flatMap_append

theorem length_bytes (t : Text) : (bytes t).length = byteSize t := by
  induction t with
  | nil => rfl
  | cons c cs ih =>
    rw [bytes, List.flatMap_cons, List.length_append, String.length_utf8EncodeChar, byteSize_cons,
      ← ih, bytes]

theorem utf8Size_of_lt {c : Char} (hc : c.toNat < 0x80) : c.utf8Size = 1 := by
  rw [Char.utf8Size_eq_one_iff, UInt32.le_iff_toNat_le]
  exact Nat.le_of_lt_succ hc

theorem byteSize_of_isAscii {t : Text} (h : t.isAscii = true) : byteSize t = width t := by
  induction t with
  | nil => rfl
  | cons c cs ih =>
    obtain ⟨hc, hcs⟩ := Bool.and_eq_true_iff.mp h
    have hlow : c.toNat < 0x80 := of_decide_eq_true hc
    have hwidth : charWidth c = 1 := if_pos (by omega)
    rw [byteSize_cons, width_cons, ih hcs, utf8Size_of_lt hlow, hwidth]

theorem boundedWidth_eq (t : Text) : boundedWidth t = min t.width unitLimit := by
  unfold boundedWidth
  split
  · next h => rw [byteSize_of_isAscii h]
  · rfl

theorem charWidth_pos (c : Char) : 0 < charWidth c := by
  unfold charWidth; split <;> decide

theorem charWidth_le_two (c : Char) : charWidth c ≤ 2 := by
  unfold charWidth; split <;> decide

@[simp] theorem takeBytes_append_dropBytes (n : Nat) (t : Text) :
    takeBytes n t ++ dropBytes n t = t := by
  induction t generalizing n with
  | nil => rfl
  | cons c cs ih =>
    by_cases h : c.utf8Size ≤ n
    · simp [takeBytes, dropBytes, h, ih]
    · simp [takeBytes, dropBytes, h]

theorem takeBytes_append (a b : Text) : takeBytes (byteSize a) (a ++ b) = a := by
  induction a with
  | nil =>
    cases b with
    | nil => rfl
    | cons c cs => simp [takeBytes, Nat.not_le.2 c.utf8Size_pos]
  | cons c cs ih => simp [takeBytes, ih]

theorem dropBytes_append (a b : Text) : dropBytes (byteSize a) (a ++ b) = b := by
  have := takeBytes_append_dropBytes (byteSize a) (a ++ b)
  rw [takeBytes_append] at this
  exact List.append_cancel_left this

end Text

end LanguageServer
