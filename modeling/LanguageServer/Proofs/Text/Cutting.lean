import LanguageServer.Text.Units

/-! # Cutting a text

A cut between two parts of a text is a boundary, and the parts come back out. A client that reads
as many units as a part has gets to the same place (`bytesOfUnits?_append`). -/

namespace LanguageServer.Text

/-- The bytes of the characters in the first `n` units, if these are whole characters and exactly
`n` units. -/
def bytesOfUnits? : Text → Nat → Option Nat
  | _, 0 => some 0
  | [], _ + 1 => none
  | c :: cs, n + 1 =>
    if charWidth c ≤ n + 1 then
      (bytesOfUnits? cs (n + 1 - charWidth c)).map (c.utf8Size + ·)
    else none

theorem byteSize_pos {t : Text} (h : t ≠ []) : 0 < byteSize t := by
  cases t with
  | nil => exact absurd rfl h
  | cons c cs =>
    rw [byteSize_cons]
    have := c.utf8Size_pos
    omega

theorem isBoundary_append (a b : Text) : IsBoundary (a ++ b) (byteSize a) := by
  rw [IsBoundary, takeBytes_append]

theorem takeBytes_zero (t : Text) : takeBytes 0 t = [] := takeBytes_append [] t

theorem takeBytes_cons_add (c : Char) (cs : Text) (n : Nat) :
    takeBytes (c.utf8Size + n) (c :: cs) = c :: takeBytes n cs := by
  rw [takeBytes, if_pos (Nat.le_add_right _ _), Nat.add_sub_cancel_left]

theorem IsBoundary.cons {cs : Text} {n : Nat} (h : IsBoundary cs n) (c : Char) :
    IsBoundary (c :: cs) (c.utf8Size + n) := by
  unfold IsBoundary at h ⊢
  rw [takeBytes_cons_add, byteSize_cons, h]

theorem IsBoundary.le_byteSize {t : Text} {n : Nat} (h : IsBoundary t n) : n ≤ byteSize t := by
  have hsize := congrArg byteSize (takeBytes_append_dropBytes n t)
  rw [byteSize_append, h] at hsize
  omega

theorem slice_append (a b c : Text) :
    slice (a ++ b ++ c) (byteSize a) (byteSize a + byteSize b) = b := by
  rw [slice, Nat.add_sub_cancel_left, List.append_assoc, dropBytes_append, takeBytes_append]

theorem takeBytes_append_of_le {a : Text} {n : Nat} (h : byteSize a ≤ n) (b : Text) :
    takeBytes n (a ++ b) = a ++ takeBytes (n - byteSize a) b := by
  induction a generalizing n with
  | nil => simp
  | cons c cs ih =>
    rw [byteSize_cons] at h
    rw [List.cons_append, takeBytes, if_pos (by omega), ih (by omega), byteSize_cons, Nat.sub_sub,
      List.cons_append]

theorem IsBoundary.takeBytes_eq {t : Text} {m n : Nat} (h : IsBoundary t m) (hle : m ≤ n) :
    takeBytes n t = takeBytes m t ++ slice t m n := by
  have htake := takeBytes_append_of_le (Nat.le_trans (Nat.le_of_eq h) hle) (dropBytes m t)
  rw [takeBytes_append_dropBytes, h] at htake
  exact htake

namespace IsBoundary

variable {t : Text} {start middle stop : Nat}

theorem slice_append_dropBytes (h : t.IsBoundary start) (hle : start ≤ stop) :
    t.slice start stop ++ t.dropBytes stop = t.dropBytes start := by
  have hsplit : t.takeBytes start ++ (t.slice start stop ++ t.dropBytes stop) =
      t.takeBytes start ++ t.dropBytes start := by
    rw [← List.append_assoc, ← h.takeBytes_eq hle, takeBytes_append_dropBytes,
      takeBytes_append_dropBytes]
  exact List.append_cancel_left hsplit

theorem slice_append_slice (h : t.IsBoundary start) (hmiddle : t.IsBoundary middle)
    (hle : start ≤ middle) (hle' : middle ≤ stop) :
    t.slice start middle ++ t.slice middle stop = t.slice start stop := by
  have hsplit : t.takeBytes start ++ (t.slice start middle ++ t.slice middle stop) =
      t.takeBytes start ++ t.slice start stop := by
    rw [← List.append_assoc, ← h.takeBytes_eq hle, ← hmiddle.takeBytes_eq hle',
      ← h.takeBytes_eq (Nat.le_trans hle hle')]
  exact List.append_cancel_left hsplit

theorem byteSize_slice (h : t.IsBoundary start) (hstop : t.IsBoundary stop) (hle : start ≤ stop) :
    start + byteSize (t.slice start stop) = stop := by
  have hsize := congrArg byteSize (h.takeBytes_eq hle)
  rw [byteSize_append, h, hstop] at hsize
  exact hsize.symm

end IsBoundary

theorem width_takeBytes_le (n : Nat) (t : Text) : (takeBytes n t).width ≤ t.width := by
  have hwidth := congrArg width (takeBytes_append_dropBytes n t)
  rw [width_append] at hwidth
  omega

theorem bytesOfUnits?_append (a b : Text) :
    bytesOfUnits? (a ++ b) (width a) = some (byteSize a) := by
  induction a with
  | nil => cases b <;> rfl
  | cons c cs ih =>
    obtain ⟨n, hn⟩ : ∃ n, width (c :: cs) = n + 1 := by
      refine ⟨width (c :: cs) - 1, ?_⟩
      have := charWidth_pos c
      rw [width_cons]
      omega
    have hrest : n + 1 - charWidth c = width cs := by
      rw [← hn, width_cons, Nat.add_sub_cancel_left]
    have hfits : charWidth c ≤ n + 1 := by
      rw [← hn, width_cons]
      exact Nat.le_add_right _ _
    rw [hn, List.cons_append, bytesOfUnits?, if_pos hfits, hrest, ih, Option.map_some,
      byteSize_cons]

end LanguageServer.Text
