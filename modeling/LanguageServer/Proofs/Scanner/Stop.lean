import LanguageServer.Proofs.Lexeme.Cover
import LanguageServer.Proofs.Text.Cutting
import LanguageServer.Proofs.Text.Search

/-! # Where lexemes stop in the bytes

The searches of a cursor stop where the cut of the same rule does (`Rule.stopInBytes_eq`), so
between two characters. -/

namespace LanguageServer

open Lexeme Text

/-! ## Checks that hold -/

namespace Text

theorem sliceChecked_append (a b c : Text) :
    sliceChecked (a ++ b ++ c) (byteSize a) (byteSize a + byteSize b) = .ok b := by
  have hstart : IsBoundary (a ++ b ++ c) (byteSize a) := by
    rw [List.append_assoc]
    exact isBoundary_append a (b ++ c)
  have hstop : IsBoundary (a ++ b ++ c) (byteSize a + byteSize b) := by
    rw [← byteSize_append]
    exact isBoundary_append (a ++ b) c
  unfold sliceChecked
  rw [if_pos ⟨Nat.le_add_right _ _, hstart, hstop⟩, slice_append]

theorem sliceChecked_rest (a b : Text) :
    sliceChecked (a ++ b) (byteSize a) (byteSize (a ++ b)) = .ok b := by
  have hslice := sliceChecked_append a b []
  rwa [List.append_nil, ← byteSize_append] at hslice

theorem bytesChecked_append (a b : Text) : bytesChecked (a ++ b) (byteSize a) = .ok (bytes b) := by
  have hle : byteSize a ≤ byteSize (a ++ b) := by
    rw [byteSize_append]
    exact Nat.le_add_right _ _
  unfold bytesChecked
  rw [if_pos hle, bytes_append, List.drop_left' (length_bytes a)]

end Text

/-! ## Rules -/

namespace Rule

theorem ofBytes_eq (c : Char) (cs : Text) : ofBytes c (bytes (c :: cs)) = of c cs := by
  unfold ofBytes of
  rw [isPrefixOf_bytes (by decide), isPrefixOf_bytes (by decide)]

theorem elim_add (found : Option Nat) (m n : Nat) :
    found.elim (m + n) (m + ·) = m + found.getD n := by
  cases found <;> rfl

theorem elim_add_map (found : Option Nat) (m n k : Nat) :
    found.elim (m + n) (m + · + k) = m + (found.map (· + k)).getD n := by
  cases found with
  | none => rfl
  | some i => exact Nat.add_assoc m i k

theorem runBytes_eq {p : Char → Bool} (hp : ∀ c, p c = true → c.toNat < 0x80) {c : Char}
    (hc : p c = true) (cs : Text) :
    runBytes p (bytes (c :: cs)) = byteSize (c :: cs.takeWhile p) := by
  rw [runBytes_bytes hp, List.takeWhile_cons_of_pos hc]

theorem stopInBytes_eq {r : Rule} {c : Char} {cs : Text} (h : r.Applies (c :: cs))
    (before : Text) :
    r.stopInBytes (before ++ c :: cs) (byteSize before) c =
      .ok (byteSize before + byteSize (c :: (r.cut cs).1)) := by
  cases r with
  | blank | symbol => rfl
  | lineComment =>
    obtain ⟨rfl, -⟩ := List.cons_prefix_cons.mp h
    rw [stopInBytes, cut, bytesChecked_append, ScanFault.ok_bind, byteSize_append, elim_add,
      getD_findBytes?_feed, List.takeWhile_cons_of_pos (by decide)]
    rfl
  | blockComment =>
    obtain ⟨body, hbody⟩ := h
    obtain ⟨rfl, hcs⟩ := List.cons.inj hbody
    obtain rfl : cs = '!' :: body := hcs.symm
    have hthrough := getD_findBytes?_through (m := blockCloser) (by decide) (by decide) body
    have hsplit : before ++ '/' :: '!' :: body = before ++ blockOpener ++ body :=
      (List.append_assoc before blockOpener body).symm
    have hcut : byteSize ('/' :: (Rule.blockComment.cut ('!' :: body)).1) =
        byteSize blockOpener + byteSize (through blockCloser body).1 := by
      rw [← byteSize_append]
      rfl
    rw [stopInBytes, hsplit, ← byteSize_append, bytesChecked_append, ScanFault.ok_bind,
      byteSize_append _ body, elim_add_map, hthrough, hcut, byteSize_append, Nat.add_assoc]
    rfl
  | string =>
    obtain rfl := Option.some.inj h
    have hquoted := quotedBytes_bytes (b := '"'.toUInt8) (p := '"') (by decide) cs
    rw [stopInBytes, cut, bytesChecked_append, ScanFault.ok_bind, bytes_cons_of_lt (by decide)]
    simp only
    rw [hquoted, Nat.add_assoc]
    rfl
  | number =>
    obtain ⟨d, hd, hdigit⟩ := h
    obtain rfl := Option.some.inj hd
    have hrun := runBytes_eq (fun _ => toNat_lt_of_continuesNumber)
      (continuesNumber_of_isDigit hdigit) cs
    rw [stopInBytes, bytesChecked_append, ScanFault.ok_bind, hrun]
    rfl
  | word =>
    obtain ⟨d, hd, hstart⟩ := h
    obtain rfl := Option.some.inj hd
    have hrun := runBytes_eq (fun _ => toNat_lt_of_continuesWord)
      (continuesWord_of_startsWord hstart) cs
    rw [stopInBytes, bytesChecked_append, ScanFault.ok_bind, hrun]
    rfl

end Rule

end LanguageServer
