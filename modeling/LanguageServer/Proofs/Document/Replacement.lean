import LanguageServer.Proofs.Document.Offset
import LanguageServer.Proofs.Text.Cutting
import Mathlib.Data.List.Chain

/-! # Replacements of parts

An editor names a part of a text by the positions at its two ends. An edit of the part leaves the
text in front of it alone, so the positions there stay where they are, whatever follows
(`Replacement.apply_edit`). Edits listed from the last part to the first are therefore one
replacement of all parts (`update_replacements`), and an edit is taken back by the edit of the part
that it wrote (`edit_undo`). -/

namespace LanguageServer

open Text

/-- A part of a text, by the bytes at its two ends, and the text to write for it. -/
structure Replacement where
  start : Nat
  stop : Nat
  text : Text
deriving DecidableEq, Repr

namespace Replacement

/-- The part is one of whole characters of the text. -/
structure IsIn (t : Text) (r : Replacement) : Prop where
  start : t.IsBoundary r.start
  stop : t.IsBoundary r.stop
  le : r.start ≤ r.stop

/-- The parts are in the text, one behind the other. They may touch, and they may be empty. -/
structure InOrder (t : Text) (rs : List Replacement) : Prop where
  isIn : ∀ r ∈ rs, r.IsIn t
  apart : rs.IsChain fun r r' => r.stop ≤ r'.start

instance (t : Text) (r : Replacement) : Decidable (r.IsIn t) :=
  decidable_of_iff (t.IsBoundary r.start ∧ t.IsBoundary r.stop ∧ r.start ≤ r.stop)
    ⟨fun h => ⟨h.1, h.2.1, h.2.2⟩, fun h => ⟨h.start, h.stop, h.le⟩⟩

instance (t : Text) (rs : List Replacement) : Decidable (InOrder t rs) :=
  decidable_of_iff ((∀ r ∈ rs, r.IsIn t) ∧ rs.IsChain fun r r' => r.stop ≤ r'.start)
    ⟨fun h => ⟨h.1, h.2⟩, fun h => ⟨h.isIn, h.apart⟩⟩

/-- The edit that replaces the part, by positions in the text `t`. -/
def edit (t : Text) (r : Replacement) : Edit :=
  ⟨some ⟨.endOf (t.takeBytes r.start), .endOf (t.takeBytes r.stop)⟩, r.text⟩

/-- The edit that puts the part of the text `t` back. It replaces what stands from the start of the
part to the position that the new text leads to from there. -/
def undo (t : Text) (r : Replacement) : Edit :=
  let start := Position.endOf (t.takeBytes r.start)
  ⟨some ⟨start, start.advance r.text 0 r.text.byteSize⟩, t.slice r.start r.stop⟩

end Replacement

/-- The text from the byte `n` on, with every part replaced. -/
def Text.replaced (t : Text) (n : Nat) : List Replacement → Text
  | [] => t.dropBytes n
  | r :: rs => t.slice n r.start ++ r.text ++ t.replaced r.stop rs

/-! ## One edit -/

theorem Edit.apply_between {a b : Text} (h : (a ++ b).width ≤ unitLimit) (text rest : Text) :
    Edit.apply ⟨some ⟨.endOf a, .endOf (a ++ b)⟩, text⟩ (a ++ b ++ rest) = a ++ text ++ rest := by
  have ha : a.width ≤ unitLimit := by
    rw [width_append] at h
    omega
  have hstart : (a ++ b ++ rest).offsetAt (.endOf a) = byteSize a := by
    rw [List.append_assoc]
    exact offsetAt_endOf ha
  have hstop : (a ++ b ++ rest).offsetAt (.endOf (a ++ b)) = byteSize (a ++ b) := offsetAt_endOf h
  have hle : byteSize a ≤ byteSize (a ++ b) := by
    rw [byteSize_append]
    exact Nat.le_add_right _ _
  have htake : takeBytes (byteSize a) (a ++ b ++ rest) = a := by
    rw [List.append_assoc, takeBytes_append]
  simp only [apply, hstart, hstop, Nat.max_eq_right hle, htake, dropBytes_append]

namespace Replacement

variable {t : Text} {r : Replacement}

theorem IsIn.takeBytes_stop (h : r.IsIn t) :
    t.takeBytes r.stop = t.takeBytes r.start ++ t.slice r.start r.stop :=
  h.start.takeBytes_eq h.le

theorem apply_edit (h : r.IsIn t) (ht : t.width ≤ unitLimit) (rest : Text) :
    (r.edit t).apply (t.takeBytes r.stop ++ rest) = t.takeBytes r.start ++ r.text ++ rest := by
  have hwidth := Nat.le_trans (width_takeBytes_le r.stop t) ht
  rw [edit, h.takeBytes_stop]
  rw [h.takeBytes_stop] at hwidth
  exact Edit.apply_between hwidth r.text rest

theorem apply_edit_self (h : r.IsIn t) (ht : t.width ≤ unitLimit) :
    (r.edit t).apply t = t.takeBytes r.start ++ r.text ++ t.dropBytes r.stop := by
  have hedit := apply_edit h ht (t.dropBytes r.stop)
  rwa [takeBytes_append_dropBytes] at hedit

theorem undo_eq (t : Text) (r : Replacement) :
    r.undo t = ⟨some ⟨.endOf (t.takeBytes r.start), .endOf (t.takeBytes r.start ++ r.text)⟩,
      t.slice r.start r.stop⟩ := by
  have hwhole : r.text.slice 0 r.text.byteSize = r.text := by
    simpa using slice_append [] r.text []
  rw [undo, Position.advance, hwhole, ← Position.endOf_append]

theorem apply_undo (h : r.IsIn t) (rest : Text)
    (hwidth : (t.takeBytes r.start ++ r.text).width ≤ unitLimit) :
    (r.undo t).apply (t.takeBytes r.start ++ r.text ++ rest) = t.takeBytes r.stop ++ rest := by
  rw [undo_eq, Edit.apply_between hwidth, ← h.takeBytes_stop]

/-! ## A list of edits -/

theorem InOrder.tail {rs : List Replacement} (h : InOrder t (r :: rs)) : InOrder t rs :=
  ⟨fun r' hr' => h.isIn r' (List.mem_cons_of_mem r hr'), h.apart.tail⟩

theorem text_foldl_edit_reverse {rs : List Replacement} {n : Nat} (d : Document)
    (h : InOrder d.text rs) (hn : d.text.IsBoundary n) (hfrom : ∀ r ∈ rs.head?, n ≤ r.start)
    (hwidth : d.text.width ≤ unitLimit) :
    ((rs.map (edit d.text)).reverse.foldl Document.edit d).text =
      d.text.takeBytes n ++ d.text.replaced n rs := by
  induction rs generalizing n with
  | nil => exact (takeBytes_append_dropBytes n d.text).symm
  | cons r rs ih =>
    have hr : r.IsIn d.text := h.isIn r List.mem_cons_self
    -- The later parts are replaced first, so the text is still the same up to the end of this one.
    have hlater := ih h.tail hr.stop (List.isChain_cons.mp h.apart).1
    rw [List.map_cons, List.reverse_cons, List.foldl_append, List.foldl_cons, List.foldl_nil,
      Document.edit, hlater, apply_edit hr hwidth, hn.takeBytes_eq (hfrom r rfl), replaced]
    simp only [List.append_assoc]

end Replacement

open Replacement

/-- Edits of parts that do not overlap, with positions in the text as it was and listed from the
last part to the first, replace all the parts at once. -/
theorem Document.update_replacements (d : Document) (rs : List Replacement) (version : Int)
    (h : InOrder d.text rs) (hwidth : d.text.width ≤ unitLimit) :
    d.update (rs.map (Replacement.edit d.text)).reverse version =
      ⟨d.text.replaced 0 rs, version⟩ := by
  have htext := text_foldl_edit_reverse d h (isBoundary_append [] d.text)
    (fun r _ => Nat.zero_le r.start) hwidth
  rw [byteSize_nil, takeBytes_zero, List.nil_append] at htext
  rw [← htext]
  rfl

/-- A line feed and a wide character are replaced, and something is written before the one and
behind the other. -/
def touchingParts : List Replacement :=
  [⟨1, 1, ['x']⟩, ⟨1, 2, []⟩, ⟨2, 6, ['\n', '\n']⟩, ⟨6, 6, ['é']⟩, ⟨6, 6, ['y']⟩]

theorem Document.update_replacements_touching :
    (InOrder ['a', '\n', '😀', 'b'] touchingParts ∧
      Text.width ['a', '\n', '😀', 'b'] ≤ unitLimit) ∧
    Document.update ⟨['a', '\n', '😀', 'b'], 1⟩
        (touchingParts.map (Replacement.edit ['a', '\n', '😀', 'b'])).reverse 2 =
      ⟨['a', 'x', '\n', '\n', 'é', 'y', 'b'], 2⟩ := by
  have horder : InOrder ['a', '\n', '😀', 'b'] touchingParts := by decide
  have hwidth : Text.width ['a', '\n', '😀', 'b'] ≤ unitLimit := by decide
  exact ⟨⟨horder, hwidth⟩, update_replacements ⟨['a', '\n', '😀', 'b'], 1⟩ _ 2 horder hwidth⟩

/-- The edit of a part replaces the part and nothing else, and the edit computed from the position
that the new text leads to takes it back. -/
theorem Document.edit_undo (d : Document) (r : Replacement) (h : r.IsIn d.text)
    (hwidth : d.text.width ≤ unitLimit)
    (hwidth' : (d.edit (r.edit d.text)).text.width ≤ unitLimit) :
    d.edit (r.edit d.text) =
      { d with text := d.text.takeBytes r.start ++ r.text ++ d.text.dropBytes r.stop } ∧
    (d.edit (r.edit d.text)).edit (r.undo d.text) = d := by
  have hedit : d.edit (r.edit d.text) =
      { d with text := d.text.takeBytes r.start ++ r.text ++ d.text.dropBytes r.stop } := by
    rw [edit, apply_edit_self h hwidth]
  rw [hedit] at hwidth' ⊢
  refine ⟨rfl, ?_⟩
  simp only [width_append] at hwidth'
  have hwritten : (d.text.takeBytes r.start ++ r.text).width ≤ unitLimit := by
    rw [width_append]
    omega
  rw [edit, apply_undo h _ hwritten, takeBytes_append_dropBytes]

def halfLine : Replacement := ⟨1, 6, ['\n', 'é', '\r']⟩

theorem Document.edit_undo_two_lines :
    (halfLine.IsIn ['a', '😀', '\n', 'b'] ∧ Text.width ['a', '😀', '\n', 'b'] ≤ unitLimit ∧
      Text.width ['a', '\n', 'é', '\r', 'b'] ≤ unitLimit) ∧
    Document.edit ⟨['a', '😀', '\n', 'b'], 1⟩
        ⟨some ⟨⟨0, 1, by decide⟩, ⟨1, 0, by decide⟩⟩, ['\n', 'é', '\r']⟩ =
      ⟨['a', '\n', 'é', '\r', 'b'], 1⟩ ∧
    Document.edit ⟨['a', '\n', 'é', '\r', 'b'], 1⟩
        ⟨some ⟨⟨0, 1, by decide⟩, ⟨1, 2, by decide⟩⟩, ['😀', '\n']⟩ =
      ⟨['a', '😀', '\n', 'b'], 1⟩ := by
  have hin : halfLine.IsIn ['a', '😀', '\n', 'b'] := by decide
  have hwidth : Text.width ['a', '😀', '\n', 'b'] ≤ unitLimit := by decide
  have hwidth' : Text.width ['a', '\n', 'é', '\r', 'b'] ≤ unitLimit := by decide
  have hedit : halfLine.edit ['a', '😀', '\n', 'b'] =
      ⟨some ⟨⟨0, 1, by decide⟩, ⟨1, 0, by decide⟩⟩, ['\n', 'é', '\r']⟩ := by decide
  have hundo : halfLine.undo ['a', '😀', '\n', 'b'] =
      ⟨some ⟨⟨0, 1, by decide⟩, ⟨1, 2, by decide⟩⟩, ['😀', '\n']⟩ := by decide
  have hback := edit_undo ⟨['a', '😀', '\n', 'b'], 1⟩ halfLine hin hwidth hwidth'
  simp only [hedit, hundo] at hback
  obtain ⟨hwritten, hback⟩ := hback
  rw [hwritten] at hback
  exact ⟨⟨hin, hwidth, hwidth'⟩, hwritten, hback⟩

end LanguageServer
