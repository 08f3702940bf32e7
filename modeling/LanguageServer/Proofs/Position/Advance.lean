import LanguageServer.Proofs.Position.Walk
import LanguageServer.Proofs.Text.Cutting
import LanguageServer.Scanner
import Mathlib.Logic.Function.Iterate

/-! # Advancing over a part of a text

A part without line feeds is measured at once, any other is walked through, and a scanner passes
over blanks one by one. All three lead to the same position (`iterate_skip`), also where the column
stays on its limit. So a part may be cut anywhere between its characters
(`advances_of_isBoundary`). -/

namespace LanguageServer

open Text

/-- What is true of the position `p`, advanced over the bytes `start` to `stop` of a text. -/
structure Position.Advances (p : Position) (t : Text) (start stop : Nat) : Prop where
  skipped : Scanner.skip^[(t.slice start stop).length] ⟨t.dropBytes start, start, p⟩ =
    ⟨t.dropBytes stop, stop, p.advance t start stop⟩
  forward : (compare p (p.advance t start stop)).isLE = true
  line_eq : (p.advance t start stop).line = p.line + (t.slice start stop).count '\n'
  composes : ∀ middle, t.IsBoundary middle → start ≤ middle → middle ≤ stop →
    (p.advance t start middle).advance t middle stop = p.advance t start stop

namespace Position

theorem isLE_compare_iff {p q : Position} : (compare p q).isLE = true ↔ p ≤ q := by
  change ((compare p.line q.line).then (compare p.column q.column)).isLE = true ↔
    p.line < q.line ∨ p.line = q.line ∧ p.column ≤ q.column
  rcases Nat.lt_trichotomy p.line q.line with h | h | h
  · simp [Nat.compare_eq_lt.mpr h, h]
  · simp [h, Nat.isLE_compare]
  · rw [Nat.compare_eq_gt.mpr h]
    exact iff_of_false Bool.false_ne_true (by omega)

theorem advance_eq_walk (p : Position) (t : Text) (start stop : Nat) :
    p.advance t start stop = p.walk (t.slice start stop) := after_eq_walk p _

end Position

theorem Scanner.iterate_skip (part rest : Text) (offset : Nat) (place : Position) :
    skip^[part.length] ⟨part ++ rest, offset, place⟩ =
      ⟨rest, offset + byteSize part, place.walk part⟩ := by
  induction part generalizing offset place with
  | nil => rfl
  | cons c cs ih =>
    rw [List.length_cons, Function.iterate_succ_apply, List.cons_append, skip, ih, byteSize_cons,
      Nat.add_assoc, Position.walk_cons]

/-- Over a part of whole characters a position is advanced as a scanner gets there by single
characters: never back, a line down for each line feed, and by way of every boundary between. -/
theorem Position.advances_of_isBoundary (p : Position) (t : Text) {start stop : Nat}
    (hstart : t.IsBoundary start) (hstop : t.IsBoundary stop) (hle : start ≤ stop) :
    p.Advances t start stop := by
  constructor
  case skipped =>
    have hskip := Scanner.iterate_skip (t.slice start stop) (t.dropBytes stop) start p
    rwa [hstart.slice_append_dropBytes hle, hstart.byteSize_slice hstop hle,
      ← advance_eq_walk] at hskip
  case forward =>
    rw [isLE_compare_iff, advance_eq_walk]
    exact le_walk p _
  case line_eq => rw [advance_eq_walk, line_walk]
  case composes =>
    intro middle hmiddle hle hle'
    rw [advance_eq_walk, advance_eq_walk, advance_eq_walk, ← walk_append,
      hstart.slice_append_slice hmiddle hle hle']

def Position.nearLimit : Position := ⟨7, unitLimit - 2, by decide⟩

theorem Position.advances_of_isBoundary_nearLimit :
    (IsBoundary ['a', 'é', '😀', '\n', 'b'] 1 ∧ IsBoundary ['a', 'é', '😀', '\n', 'b'] 7 ∧
      IsBoundary ['a', 'é', '😀', '\n', 'b'] 9) ∧
    nearLimit.Advances ['a', 'é', '😀', '\n', 'b'] 1 9 ∧
    (nearLimit.advance ['a', 'é', '😀', '\n', 'b'] 1 7).column = unitLimit ∧
    (nearLimit.advance ['a', 'é', '😀', '\n', 'b'] 1 7).advance ['a', 'é', '😀', '\n', 'b'] 7 9 =
      ⟨8, 1, by decide⟩ := by
  have hstart : IsBoundary ['a', 'é', '😀', '\n', 'b'] 1 := by decide
  have hmiddle : IsBoundary ['a', 'é', '😀', '\n', 'b'] 7 := by decide
  have hstop : IsBoundary ['a', 'é', '😀', '\n', 'b'] 9 := by decide
  have hadvances := advances_of_isBoundary nearLimit _ hstart hstop (by decide)
  refine ⟨⟨hstart, hmiddle, hstop⟩, hadvances, by decide, ?_⟩
  rw [hadvances.composes 7 hmiddle (by decide) (by decide)]
  decide

end LanguageServer
