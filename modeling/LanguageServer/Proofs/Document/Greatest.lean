import LanguageServer.Proofs.Document.Offset
import LanguageServer.Proofs.Text.Cutting
import Mathlib.Order.Bounds.Defs

/-! # The last offset in front of a position

A boundary of a text has a position, the one at the end of the text before it. The store of
documents resolves a position to the last boundary that is not behind it (`isGreatest_offsetAt`),
also where the text has no such position. -/

namespace LanguageServer

open Text

/-- What the store of documents makes of positions in a text. -/
structure Text.Resolves (t : Text) : Prop where
  greatest : ∀ p, IsGreatest {n | t.IsBoundary n ∧ .endOf (t.takeBytes n) ≤ p} (t.offsetAt p)
  inside : ∀ p, t.IsBoundary (t.offsetAt p) ∧ t.offsetAt p ≤ t.byteSize
  undone : ∀ n, t.IsBoundary n → t.offsetAt (.endOf (t.takeBytes n)) = n
  monotone : ∀ p q, p ≤ q → t.offsetAt p ≤ t.offsetAt q
  pastColumn : ∀ (a b : Text) (p : Position), t = a ++ b → b = [] ∨ b.head? = some '\n' →
    p.line = (Position.endOf a).line → (Position.endOf a).column ≤ p.column →
      t.offsetAt p = a.byteSize
  pastLine : ∀ p : Position, (Position.endOf t).line < p.line → t.offsetAt p = t.byteSize
  insidePair : ∀ (a : Text) (c : Char) (b : Text) (p : Position), t = a ++ c :: b →
    charWidth c = 2 → p.line = (Position.endOf a).line →
      p.column = (Position.endOf a).column + 1 → t.offsetAt p = a.byteSize

namespace Text

/-! ## Boundaries -/

theorem isBoundary_offsetFrom (t : Text) (line column : Nat) :
    IsBoundary t (offsetFrom t line column) := by
  fun_induction offsetFrom t line column with
  | case1 line column => rfl
  | case2 c cs column hstop => exact isBoundary_append [] _
  | case3 c cs column hpass ih => exact ih.cons c
  | case4 c cs line column ih => exact ih.cons c

theorem isBoundary_offsetAt (t : Text) (p : Position) : t.IsBoundary (t.offsetAt p) :=
  isBoundary_offsetFrom t p.line p.column

/-! ## In front of the position -/

/-- Up to the offset of a position that is counted from `p`, a walk from `p` does not pass it. -/
theorem walk_takeBytes_offsetFrom_le (t : Text) (p q : Position) :
    p.walk (takeBytes (offsetFrom t q.line q.column) t) ≤ p + q := by
  induction t generalizing p q with
  | nil => exact Position.le_plus p q
  | cons c cs ih =>
    -- The rest of the way is counted from behind `c`: a line less, or its width less.
    by_cases hline : q.line = 0
    · rw [hline]
      by_cases hstop : c = '\n' ∨ q.column < charWidth c
      · rw [offsetFrom, if_pos hstop, takeBytes_zero]
        exact Position.le_plus p q
      · obtain ⟨hc, hwide⟩ := not_or.mp hstop
        have hrest := ih (p.step c) ⟨0, q.column - charWidth c, by have := q.column_le; omega⟩
        have htarget : p + q = (p.right (charWidth c)).right (q.column - charWidth c) := by
          rw [Position.plus_of_line_eq_zero hline, Position.right_right,
            Nat.add_sub_cancel' (Nat.le_of_not_lt hwide)]
        rw [offsetFrom_before hc (Nat.le_of_not_lt hwide), takeBytes_cons_add, Position.walk_cons,
          htarget, ← Position.step_of_ne hc]
        exact hrest
    · obtain ⟨n, hn⟩ := Nat.exists_eq_succ_of_ne_zero hline
      rw [hn]
      by_cases hc : c = '\n'
      · subst hc
        have htarget : p.nextLine + ⟨n, q.column, q.column_le⟩ = p + q :=
          Position.nextLine_plus p hn rfl
        rw [offsetFrom_feed, takeBytes_cons_add, Position.walk_cons, Position.step_feed, ← htarget]
        exact ih p.nextLine ⟨n, q.column, q.column_le⟩
      · have hrest := ih (p.right (charWidth c)) q
        rw [Position.plus_of_line_ne_zero hline, hn] at hrest
        rw [offsetFrom_above hc, takeBytes_cons_add, Position.walk_cons, Position.step_of_ne hc,
          Position.plus_of_line_ne_zero hline, hn]
        exact hrest

theorem endOf_takeBytes_offsetAt_le (t : Text) (p : Position) :
    Position.endOf (t.takeBytes (t.offsetAt p)) ≤ p := by
  have hle := walk_takeBytes_offsetFrom_le t .origin p
  rwa [Position.origin_plus, ← Position.endOf_eq_walk] at hle

/-! ## Lines that can be counted -/

theorem LinesFit.offsetAt_endOf_takeBytes {t : Text} (h : t.LinesFit) {n : Nat}
    (hn : t.IsBoundary n) : t.offsetAt (.endOf (t.takeBytes n)) = n := by
  have ht := takeBytes_append_dropBytes n t
  have hend := (offsetAt_endOf_iff (t.takeBytes n) (t.dropBytes n)).mpr (h.width_lastLine_le ht.symm)
  rw [ht, hn] at hend
  exact hend

theorem LinesFit.isGreatest_offsetAt {t : Text} (h : t.LinesFit) (p : Position) :
    IsGreatest {n | t.IsBoundary n ∧ .endOf (t.takeBytes n) ≤ p} (t.offsetAt p) := by
  refine ⟨⟨isBoundary_offsetAt t p, endOf_takeBytes_offsetAt_le t p⟩, ?_⟩
  rintro n ⟨hn, hle⟩
  calc n = t.offsetAt (.endOf (t.takeBytes n)) := (h.offsetAt_endOf_takeBytes hn).symm
    _ ≤ t.offsetAt p := offsetAt_mono t hle

theorem LinesFit.offsetAt_of_stop {t a b : Text} {p : Position} (h : t.LinesFit) (ht : t = a ++ b)
    (hline : p.line = (Position.endOf a).line) (hcolumn : (Position.endOf a).column ≤ p.column)
    (hstop : ∀ c ∈ b.head?, c = '\n' ∨ p.column < (Position.endOf a).column + charWidth c) :
    t.offsetAt p = byteSize a := by
  have hfit : (Position.endOf a).column = a.lastLine.width := by
    rw [Position.column_endOf, boundedWidth_eq, Nat.min_eq_left (h.width_lastLine_le ht)]
  rw [hfit] at hcolumn hstop
  have hzero : offsetFrom b 0 (p.column - a.lastLine.width) = 0 := by
    cases b with
    | nil => rfl
    | cons c cs =>
      rw [offsetFrom, if_pos]
      exact (hstop c rfl).imp_right fun hlt => by omega
  have hplace := offsetFrom_lastLine a b p.column
  rw [offsetFrom_append_line (not_mem_lastLine a) hcolumn, hzero] at hplace
  rw [ht, offsetAt, hline, Position.line_endOf]
  omega

theorem offsetAt_past_line {t : Text} {p : Position} (h : (Position.endOf t).line < p.line) :
    t.offsetAt p = byteSize t := by
  rw [Position.line_endOf] at h
  obtain ⟨n, hn⟩ := Nat.exists_eq_add_of_lt h
  have hpass := offsetFrom_append t [] n p.column
  rwa [List.append_nil, ← hn] at hpass

end Text

/-- In a text whose lines can be counted, a position is resolved to the last boundary that is not
behind it. -/
theorem resolves_of_linesFit (t : Text) (h : t.LinesFit) : t.Resolves := by
  constructor
  case greatest => exact h.isGreatest_offsetAt
  case inside =>
    intro p
    have hboundary := isBoundary_offsetAt t p
    exact ⟨hboundary, hboundary.le_byteSize⟩
  case undone => exact fun n hn => h.offsetAt_endOf_takeBytes hn
  case monotone => exact fun p q hle => offsetAt_mono t hle
  case pastColumn =>
    intro a b p ht hb hline hcolumn
    apply h.offsetAt_of_stop ht hline hcolumn
    intro c hc
    rcases hb with rfl | hfeed
    · cases hc
    · rw [hfeed] at hc
      exact .inl (Option.some.inj hc).symm
  case pastLine => exact fun p hp => offsetAt_past_line hp
  case insidePair =>
    intro a c b p ht hwide hline hcolumn
    apply h.offsetAt_of_stop ht hline (by omega)
    intro d hd
    obtain rfl := Option.some.inj hd
    exact .inr (by omega)

theorem resolves_of_linesFit_pair :
    LinesFit ['é', '😀', '\n', 'x', '\n'] ∧ Resolves ['é', '😀', '\n', 'x', '\n'] :=
  have hfit : LinesFit ['é', '😀', '\n', 'x', '\n'] := .of_width_le (by decide)
  ⟨hfit, resolves_of_linesFit _ hfit⟩

end LanguageServer
