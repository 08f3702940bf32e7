import LanguageServer.Document
import LanguageServer.Proofs.Position.Walk

/-! # Offsets of positions

The store of documents resolves the position at the end of a part of a text to the bytes of that
part, if and only if the last line is not too wide to be counted (`offsetAt_endOf_iff`). A later
position is never resolved to an earlier offset (`offsetAt_mono`). -/

namespace LanguageServer.Text

/-- No line of a text is too wide to be counted. -/
def LinesFit (t : Text) : Prop :=
  ∀ line : Text, line <:+: t → '\n' ∉ line → line.width ≤ unitLimit

theorem LinesFit.width_lastLine_le {t a b : Text} (h : t.LinesFit) (ht : t = a ++ b) :
    a.lastLine.width ≤ unitLimit := by
  apply h a.lastLine _ (not_mem_lastLine a)
  have hline : a.lastLine <:+ a := List.rtakeWhile_suffix _ _
  have hpart : a <+: t := ⟨b, ht.symm⟩
  exact hline.isInfix.trans hpart.isInfix

theorem LinesFit.of_width_le {t : Text} (h : t.width ≤ unitLimit) : t.LinesFit := by
  rintro line ⟨a, b, rfl⟩ -
  rw [width_append, width_append] at h
  omega

theorem offsetFrom_zero (t : Text) : offsetFrom t 0 0 = 0 := by
  cases t with
  | nil => rfl
  | cons c cs => exact if_pos (.inr (charWidth_pos c))

theorem offsetFrom_feed (cs : Text) (line column : Nat) :
    offsetFrom ('\n' :: cs) (line + 1) column = ('\n').utf8Size + offsetFrom cs line column := by
  rw [offsetFrom, if_pos rfl]

theorem offsetFrom_above {c : Char} (hc : c ≠ '\n') (cs : Text) (line column : Nat) :
    offsetFrom (c :: cs) (line + 1) column = c.utf8Size + offsetFrom cs (line + 1) column := by
  rw [offsetFrom, if_neg hc]

theorem offsetFrom_before {c : Char} (hc : c ≠ '\n') {column : Nat} (h : charWidth c ≤ column)
    (cs : Text) :
    offsetFrom (c :: cs) 0 column = c.utf8Size + offsetFrom cs 0 (column - charWidth c) := by
  have hin : ¬ (c = '\n' ∨ column < charWidth c) := by
    rintro (hfeed | hlt)
    · exact hc hfeed
    · omega
  rw [offsetFrom, if_neg hin]

theorem offsetFrom_append (a b : Text) (line column : Nat) :
    offsetFrom (a ++ b) (a.count '\n' + line + 1) column =
      byteSize a + offsetFrom b (line + 1) column := by
  induction a with
  | nil => simp
  | cons c cs ih =>
    by_cases hc : c = '\n'
    · subst hc
      have hline : ('\n' :: cs).count '\n' + line + 1 = (cs.count '\n' + line + 1) + 1 := by
        rw [List.count_cons_self]
        omega
      rw [hline, List.cons_append, offsetFrom_feed, ih, byteSize_cons, Nat.add_assoc]
    · rw [List.count_cons_of_ne hc, List.cons_append, offsetFrom_above hc, ih, byteSize_cons,
        Nat.add_assoc]

theorem offsetFrom_append_line {a : Text} (ha : '\n' ∉ a) {column : Nat} (h : a.width ≤ column)
    (b : Text) :
    offsetFrom (a ++ b) 0 column = byteSize a + offsetFrom b 0 (column - a.width) := by
  induction a generalizing column with
  | nil => simp
  | cons c cs ih =>
    obtain ⟨hc, hcs⟩ := List.ne_and_not_mem_of_not_mem_cons ha
    rw [width_cons] at h
    rw [List.cons_append, offsetFrom_before hc.symm (by omega), ih hcs (by omega), byteSize_cons,
      width_cons, Nat.sub_sub, Nat.add_assoc]

theorem offsetFrom_lt {a : Text} {column : Nat} (h : column < a.width) (b : Text) :
    offsetFrom (a ++ b) 0 column < byteSize a := by
  induction a generalizing column with
  | nil => exact absurd h (Nat.not_lt_zero _)
  | cons c cs ih =>
    rw [width_cons] at h
    rw [List.cons_append, offsetFrom, byteSize_cons]
    have hpos := c.utf8Size_pos
    split
    · omega
    · next hin =>
      have hlt := @ih (column - charWidth c) (by omega)
      omega

theorem offsetFrom_mono (t : Text) {line column line' column' : Nat}
    (h : line < line' ∨ line = line' ∧ column ≤ column') :
    offsetFrom t line column ≤ offsetFrom t line' column' := by
  induction t generalizing line column line' column' with
  | nil => exact Nat.le_refl 0
  | cons c cs ih =>
    cases line with
    | zero =>
      by_cases hstop : c = '\n' ∨ column < charWidth c
      · rw [offsetFrom, if_pos hstop]
        exact Nat.zero_le _
      obtain ⟨hc, hwide⟩ := not_or.mp hstop
      rw [offsetFrom_before hc (by omega)]
      -- The earlier position passes the character, so the later one does too.
      cases line' with
      | zero =>
        rw [offsetFrom_before hc (by omega)]
        have hle := @ih 0 (column - charWidth c) 0 (column' - charWidth c) (by omega)
        omega
      | succ line' =>
        rw [offsetFrom_above hc]
        have hle := @ih 0 (column - charWidth c) (line' + 1) column' (by omega)
        omega
    | succ line =>
      cases line' with
      | zero => omega
      | succ line' =>
        by_cases hc : c = '\n'
        · subst hc
          rw [offsetFrom_feed, offsetFrom_feed]
          have hle := @ih line column line' column' (by omega)
          omega
        · rw [offsetFrom_above hc, offsetFrom_above hc]
          have hle := @ih (line + 1) column (line' + 1) column' (by omega)
          omega

theorem offsetAt_mono (t : Text) {p q : Position} (h : p ≤ q) : t.offsetAt p ≤ t.offsetAt q :=
  offsetFrom_mono t h

theorem offsetFrom_lastLine (a b : Text) (column : Nat) :
    offsetFrom (a ++ b) (a.count '\n') column + byteSize a.lastLine =
      byteSize a + offsetFrom (a.lastLine ++ b) 0 column := by
  rcases exists_lastLine a with ⟨above, ha⟩ | ⟨ha, hfeed⟩
  · have hcount : a.count '\n' = above.count '\n' + 0 + 1 := by
      rw [ha, List.count_append, List.count_cons_self,
        List.count_eq_zero_of_not_mem (not_mem_lastLine a), Nat.add_zero]
    have hsize : byteSize a = byteSize above + (('\n').utf8Size + byteSize a.lastLine) := by
      conv_lhs => rw [ha]
      rw [byteSize_append, byteSize_cons]
    have hsplit : a ++ b = above ++ '\n' :: (a.lastLine ++ b) := by
      conv_lhs => rw [ha]
      rw [List.append_assoc, List.cons_append]
    have hpass := offsetFrom_append above ('\n' :: (a.lastLine ++ b)) 0 column
    rw [offsetFrom_feed] at hpass
    rw [hcount, hsplit, hpass, hsize]
    omega
  · rw [ha, List.count_eq_zero_of_not_mem hfeed, Nat.add_comm]

theorem offsetAt_endOf_iff (a b : Text) :
    (a ++ b).offsetAt (.endOf a) = byteSize a ↔ a.lastLine.width ≤ unitLimit := by
  have hline := offsetFrom_lastLine a b a.lastLine.boundedWidth
  rw [offsetAt, Position.line_endOf, Position.column_endOf]
  -- A line that is too wide has a column at its end that stands inside it.
  constructor
  · intro h
    by_contra hwide
    have hlt : offsetFrom (a.lastLine ++ b) 0 a.lastLine.boundedWidth < byteSize a.lastLine := by
      apply offsetFrom_lt
      rw [boundedWidth_eq]
      omega
    omega
  · intro h
    have hcolumn : a.lastLine.boundedWidth = a.lastLine.width := by
      rw [boundedWidth_eq, Nat.min_eq_left h]
    rw [hcolumn] at hline ⊢
    rw [offsetFrom_append_line (not_mem_lastLine a) (Nat.le_refl _), Nat.sub_self,
      offsetFrom_zero] at hline
    omega

theorem offsetAt_endOf {before rest : Text} (h : before.width ≤ unitLimit) :
    (before ++ rest).offsetAt (.endOf before) = byteSize before :=
  (offsetAt_endOf_iff before rest).mpr (Nat.le_trans (width_lastLine_le before) h)

end LanguageServer.Text
