import LanguageServer.Position
import Mathlib.Data.List.DropRight

/-! # Walking through a text

The quick way over a text inside one line gives the same position as the walk (`after_eq_walk`).
A walk counts the line feeds and never goes back. From the start of a text it ends at the column
that the last line is wide (`column_endOf`). -/

namespace LanguageServer

/-- What stands behind the last line feed of a text. -/
def Text.lastLine (t : Text) : Text := t.rtakeWhile (· != '\n')

namespace Text

theorem lastLine_concat_feed (t : Text) : lastLine (t ++ ['\n']) = [] :=
  List.rtakeWhile_concat_neg _ _ _ (by decide)

theorem lastLine_concat {c : Char} (hc : c ≠ '\n') (t : Text) :
    lastLine (t ++ [c]) = lastLine t ++ [c] :=
  List.rtakeWhile_concat_pos _ _ _ (by simpa using hc)

theorem exists_lastLine (t : Text) :
    (∃ above, t = above ++ '\n' :: lastLine t) ∨ lastLine t = t ∧ '\n' ∉ t := by
  induction t using List.reverseRecOn with
  | nil => exact .inr ⟨rfl, List.not_mem_nil⟩
  | append_singleton t c ih =>
    by_cases hc : c = '\n'
    · subst hc
      rw [lastLine_concat_feed]
      exact .inl ⟨t, rfl⟩
    rw [lastLine_concat hc]
    rcases ih with ⟨above, ht⟩ | ⟨ht, hfeed⟩
    · refine .inl ⟨above, ?_⟩
      conv_lhs => rw [ht]
      simp
    · refine .inr ⟨by rw [ht], ?_⟩
      simp [hfeed, Ne.symm hc]

theorem not_mem_lastLine (t : Text) : '\n' ∉ lastLine t := by
  induction t using List.reverseRecOn with
  | nil => exact List.not_mem_nil
  | append_singleton t c ih =>
    by_cases hc : c = '\n'
    · subst hc
      rw [lastLine_concat_feed]
      exact List.not_mem_nil
    · rw [lastLine_concat hc]
      simp [ih, Ne.symm hc]

theorem width_lastLine_le (t : Text) : (lastLine t).width ≤ t.width := by
  rcases exists_lastLine t with ⟨above, ht⟩ | ⟨ht, -⟩
  · conv_rhs => rw [ht]
    rw [width_append, width_cons]
    omega
  · rw [ht]

end Text

namespace Position

@[simp] theorem line_origin : origin.line = 0 := rfl

@[simp] theorem column_origin : origin.column = 0 := rfl

@[simp] theorem line_nextLine (p : Position) : p.nextLine.line = p.line + 1 := rfl

@[simp] theorem column_nextLine (p : Position) : p.nextLine.column = 0 := rfl

@[simp] theorem line_right (p : Position) (n : Nat) : (p.right n).line = p.line := rfl

theorem step_feed (p : Position) : p.step '\n' = p.nextLine := rfl

theorem step_of_ne {c : Char} (hc : c ≠ '\n') (p : Position) :
    p.step c = p.right (Text.charWidth c) := if_neg hc

theorem walk_of_not_mem {t : Text} (h : '\n' ∉ t) (p : Position) : p.walk t = p.right t.width := by
  induction t generalizing p with
  | nil => simp
  | cons c cs ih =>
    obtain ⟨hc, hcs⟩ := List.ne_and_not_mem_of_not_mem_cons h
    rw [walk_cons, step_of_ne hc.symm, ih hcs, right_right, Text.width_cons]

theorem after_eq_walk (p : Position) (t : Text) : p.after t = p.walk t := by
  unfold after
  split
  · rfl
  · next h => rw [right_boundedWidth, walk_of_not_mem h]

theorem line_walk (p : Position) (t : Text) : (p.walk t).line = p.line + t.count '\n' := by
  induction t generalizing p with
  | nil => simp
  | cons c cs ih =>
    rw [walk_cons, ih]
    by_cases hc : c = '\n'
    · subst hc
      rw [step_feed, List.count_cons_self, line_nextLine]
      omega
    · rw [step_of_ne hc, List.count_cons_of_ne hc, line_right]

/-! ## The order -/

theorem le_refl (p : Position) : p ≤ p := .inr ⟨rfl, Nat.le_refl _⟩

theorem le_trans {p q r : Position} (h : p ≤ q) (h' : q ≤ r) : p ≤ r := by
  rcases h with h | ⟨hl, hc⟩ <;> rcases h' with h' | ⟨hl', hc'⟩
  · exact .inl (Nat.lt_trans h h')
  · exact .inl (hl' ▸ h)
  · exact .inl (hl ▸ h')
  · exact .inr ⟨hl.trans hl', Nat.le_trans hc hc'⟩

theorem le_step (p : Position) (c : Char) : p ≤ p.step c := by
  by_cases hc : c = '\n'
  · subst hc
    exact .inl (Nat.lt_succ_self _)
  · rw [step_of_ne hc]
    exact .inr ⟨rfl, Nat.le_min.mpr ⟨Nat.le_add_right _ _, p.column_le⟩⟩

theorem le_walk (p : Position) (t : Text) : p ≤ p.walk t := by
  induction t generalizing p with
  | nil => exact le_refl p
  | cons c cs ih => exact le_trans (le_step p c) (ih _)

/-! ## Counted from another position -/

theorem plus_of_line_eq_zero {q : Position} (h : q.line = 0) (p : Position) :
    p + q = p.right q.column := if_pos h

theorem plus_of_line_ne_zero {q : Position} (h : q.line ≠ 0) (p : Position) :
    p + q = ⟨p.line + q.line, q.column, q.column_le⟩ := if_neg h

@[simp] theorem plus_origin (p : Position) : p + origin = p := right_zero p

@[simp] theorem origin_plus (p : Position) : origin + p = p := by
  by_cases h : p.line = 0
  · rw [plus_of_line_eq_zero h]
    ext
    · rw [line_right, line_origin, h]
    · simp [right, Nat.min_eq_left p.column_le]
  · rw [plus_of_line_ne_zero h]
    ext <;> simp

theorem line_plus (p q : Position) : (p + q).line = p.line + q.line := by
  by_cases h : q.line = 0
  · rw [plus_of_line_eq_zero h, line_right, h, Nat.add_zero]
  · rw [plus_of_line_ne_zero h]

theorem le_plus (p q : Position) : p ≤ p + q := by
  by_cases h : q.line = 0
  · rw [plus_of_line_eq_zero h]
    exact .inr ⟨rfl, Nat.le_min.mpr ⟨Nat.le_add_right _ _, p.column_le⟩⟩
  · rw [plus_of_line_ne_zero h]
    refine .inl ?_
    simp only
    omega

theorem nextLine_plus (p : Position) {q q' : Position} (hline : q'.line = q.line + 1)
    (hcolumn : q'.column = q.column) : p.nextLine + q = p + q' := by
  have hdown : q'.line ≠ 0 := by omega
  rw [plus_of_line_ne_zero hdown]
  by_cases h : q.line = 0
  · rw [plus_of_line_eq_zero h]
    ext
    · simp [hline, h]
    · simp [right, hcolumn, Nat.min_eq_left q.column_le]
  · rw [plus_of_line_ne_zero h]
    ext
    · simp only [line_nextLine, hline]
      omega
    · exact hcolumn.symm

theorem plus_nextLine (p q : Position) : p + q.nextLine = (p + q).nextLine := by
  have hdown : q.nextLine.line ≠ 0 := Nat.succ_ne_zero _
  rw [plus_of_line_ne_zero hdown]
  by_cases h : q.line = 0
  · rw [plus_of_line_eq_zero h]
    ext <;> simp [h]
  · rw [plus_of_line_ne_zero h]
    rfl

theorem plus_right (p q : Position) (n : Nat) : p + q.right n = (p + q).right n := by
  by_cases h : q.line = 0
  · rw [plus_of_line_eq_zero h, plus_of_line_eq_zero (by rw [line_right, h])]
    ext
    · rfl
    · simp only [right]
      omega
  · rw [plus_of_line_ne_zero h, plus_of_line_ne_zero (by rw [line_right]; exact h)]
    rfl

theorem plus_step (p q : Position) (c : Char) : p + q.step c = (p + q).step c := by
  by_cases hc : c = '\n'
  · subst hc
    rw [step_feed, step_feed, plus_nextLine]
  · rw [step_of_ne hc, step_of_ne hc, plus_right]

/-- To walk from a position that is counted from `p` is to walk first and count from `p` then. -/
theorem plus_walk (p q : Position) (t : Text) : p + q.walk t = (p + q).walk t := by
  induction t generalizing q with
  | nil => rfl
  | cons c cs ih => rw [walk_cons, walk_cons, ih, plus_step]

/-! ## From the start of a text -/

theorem endOf_eq_walk (t : Text) : endOf t = origin.walk t := after_eq_walk origin t

theorem endOf_append (a b : Text) : endOf (a ++ b) = (endOf a).after b := by
  rw [endOf_eq_walk, endOf_eq_walk, after_eq_walk, walk_append]

theorem plus_endOf (p : Position) (t : Text) : p + endOf t = p.after t := by
  rw [endOf_eq_walk, plus_walk, plus_origin, after_eq_walk]

theorem line_endOf (t : Text) : (endOf t).line = t.count '\n' := by
  rw [endOf_eq_walk, line_walk, line_origin, Nat.zero_add]

theorem column_endOf (t : Text) : (endOf t).column = t.lastLine.boundedWidth := by
  rw [endOf_eq_walk]
  induction t using List.reverseRecOn with
  | nil => rfl
  | append_singleton t c ih =>
    rw [walk_append, walk_cons, walk_nil]
    by_cases hc : c = '\n'
    · subst hc
      rw [step_feed, Text.lastLine_concat_feed]
      rfl
    · rw [step_of_ne hc, Text.lastLine_concat hc]
      simp only [right, ih, Text.boundedWidth_eq, Text.width_append, Text.width_cons, Text.width_nil]
      omega

end Position

end LanguageServer
