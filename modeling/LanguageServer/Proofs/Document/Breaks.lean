import LanguageServer.Diagnostic
import LanguageServer.Proofs.Document.Offset

/-! # The two notions of line

`documentEnd` ends a line at all three line breaks, and the store resolves a position by line feeds
alone. The two agree on a part of a text exactly as long as no carriage return stands alone in it,
and on the end of a line exactly if a line feed ends it (`offsetAt_breaks_iff`). -/

namespace LanguageServer

/-- Some carriage return has no line feed behind it. -/
def Text.HasBareReturn (t : Text) : Prop := ∃ a b, t = a ++ '\r' :: b ∧ b.head? ≠ some '\n'

/-- `line` is a line of the text `before ++ line ++ behind`, for all three line breaks. -/
structure IsLine (before line behind : Text) : Prop where
  starts : before = [] ∨ before.getLast? = some '\n' ∨
    before.getLast? = some '\r' ∧ (line ++ behind).head? ≠ some '\n'
  inside : '\n' ∉ line ∧ '\r' ∉ line
  stops : behind = [] ∨ behind.head? = some '\n' ∨ behind.head? = some '\r'

namespace Text

theorem hasBareReturn_cons (c : Char) (t : Text) :
    HasBareReturn (c :: t) ↔ c = '\r' ∧ t.head? ≠ some '\n' ∨ HasBareReturn t := by
  constructor
  · rintro ⟨a, b, ht, hb⟩
    cases a with
    | nil =>
      obtain ⟨rfl, rfl⟩ := List.cons.inj ht
      exact .inl ⟨rfl, hb⟩
    | cons d a =>
      obtain ⟨rfl, rfl⟩ := List.cons.inj ht
      exact .inr ⟨a, b, rfl, hb⟩
  · rintro (⟨rfl, ht⟩ | ⟨a, b, rfl, hb⟩)
    · exact ⟨[], t, rfl, ht⟩
    · exact ⟨c :: a, b, rfl, hb⟩

theorem hasBareReturn_pair (t : Text) : HasBareReturn ('\r' :: '\n' :: t) ↔ HasBareReturn t := by
  rw [hasBareReturn_cons, hasBareReturn_cons]
  simp

theorem head?_ne_of_forall_ne {t : Text} {c : Char} (h : ∀ cs, t ≠ c :: cs) :
    t.head? ≠ some c := by
  intro hhead
  obtain ⟨cs, ht⟩ := List.head?_eq_some_iff.mp hhead
  exact h cs ht

theorem mem_of_hasBareReturn {t : Text} (h : HasBareReturn t) : '\r' ∈ t := by
  obtain ⟨a, b, rfl, -⟩ := h
  simp

end Text

open Text

namespace Position

theorem walkBreaks_eq_walk {t : Text} (h : ¬ HasBareReturn t) (p : Position) :
    p.walkBreaks t = p.walk t := by
  fun_induction walkBreaks p t with
  | case1 p => rfl
  | case2 p cs ih =>
    rw [hasBareReturn_pair] at h
    rw [ih h, walk_cons, walk_cons, step_feed, step_of_ne (by decide)]
    rfl
  | case3 p c cs hpair hbreak ih =>
    rw [hasBareReturn_cons, not_or] at h
    rcases hbreak with rfl | rfl
    · -- A carriage return that is read alone is bare.
      exact absurd ⟨rfl, head?_ne_of_forall_ne fun cs' => hpair cs' rfl⟩ h.1
    · rw [ih h.2, walk_cons, step_feed]
  | case4 p c cs hpair hbreak ih =>
    rw [hasBareReturn_cons, not_or] at h
    rw [ih h.2, walk_cons, step_of_ne (fun hc => hbreak (.inr hc))]

theorem le_line_walkBreaks (p : Position) (t : Text) :
    p.line + t.count '\n' ≤ (p.walkBreaks t).line := by
  fun_induction walkBreaks p t with
  | case1 p => simp
  | case2 p cs ih =>
    rw [List.count_cons_of_ne (by decide), List.count_cons_self]
    rw [line_nextLine] at ih
    omega
  | case3 p c cs hpair hbreak ih =>
    rw [line_nextLine] at ih
    rw [List.count_cons]
    split <;> omega
  | case4 p c cs hpair hbreak ih =>
    rw [List.count_cons_of_ne (fun hc => hbreak (.inr hc))]
    exact ih

theorem walkBreaks_cons {c : Char} {t : Text} (h : c = '\r' → t.head? ≠ some '\n') (p : Position) :
    p.walkBreaks (c :: t) =
      if c = '\r' ∨ c = '\n' then p.nextLine.walkBreaks t else (p.right (charWidth c)).walkBreaks t := by
  rw [walkBreaks]
  rintro cs rfl rfl
  exact h rfl rfl

theorem line_walkBreaks_le (p : Position) (a b : Text) :
    (p.walkBreaks a).line ≤ (p.walkBreaks (a ++ b)).line := by
  have hle (q : Position) : q.line ≤ (q.walkBreaks b).line :=
    Nat.le_trans (Nat.le_add_right _ _) (le_line_walkBreaks q b)
  fun_induction walkBreaks p a with
  | case1 p => exact hle p
  | case2 p cs ih => exact ih
  | case3 p c cs hpair hbreak ih =>
    by_cases hcut : c = '\r' ∧ (cs ++ b).head? = some '\n'
    · -- The cut is inside a break, so the part ends with the carriage return.
      obtain ⟨rfl, hfeed⟩ := hcut
      cases cs with
      | nil =>
        obtain ⟨b', rfl⟩ := List.head?_eq_some_iff.mp hfeed
        exact Nat.le_trans (Nat.le_add_right _ _) (le_line_walkBreaks p.nextLine b')
      | cons d cs =>
        obtain rfl := Option.some.inj hfeed
        exact absurd rfl (hpair cs rfl)
    · rw [List.cons_append, walkBreaks_cons (not_and.mp hcut), if_pos hbreak]
      exact ih
  | case4 p c cs hpair hbreak ih =>
    have hreturn : c ≠ '\r' := fun hc => hbreak (.inl hc)
    rw [List.cons_append, walkBreaks_cons (fun hc => absurd hc hreturn), if_neg hbreak]
    exact ih

theorem lt_line_walkBreaks {t : Text} (h : HasBareReturn t) (p : Position) :
    p.line + t.count '\n' < (p.walkBreaks t).line := by
  fun_induction walkBreaks p t with
  | case1 p => exact absurd (mem_of_hasBareReturn h) List.not_mem_nil
  | case2 p cs ih =>
    have ih := ih ((hasBareReturn_pair cs).mp h)
    rw [List.count_cons_of_ne (by decide), List.count_cons_self]
    rw [line_nextLine] at ih
    omega
  | case3 p c cs hpair hbreak ih =>
    rcases hbreak with rfl | rfl
    · -- This one is bare, and every line feed behind it still ends a line.
      have hle := le_line_walkBreaks p.nextLine cs
      rw [line_nextLine] at hle
      rw [List.count_cons_of_ne (by decide)]
      omega
    · have ih := ih (((hasBareReturn_cons _ _).mp h).resolve_left (fun hr => by cases hr.1))
      rw [line_nextLine] at ih
      rw [List.count_cons_self]
      omega
  | case4 p c cs hpair hbreak ih =>
    rw [List.count_cons_of_ne (fun hc => hbreak (.inr hc))]
    exact ih (((hasBareReturn_cons _ _).mp h).resolve_left (fun hr => hbreak (.inl hr.1)))

end Position

theorem documentEnd_eq_walkBreaks (t : Text) : documentEnd t = Position.origin.walkBreaks t := by
  unfold documentEnd
  split
  · rfl
  · next h =>
    rw [Position.walkBreaks_eq_walk (fun hbare => h (mem_of_hasBareReturn hbare)),
      Position.endOf_eq_walk]

theorem documentEnd_eq_endOf {t : Text} (h : ¬ HasBareReturn t) : documentEnd t = .endOf t := by
  rw [documentEnd_eq_walkBreaks, Position.walkBreaks_eq_walk h, Position.endOf_eq_walk]

theorem lt_line_documentEnd {t : Text} (h : HasBareReturn t) :
    t.count '\n' < (documentEnd t).line := by
  have hlt := Position.lt_line_walkBreaks h .origin
  rw [documentEnd_eq_walkBreaks]
  simpa using hlt

theorem line_documentEnd_le (a b : Text) : (documentEnd a).line ≤ (documentEnd (a ++ b)).line := by
  rw [documentEnd_eq_walkBreaks, documentEnd_eq_walkBreaks]
  exact Position.line_walkBreaks_le .origin a b

namespace Text

theorem offsetFrom_eq_zero_iff (t : Text) (line column : Nat) :
    offsetFrom t (line + 1) column = 0 ↔ t = [] := by
  cases t with
  | nil => simp [offsetFrom]
  | cons c cs =>
    have hpos := c.utf8Size_pos
    simp only [offsetFrom, reduceCtorEq, iff_false]
    omega

theorem offsetFrom_eq_byteSize_iff {a : Text} {line : Nat} (h : a.count '\n' < line) (b : Text)
    (column : Nat) : offsetFrom (a ++ b) line column = byteSize a ↔ b = [] := by
  obtain ⟨n, rfl⟩ := Nat.exists_eq_add_of_lt h
  rw [offsetFrom_append, ← offsetFrom_eq_zero_iff b n column]
  omega

end Text

variable {before line behind : Text}

theorem offsetAt_documentEnd_iff (before behind : Text) :
    (before ++ behind).offsetAt (documentEnd before) = byteSize before ↔
      before.HasBareReturn ∧ behind = [] ∨
        ¬ before.HasBareReturn ∧ before.lastLine.width ≤ unitLimit := by
  by_cases hbare : before.HasBareReturn
  · unfold offsetAt
    rw [offsetFrom_eq_byteSize_iff (lt_line_documentEnd hbare)]
    simp [hbare]
  · rw [documentEnd_eq_endOf hbare, offsetAt_endOf_iff]
    simp [hbare]

theorem IsLine.lastLine_eq_nil (h : IsLine before line behind) (hbare : ¬ before.HasBareReturn) :
    before.lastLine = [] := by
  rcases h.starts with rfl | hfeed | ⟨hreturn, -⟩
  · rfl
  · obtain ⟨a, rfl⟩ := List.getLast?_eq_some_iff.mp hfeed
    exact lastLine_concat_feed a
  · obtain ⟨a, rfl⟩ := List.getLast?_eq_some_iff.mp hreturn
    exact absurd ⟨a, [], rfl, by simp⟩ hbare

theorem offsetFrom_break_eq_zero_iff {column : Nat} (hcolumn : 0 < column)
    (h : behind = [] ∨ behind.head? = some '\n' ∨ behind.head? = some '\r') :
    offsetFrom behind 0 column = 0 ↔ behind = [] ∨ behind.head? = some '\n' := by
  rcases h with rfl | hfeed | hreturn
  · simp [offsetFrom]
  · obtain ⟨cs, rfl⟩ := List.head?_eq_some_iff.mp hfeed
    simp [offsetFrom]
  · obtain ⟨cs, rfl⟩ := List.head?_eq_some_iff.mp hreturn
    have hwidth : charWidth '\r' = 1 := by decide
    rw [offsetFrom_before (by decide) (by omega)]
    have hpos := ('\r').utf8Size_pos
    simp
    omega

theorem offsetAt_past_end_iff (h : IsLine before line behind) {p : Position}
    (hline : p.line = (documentEnd before).line) (hcolumn : line.width < p.column) :
    (before ++ line ++ behind).offsetAt p = byteSize (before ++ line) ↔
      behind = [] ∨ ¬ before.HasBareReturn ∧ behind.head? = some '\n' := by
  have hcount : (before ++ line).count '\n' = before.count '\n' := by
    rw [List.count_append, List.count_eq_zero_of_not_mem h.inside.1, Nat.add_zero]
  unfold offsetAt
  by_cases hbare : before.HasBareReturn
  · -- The line is further down than the store has lines up to its end.
    have hbelow := lt_line_documentEnd hbare
    rw [← hcount, ← hline] at hbelow
    rw [offsetFrom_eq_byteSize_iff hbelow]
    simp [hbare]
  · rw [documentEnd_eq_endOf hbare, Position.line_endOf] at hline
    have hstart := offsetFrom_lastLine before (line ++ behind) p.column
    rw [h.lastLine_eq_nil hbare, List.nil_append, byteSize_nil,
      offsetFrom_append_line h.inside.1 (Nat.le_of_lt hcolumn)] at hstart
    rw [hline, List.append_assoc, byteSize_append]
    have hrest := offsetFrom_break_eq_zero_iff (Nat.sub_pos_of_lt hcolumn) h.stops
    simp only [hbare, not_false_eq_true, true_and]
    rw [← hrest]
    omega

/-- In a text whose lines and line breaks can be counted, the end of a part is resolved to the bytes
of that part exactly if no carriage return stands alone in it, or nothing follows it. A column behind
the end of a line is drawn to that end exactly if the text ends there, or a line feed ends the line
and no carriage return stands alone before it. -/
theorem offsetAt_breaks_iff (t : Text) (hbreaks : (documentEnd t).line ≤ unitLimit)
    (hfit : t.LinesFit) :
    (∀ before behind : Text, t = before ++ behind →
      (documentEnd before).line ≤ unitLimit ∧
        (t.offsetAt (documentEnd before) = byteSize before ↔
          behind = [] ∨ ¬ before.HasBareReturn)) ∧
    ∀ (before line behind : Text) (p : Position), t = before ++ line ++ behind →
      IsLine before line behind → p.line = (documentEnd before).line → line.width < p.column →
        (t.offsetAt p = byteSize (before ++ line) ↔
          behind = [] ∨ ¬ before.HasBareReturn ∧ behind.head? = some '\n') := by
  constructor
  · intro before behind ht
    have hwidth : before.lastLine.width ≤ unitLimit := hfit.width_lastLine_le ht
    subst ht
    refine ⟨Nat.le_trans (line_documentEnd_le before behind) hbreaks, ?_⟩
    rw [offsetAt_documentEnd_iff]
    by_cases hbare : before.HasBareReturn <;> simp [hbare, hwidth]
  · rintro before line behind p rfl h hline hcolumn
    exact offsetAt_past_end_iff h hline hcolumn

theorem offsetAt_breaks_iff_second_line :
    ((documentEnd ['a', '\r', '\n', '😀', '\r', '\n']).line ≤ unitLimit ∧
      LinesFit ['a', '\r', '\n', '😀', '\r', '\n'] ∧
      IsLine ['a', '\r', '\n'] ['😀'] ['\r', '\n'] ∧
      (⟨1, 9, by decide⟩ : Position).line = (documentEnd ['a', '\r', '\n']).line ∧
      Text.width ['😀'] < (⟨1, 9, by decide⟩ : Position).column) ∧
    (Text.offsetAt ['a', '\r', '\n', '😀', '\r', '\n'] (documentEnd ['a', '\r', '\n']) =
        byteSize ['a', '\r', '\n'] ↔
      (['😀', '\r', '\n'] : Text) = [] ∨ ¬ HasBareReturn ['a', '\r', '\n']) ∧
    (Text.offsetAt ['a', '\r', '\n', '😀', '\r', '\n'] ⟨1, 9, by decide⟩ =
        byteSize ['a', '\r', '\n', '😀'] ↔
      (['\r', '\n'] : Text) = [] ∨
        ¬ HasBareReturn ['a', '\r', '\n'] ∧ (['\r', '\n'] : Text).head? = some '\n') := by
  have hbreaks : (documentEnd ['a', '\r', '\n', '😀', '\r', '\n']).line ≤ unitLimit := by decide
  have hfit : LinesFit ['a', '\r', '\n', '😀', '\r', '\n'] := .of_width_le (by decide)
  have hline : IsLine ['a', '\r', '\n'] ['😀'] ['\r', '\n'] := ⟨by decide, by decide, by decide⟩
  obtain ⟨hends, hcolumns⟩ := offsetAt_breaks_iff _ hbreaks hfit
  refine ⟨⟨hbreaks, hfit, hline, by decide, by decide⟩, ?_, ?_⟩
  · exact (hends ['a', '\r', '\n'] ['😀', '\r', '\n'] rfl).2
  · exact hcolumns ['a', '\r', '\n'] ['😀'] ['\r', '\n'] _ rfl hline (by decide) (by decide)

/-- In `a\r\nb\rc` a column behind the first line leads between the two characters of its break,
and the position behind the second break leads to the end of the text. -/
theorem offsetAt_between_break :
    IsLine [] ['a'] ['\r', '\n', 'b', '\r', 'c'] ∧
      Text.offsetAt ['a', '\r', '\n', 'b', '\r', 'c'] ⟨0, 99, by decide⟩ =
        byteSize ['a', '\r'] ∧
      Text.offsetAt ['a', '\r', '\n', 'b', '\r', 'c'] (documentEnd ['a', '\r', '\n', 'b', '\r']) ≠
        byteSize ['a', '\r', '\n', 'b', '\r'] :=
  ⟨⟨by decide, by decide, by decide⟩, by decide, by decide⟩

end LanguageServer
