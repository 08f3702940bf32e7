import LanguageServer.Proofs.Document.Breaks

/-! # Line breaks written alike

The end of a text, by all three line breaks, is the end of the text that has a line feed for each of
them (`documentEnd_eq_endOf_unifyBreaks`). Such a text is put together from its parts as long as no
line break is cut in two, and so are the positions at their ends (`documentEnd_unified`). -/

namespace LanguageServer

open Text

namespace Text

/-- The text with a line feed for each line break. -/
def unifyBreaks : Text → Text
  | [] => []
  | '\r' :: '\n' :: cs => '\n' :: unifyBreaks cs
  | c :: cs => (if c = '\r' then '\n' else c) :: unifyBreaks cs

/-- Between the two parts a carriage return is cut from its line feed. -/
def SplitsBreak (a b : Text) : Prop := a.getLast? = some '\r' ∧ b.head? = some '\n'

instance (a b : Text) : Decidable (SplitsBreak a b) := inferInstanceAs (Decidable (_ ∧ _))

theorem unifyBreaks_pair (t : Text) : unifyBreaks ('\r' :: '\n' :: t) = '\n' :: unifyBreaks t := by
  rw [unifyBreaks]

theorem unifyBreaks_return {t : Text} (h : t.head? ≠ some '\n') :
    unifyBreaks ('\r' :: t) = '\n' :: unifyBreaks t := by
  rw [unifyBreaks, if_pos rfl]
  rintro cs - rfl
  exact h rfl

theorem unifyBreaks_of_ne {c : Char} (hc : c ≠ '\r') (t : Text) :
    unifyBreaks (c :: t) = c :: unifyBreaks t := by
  rw [unifyBreaks, if_neg hc]
  exact fun _ h => absurd h hc

theorem SplitsBreak.cons {a b : Text} (h : SplitsBreak a b) (c : Char) : SplitsBreak (c :: a) b := by
  refine ⟨?_, h.2⟩
  rw [List.getLast?_cons, h.1]
  rfl

theorem head?_append_ne_feed {a b : Text} (ha : a.head? ≠ some '\n')
    (h : ¬ SplitsBreak ('\r' :: a) b) : (a ++ b).head? ≠ some '\n' := by
  cases a with
  | nil => exact fun hfeed => h ⟨rfl, hfeed⟩
  | cons c cs => exact ha

theorem unifyBreaks_append {a b : Text} (h : ¬ SplitsBreak a b) :
    unifyBreaks (a ++ b) = unifyBreaks a ++ unifyBreaks b := by
  fun_induction unifyBreaks a with
  | case1 => rfl
  | case2 cs ih =>
    have hrest := ih fun hsplits => h ((hsplits.cons '\n').cons '\r')
    rw [List.cons_append, List.cons_append, unifyBreaks_pair, hrest, List.cons_append]
  | case3 c cs hpair ih =>
    have hrest := ih fun hsplits => h (hsplits.cons c)
    by_cases hc : c = '\r'
    · subst hc
      have hcs : cs.head? ≠ some '\n' := head?_ne_of_forall_ne fun cs' => hpair cs' rfl
      rw [List.cons_append, unifyBreaks_return (head?_append_ne_feed hcs h), hrest, if_pos rfl,
        List.cons_append]
    · rw [List.cons_append, unifyBreaks_of_ne hc, hrest, if_neg hc, List.cons_append]

end Text

namespace Position

theorem walkBreaks_eq_walk_unifyBreaks (p : Position) (t : Text) :
    p.walkBreaks t = p.walk t.unifyBreaks := by
  fun_induction walkBreaks p t with
  | case1 p => rfl
  | case2 p cs ih => rw [ih, unifyBreaks_pair, walk_cons, step_feed]
  | case3 p c cs hpair hbreak ih =>
    rcases hbreak with rfl | rfl
    · have hcs : cs.head? ≠ some '\n' := head?_ne_of_forall_ne fun cs' => hpair cs' rfl
      rw [ih, unifyBreaks_return hcs, walk_cons, step_feed]
    · rw [ih, unifyBreaks_of_ne (by decide), walk_cons, step_feed]
  | case4 p c cs hpair hbreak ih =>
    obtain ⟨hreturn, hfeed⟩ := not_or.mp hbreak
    rw [ih, unifyBreaks_of_ne hreturn, walk_cons, step_of_ne hfeed]

end Position

theorem documentEnd_eq_endOf_unifyBreaks (t : Text) : documentEnd t = .endOf t.unifyBreaks := by
  rw [documentEnd_eq_walkBreaks, Position.walkBreaks_eq_walk_unifyBreaks, Position.endOf_eq_walk]

theorem documentEnd_append {a b : Text} (h : ¬ SplitsBreak a b) :
    documentEnd (a ++ b) = documentEnd a + documentEnd b := by
  simp only [documentEnd_eq_endOf_unifyBreaks]
  rw [unifyBreaks_append h, Position.endOf_append, Position.plus_endOf]

theorem line_documentEnd (t : Text) : (documentEnd t).line = t.unifyBreaks.count '\n' := by
  rw [documentEnd_eq_endOf_unifyBreaks, Position.line_endOf]

theorem line_documentEnd_of_splitsBreak {a b : Text} (h : SplitsBreak a b) :
    (documentEnd (a ++ b)).line + 1 = (documentEnd a).line + (documentEnd b).line := by
  obtain ⟨a', rfl⟩ := List.getLast?_eq_some_iff.mp h.1
  obtain ⟨b', rfl⟩ := List.head?_eq_some_iff.mp h.2
  have hwhole : ¬ SplitsBreak a' ('\r' :: '\n' :: b') := fun hsplits => by cases hsplits.2
  have hreturn : ¬ SplitsBreak a' ['\r'] := fun hsplits => by cases hsplits.2
  -- Each half of the break ends a line of its own part.
  have hlast : unifyBreaks ['\r'] = ['\n'] := rfl
  rw [List.append_assoc, List.singleton_append]
  simp only [line_documentEnd, unifyBreaks_append hwhole, unifyBreaks_append hreturn,
    unifyBreaks_pair, unifyBreaks_of_ne (c := '\n') (by decide), hlast, List.count_append,
    List.count_cons_self, List.count_nil]
  omega

/-- The end of a text by all three line breaks is the end of the text with a line feed for each of
them. The quick way around for texts without a carriage return ends where the slow one does. And the
end of a text is the end of a second part counted from the end of a first exactly if no carriage
return is cut from its line feed between them. -/
theorem documentEnd_unified :
    (∀ t : Text, documentEnd t = .endOf t.unifyBreaks) ∧
    (∀ t : Text, '\r' ∉ t → Position.endOf t = Position.origin.walkBreaks t) ∧
    ∀ a b : Text, documentEnd (a ++ b) = documentEnd a + documentEnd b ↔ ¬ SplitsBreak a b := by
  refine ⟨documentEnd_eq_endOf_unifyBreaks, ?_, ?_⟩
  · intro t ht
    rw [← documentEnd_eq_walkBreaks, documentEnd, if_neg ht]
  · intro a b
    constructor
    · intro h hsplits
      have hline := line_documentEnd_of_splitsBreak hsplits
      rw [h, Position.line_plus] at hline
      omega
    · exact documentEnd_append

theorem documentEnd_unified_mixed :
    documentEnd ['\r', '\r', '\n', '\n', '\r', '😀'] = .endOf ['\n', '\n', '\n', '\n', '😀'] ∧
    ('\r' ∉ ['a', '\n', 'é'] ∧
      Position.endOf ['a', '\n', 'é'] = Position.origin.walkBreaks ['a', '\n', 'é']) ∧
    documentEnd ['\r', '\r', '\n', '\n', '\r', '😀'] ≠
      documentEnd ['\r', '\r'] + documentEnd ['\n', '\n', '\r', '😀'] := by
  obtain ⟨hunified, hquick, hparts⟩ := documentEnd_unified
  refine ⟨hunified ['\r', '\r', '\n', '\n', '\r', '😀'], ⟨by decide, hquick _ (by decide)⟩, ?_⟩
  intro h
  exact (hparts ['\r', '\r'] ['\n', '\n', '\r', '😀']).mp h (by decide)

end LanguageServer
