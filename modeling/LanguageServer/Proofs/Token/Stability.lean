import LanguageServer.Proofs.Token.Span

/-! # Tokens in front of an edit

A rule is chosen by two characters, and what it covers is decided by the character behind it. So a
lexeme that ends inside a text stays as it is, whatever is written behind that text
(`Factors.filter_stop_eq`), and so do the tokens (`endingBefore_stable`). -/

namespace LanguageServer

/-! ## What a rule looks at -/

namespace Rule

variable {r : Rule} {t t' l rest rest' : Text}

theorem head?_eq_of_take (h : t.take 2 = t'.take 2) : t.head? = t'.head? := by
  have hhead := congrArg List.head? h
  rwa [List.head?_take, List.head?_take] at hhead

theorem Applies.of_take (h : r.Applies t) (ht : t.take 2 = t'.take 2) : r.Applies t' := by
  have hhead := head?_eq_of_take ht
  cases r with
  | blank | string | number | word =>
    simp only [Applies] at h ⊢
    rwa [← hhead]
  | lineComment | blockComment =>
    simp only [Applies, List.prefix_iff_eq_take] at h ⊢
    exact h.trans ht
  | symbol =>
    intro hnil
    rw [hnil, List.head?_nil, List.head?_eq_none_iff] at hhead
    exact h hhead

theorem IsFirst.of_take (h : r.IsFirst t) (ht : t.take 2 = t'.take 2) : r.IsFirst t' := by
  obtain ⟨earlier, later, hall, happlies, hnone⟩ := h
  refine ⟨earlier, later, hall, happlies.of_take ht, ?_⟩
  intro r' hr' happlies'
  exact hnone r' hr' (happlies'.of_take ht.symm)

theorem IsRun.of_head {p : Char → Bool} (h : IsRun p l rest) (hhead : rest.head? = rest'.head?) :
    IsRun p l rest' := by
  refine ⟨h.1, ?_⟩
  rw [← hhead]
  exact h.2

theorem Covers.of_head (h : r.Covers l rest) (hhead : rest.head? = rest'.head?) :
    r.Covers l rest' := by
  have hnil : rest = [] → rest' = [] := by
    rintro rfl
    exact List.head?_eq_none_iff.mp hhead.symm
  cases r with
  | blank | symbol => exact h
  | lineComment | number | word => exact IsRun.of_head h hhead
  | blockComment =>
    obtain ⟨body, hl, hbody⟩ := h
    exact ⟨body, hl, hbody.imp_right fun hend => ⟨hnil hend.1, hend.2⟩⟩
  | string => exact h.imp_right fun hend => ⟨hnil hend.1, hend.2⟩

end Rule

/-! ## Lexemes that end inside a text -/

/-- The text starts with the lexeme and goes on behind it. -/
def Lexeme.EndsIn (l : Lexeme) (p : Text) : Prop := ∃ y, y ≠ [] ∧ p = l.text ++ y

theorem Lexeme.byteSize_le_of_not_endsIn {l : Lexeme} {p r rest : Text}
    (ht : p ++ r = l.text ++ rest) (h : ¬ l.EndsIn p) :
    Text.byteSize p ≤ Text.byteSize l.text := by
  rcases List.append_eq_append_iff.mp ht with ⟨y, hl, -⟩ | ⟨y, hp, -⟩
  · rw [hl, Text.byteSize_append]
    omega
  · have hy : y = [] := by
      by_contra hy
      exact h ⟨y, hy, hp⟩
    rw [hp, hy, List.append_nil]

theorem Placed.filter_stop_eq_nil {before : Text} {ls : List Lexeme} {n : Nat}
    (h : ∀ l ∈ ls.head?, n ≤ Text.byteSize before + Text.byteSize l.text) :
    (ofLexemes before ls).filter (·.stop < n) = [] := by
  rw [List.filter_eq_nil_iff]
  intro p hp hstop
  have hstop : p.offset + Text.byteSize p.lexeme.text < n := of_decide_eq_true hstop
  cases ls with
  | nil => cases hp
  | cons l ls =>
    have hle := h l rfl
    rcases List.mem_cons.mp hp with rfl | hp
    · exact Nat.not_lt_of_le hle hstop
    · have hoffset := le_offset hp
      rw [Text.byteSize_append] at hoffset
      omega

namespace Factors

variable {l : Lexeme} {ls ls' : List Lexeme} {p r r' t y : Text}

theorem uncons (h : Factors t (l :: ls)) :
    ∃ rest, t = l.text ++ rest ∧ l.text ≠ [] ∧ l.rule.IsFirst t ∧ l.rule.Covers l.text rest ∧
      Factors rest ls := by
  cases h with
  | cons nonempty first covers more => exact ⟨_, rfl, nonempty, first, covers, more⟩

/-- A lexeme that ends inside a text is read there whatever follows the text. -/
theorem of_endsIn (hy : y ≠ []) (h : Factors (l.text ++ y ++ r) (l :: ls))
    (h' : Factors (l.text ++ y ++ r') ls') :
    Factors (y ++ r) ls ∧ ∃ ls'', ls' = l :: ls'' ∧ Factors (y ++ r') ls'' := by
  obtain ⟨rest, ht, nonempty, first, covers, more⟩ := h.uncons
  rw [List.append_assoc] at ht
  obtain rfl := List.append_cancel_left ht
  refine ⟨more, _, ?_, Scanner.factors_start (y ++ r')⟩
  obtain ⟨c, cs, hl⟩ := List.exists_cons_of_ne_nil nonempty
  obtain ⟨d, ds, rfl⟩ := List.exists_cons_of_ne_nil hy
  -- The two characters that decide the rule, and the one that ends the lexeme, are in the text.
  have htake : (l.text ++ (d :: ds) ++ r).take 2 = (l.text ++ (d :: ds) ++ r').take 2 := by
    rw [hl]
    cases cs <;> rfl
  have hfactors : Factors (l.text ++ (d :: ds ++ r')) (l :: _) :=
    .cons nonempty (by rw [← List.append_assoc]; exact first.of_take htake)
      (covers.of_head rfl) (Scanner.factors_start (d :: ds ++ r'))
  rw [List.append_assoc] at h'
  exact h'.eq hfactors

theorem filter_stop_eq_nil (h : Factors (p ++ r) ls) (hin : ∀ l ∈ ls.head?, ¬ l.EndsIn p)
    (before : Text) :
    (Placed.ofLexemes before ls).filter (·.stop < Text.byteSize (before ++ p)) = [] := by
  apply Placed.filter_stop_eq_nil
  intro l hl
  obtain ⟨ls', rfl⟩ := List.head?_eq_some_iff.mp hl
  obtain ⟨rest, ht, -⟩ := h.uncons
  rw [Text.byteSize_append]
  exact Nat.add_le_add_left (Lexeme.byteSize_le_of_not_endsIn ht (hin l hl)) _

theorem head?_eq_of_endsIn (h : Factors (p ++ r) ls) (h' : Factors (p ++ r') ls')
    (hl : l ∈ ls.head?) (hin : l.EndsIn p) : ls'.head? = some l := by
  obtain ⟨y, hy, rfl⟩ := hin
  obtain ⟨more, rfl⟩ := List.head?_eq_some_iff.mp hl
  obtain ⟨-, more', rfl, -⟩ := of_endsIn hy h h'
  rfl

theorem filter_stop_eq (h : Factors (p ++ r) ls) (h' : Factors (p ++ r') ls') (before : Text) :
    (Placed.ofLexemes before ls).filter (·.stop < Text.byteSize (before ++ p)) =
      (Placed.ofLexemes before ls').filter (·.stop < Text.byteSize (before ++ p)) := by
  induction ls generalizing p ls' before with
  | nil =>
    rw [filter_stop_eq_nil h' ?_ before]
    · rfl
    · intro l hl hin
      cases head?_eq_of_endsIn h' h hl hin
  | cons l ls ih =>
    by_cases hin : l.EndsIn p
    · obtain ⟨y, hy, rfl⟩ := hin
      obtain ⟨hmore, ls'', rfl, hmore'⟩ := of_endsIn hy h h'
      have hsize : before ++ (l.text ++ y) = before ++ l.text ++ y := (List.append_assoc ..).symm
      rw [Placed.ofLexemes, Placed.ofLexemes, List.filter_cons, List.filter_cons, hsize,
        ih hmore hmore' (before ++ l.text)]
    · -- Then the first lexeme of the other text does not end inside either, or it would be `l`.
      rw [filter_stop_eq_nil h ?_ before, filter_stop_eq_nil h' ?_ before]
      · intro m hm hin'
        obtain rfl := Option.some.inj (head?_eq_of_endsIn h' h hm hin')
        exact hin hin'
      · intro m hm hin'
        obtain rfl := Option.some.inj hm
        exact hin hin'

end Factors

/-! ## Tokens -/

namespace Scanner

/-- The tokens whose lexemes end before the byte `n`, each with its lexeme. -/
def endingBefore (v : Vocabulary) (t : Text) (n : Nat) : List (Placed × Token) :=
  (consumed v t).filter (·.1.stop < n)

theorem endingBefore_eq (v : Vocabulary) (t : Text) (n : Nat) :
    endingBefore v t n =
      ((start t).run.filter (·.stop < n)).filterMap fun l => (l.token? v).map (l, ·) :=
  filter_consumed fun l => l.stop < n

/-- The tokens of a text that end inside a part of it do not depend on what follows this part. -/
theorem endingBefore_stable (v : Vocabulary) (p r r' : Text) :
    (∀ t, (consumed v t).map (·.2) = scan v t) ∧
      endingBefore v (p ++ r) (Text.byteSize p) = endingBefore v (p ++ r') (Text.byteSize p) := by
  refine ⟨fun t => map_snd_consumed, ?_⟩
  have hlexemes := (factors_start (p ++ r)).filter_stop_eq (factors_start (p ++ r')) []
  rw [← (factors_start (p ++ r)).run_start, ← (factors_start (p ++ r')).run_start,
    List.nil_append] at hlexemes
  rw [endingBefore_eq, endingBefore_eq, hlexemes]

end Scanner

end LanguageServer
