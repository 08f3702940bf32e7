import LanguageServer.Proofs.Token.Span

/-! # Tokens in the order of the text

A scanner never goes back: its lexemes, and so its tokens, start where the ones before them do or
later (`pairwise_start_scan`). A call of `next` gives the first of the tokens still to come
(`next_spec`). -/

namespace LanguageServer

namespace Placed

theorem le_start {before : Text} {ls : List Lexeme} {p : Placed} (h : p ∈ ofLexemes before ls) :
    Position.endOf before ≤ p.start := by
  induction ls generalizing before with
  | nil => cases h
  | cons l ls ih =>
    rcases List.mem_cons.mp h with rfl | h
    · exact Position.le_refl _
    · have hwalk := Position.le_walk (.endOf before) l.text
      rw [← Position.after_eq_walk, ← Position.endOf_append] at hwalk
      exact Position.le_trans hwalk (ih h)

theorem pairwise_start_ofLexemes (before : Text) (ls : List Lexeme) :
    (ofLexemes before ls).Pairwise fun p q => p.start ≤ q.start := by
  induction ls generalizing before with
  | nil => exact .nil
  | cons l ls ih =>
    refine List.pairwise_cons.mpr ⟨?_, ih _⟩
    intro q hq
    have hmem : q ∈ ofLexemes before (l :: ls) := List.mem_cons_of_mem _ hq
    exact le_start hmem

end Placed

namespace Scanner

/-- The tokens still to come. -/
def tokens (v : Vocabulary) (s : Scanner) : List Token := s.run.filterMap (Placed.token? v)

theorem tokens_start (v : Vocabulary) (t : Text) : (start t).tokens v = scan v t := rfl

theorem tokens_of_none {v : Vocabulary} {s : Scanner} (h : s.turn? = none) : s.tokens v = [] := by
  rw [tokens, run_of_none h, List.filterMap_nil]

theorem tokens_of_turn? {v : Vocabulary} {s s' : Scanner} {l : Placed}
    (h : s.turn? = some (l, s')) :
    s.tokens v = (l.token? v).toList ++ s'.tokens v := by
  rw [tokens, run_of_turn? h, List.filterMap_cons]
  cases l.token? v <;> rfl

theorem tokens_next (v : Vocabulary) (s : Scanner) :
    (s.next v).1 = (s.tokens v).head? ∧ (s.next v).2.tokens v = (s.tokens v).tail := by
  fun_induction next v s with
  | case1 s h => rw [tokens_of_none h]; exact ⟨rfl, rfl⟩
  | case2 s l s' h k hk => rw [tokens_of_turn? h, hk]; exact ⟨rfl, rfl⟩
  | case3 s l s' h hk ih => rw [tokens_of_turn? h, hk]; exact ih

theorem next_spec (v : Vocabulary) (s : Scanner) :
    match s.next v with
    | (none, _) => s.tokens v = []
    | (some k, s') => s.tokens v = k :: s'.tokens v := by
  have hnext := s.tokens_next v
  split
  · next h =>
    rw [h] at hnext
    exact List.head?_eq_none_iff.mp hnext.1.symm
  · next k s' h =>
    rw [h] at hnext
    obtain ⟨ks, hks⟩ := List.head?_eq_some_iff.mp hnext.1.symm
    rw [hnext.2, hks, List.tail_cons]

theorem steps_succ (v : Vocabulary) (s : Scanner) (count : Nat) :
    s.steps v (count + 1) = (s.next v).1 :: (s.next v).2.steps v count := rfl

theorem steps_eq_getElem? (v : Vocabulary) (s : Scanner) (count : Nat) :
    s.steps v count = (List.range count).map fun i => (s.tokens v)[i]? := by
  induction count generalizing s with
  | zero => rfl
  | succ count ih =>
    obtain ⟨hfirst, hrest⟩ := s.tokens_next v
    rw [steps_succ, hfirst, ih, hrest, List.range_succ_eq_map, List.map_cons, List.map_map,
      List.head?_eq_getElem?]
    congr 2
    funext i
    rw [Function.comp_apply, List.getElem?_tail]

end Scanner

/-! ## The tokens of a text -/

variable {v : Vocabulary} {t : Text} {k : Token}

theorem mem_scan : k ∈ scan v t ↔ ∃ l ∈ (Scanner.start t).run, l.token? v = some k :=
  List.mem_filterMap

theorem pairwise_start_scan (v : Vocabulary) (t : Text) :
    (scan v t).Pairwise fun k k' => k.start ≤ k'.start := by
  unfold scan
  rw [List.pairwise_filterMap, (Scanner.factors_start t).run_start]
  apply (Placed.pairwise_start_ofLexemes _ _).imp
  intro l l' hle k hk k' hk'
  rw [(Placed.token?_eq_some hk).1, (Placed.token?_eq_some hk').1]
  exact hle

theorem one_le_length (h : k ∈ scan v t) : 1 ≤ k.length := by
  obtain ⟨l, hl, hk⟩ := mem_scan.mp h
  have hne : l.lexeme.text ≠ [] := (Scanner.factors_start t).nonempty _ (List.mem_map_of_mem hl)
  rw [(Placed.token?_eq_some hk).2]
  cases hl : l.lexeme.text with
  | nil => exact absurd hl hne
  | cons c cs =>
    have hpos := Text.charWidth_pos c
    rw [Text.boundedWidth_eq, Text.width_cons]
    unfold unitLimit
    omega

theorem line_le_count (h : k ∈ scan v t) : k.start.line ≤ t.count '\n' := by
  obtain ⟨l, hl, hk⟩ := mem_scan.mp h
  obtain ⟨before, behind, ht, -, hstart⟩ := Scanner.isIn_run hl
  rw [(Placed.token?_eq_some hk).1, hstart, Position.line_endOf, ht, List.count_append,
    List.count_append]
  omega

end LanguageServer
