import LanguageServer.Proofs.Token.Order
import Mathlib.Logic.Relation

/-! # Tokens behind a place

A scanner that stands between two lexemes knows the text behind it and nothing of the text in front
of it but where that ends. So it goes on as a new scanner on the rest does, with every place moved
(`turn?_moved`, `tokens_eq_moved`). -/

namespace LanguageServer

/-- The token, counted from `p`. -/
def Token.moved (p : Position) (k : Token) : Token := { k with start := p + k.start }

/-- The lexeme, counted from the byte `n` and from `p`. -/
def Placed.moved (n : Nat) (p : Position) (l : Placed) : Placed :=
  ⟨l.lexeme, n + l.offset, p + l.start⟩

namespace Scanner

/-- The scanner, counted from the byte `n` and from `p`. -/
def moved (n : Nat) (p : Position) (s : Scanner) : Scanner := ⟨s.rest, n + s.offset, p + s.place⟩

/-- By some turns the one scanner becomes the other. -/
def Reaches : Scanner → Scanner → Prop :=
  Relation.ReflTransGen fun s s' => ∃ l, s.turn? = some (l, s')

/-- The tokens of a text whose lexemes start at the byte `n` or later, each with its lexeme. -/
def startingFrom (v : Vocabulary) (t : Text) (n : Nat) : List (Placed × Token) :=
  (consumed v t).filter (n ≤ ·.1.offset)

/-- What a scanner of the text `t` finds from here on is what a new scanner finds in the rest. -/
structure Restarts (v : Vocabulary) (t : Text) (s : Scanner) : Prop where
  rest_eq : s.rest = t.dropBytes s.offset
  tokens_eq : s.tokens v = (scan v s.rest).map (Token.moved s.place)
  steps_eq : ∀ count, s.steps v count =
    ((start s.rest).steps v count).map (Option.map (Token.moved s.place))
  inText : (startingFrom v t s.offset).map (·.2) = s.tokens v

end Scanner

/-! ## Moved scanners -/

theorem Placed.token?_moved (v : Vocabulary) (n : Nat) (p : Position) (l : Placed) :
    (l.moved n p).token? v = (l.token? v).map (Token.moved p) := by
  unfold token?
  rw [Option.map_map]
  rfl

namespace Scanner

theorem turn?_moved (n : Nat) (p : Position) (s : Scanner) :
    (s.moved n p).turn? = s.turn?.map fun r => (r.1.moved n p, r.2.moved n p) := by
  obtain ⟨_ | ⟨c, cs⟩, offset, place⟩ := s
  · rfl
  · simp only [moved, turn?_cons, Option.map_some, Placed.moved, Nat.add_assoc, Position.after_eq_walk,
      Position.plus_walk]

theorem tokens_moved (v : Vocabulary) (n : Nat) (p : Position) (s : Scanner) :
    (s.moved n p).tokens v = (s.tokens v).map (Token.moved p) := by
  -- Both scanners have the same text, so they take the same turns.
  induction s using run.induct with
  | case1 s h =>
    rw [tokens_of_none h, tokens_of_none (by rw [turn?_moved, h, Option.map_none])]
    rfl
  | case2 s l s' h ih =>
    have hturn : (s.moved n p).turn? = some (l.moved n p, s'.moved n p) := by
      rw [turn?_moved, h, Option.map_some]
    rw [tokens_of_turn? h, tokens_of_turn? hturn, ih, Placed.token?_moved, List.map_append,
      Option.toList_map]

theorem eq_moved_start (s : Scanner) : s = (start s.rest).moved s.offset s.place := by
  unfold moved start
  rw [Nat.add_zero, Position.plus_origin]

theorem tokens_eq_moved (v : Vocabulary) (s : Scanner) :
    s.tokens v = (scan v s.rest).map (Token.moved s.place) := by
  conv_lhs => rw [eq_moved_start s]
  rw [tokens_moved, tokens_start]

theorem steps_eq_moved (v : Vocabulary) (s : Scanner) (count : Nat) :
    s.steps v count = ((start s.rest).steps v count).map (Option.map (Token.moved s.place)) := by
  rw [steps_eq_getElem?, steps_eq_getElem?, List.map_map, tokens_eq_moved, tokens_start]
  apply List.map_congr_left
  intro i _
  exact List.getElem?_map

/-! ## Places that a scanner reaches -/

theorem Reaches.hasRead {t : Text} {s : Scanner} (h : (start t).Reaches s) :
    ∃ before, t = before ++ s.rest ∧ s.HasRead before := by
  induction h with
  | refl => exact ⟨[], rfl, hasRead_start t⟩
  | @tail s s' _ hturn ih =>
    obtain ⟨l, hturn⟩ := hturn
    obtain ⟨before, ht, hread⟩ := ih
    refine ⟨before ++ l.lexeme.text, ?_, (hread.of_turn? hturn).2⟩
    obtain ⟨c, cs, hrest, rfl, rfl⟩ := turn?_eq_some hturn
    rw [ht, hrest, List.append_assoc, Lexeme.first_append_rest]

theorem Reaches.rest_eq {t : Text} {s : Scanner} (h : (start t).Reaches s) :
    s.rest = t.dropBytes s.offset := by
  obtain ⟨before, ht, hread⟩ := h.hasRead
  rw [hread.offset_eq]
  conv_rhs => rw [ht]
  exact (Text.dropBytes_append before s.rest).symm

theorem offset_lt_of_turn? {s s' : Scanner} {l : Placed} (h : s.turn? = some (l, s')) :
    l.offset = s.offset ∧ s.offset < s'.offset := by
  obtain ⟨c, cs, -, rfl, rfl⟩ := turn?_eq_some h
  have hpos := Text.byteSize_pos (List.cons_ne_nil c ((Rule.of c cs).cut cs).1)
  refine ⟨rfl, ?_⟩
  simp only [Placed.stop, Lexeme.first]
  omega

theorem le_offset_of_mem_run {s : Scanner} {l : Placed} (h : l ∈ s.run) : s.offset ≤ l.offset := by
  induction s using run.induct with
  | case1 s hturn =>
    rw [run_of_none hturn] at h
    cases h
  | case2 s l' s' hturn ih =>
    obtain ⟨hoffset, hlt⟩ := offset_lt_of_turn? hturn
    rw [run_of_turn? hturn] at h
    rcases List.mem_cons.mp h with rfl | h
    · exact Nat.le_of_eq hoffset.symm
    · exact Nat.le_trans (Nat.le_of_lt hlt) (ih h)

theorem Reaches.run_eq {s s' : Scanner} (h : s.Reaches s') :
    s.offset ≤ s'.offset ∧ ∃ read, s.run = read ++ s'.run ∧ ∀ l ∈ read, l.offset < s'.offset := by
  induction h using Relation.ReflTransGen.head_induction_on with
  | refl => exact ⟨Nat.le_refl _, [], rfl, by simp⟩
  | @head s s₁ hturn _ ih =>
    obtain ⟨l, hturn⟩ := hturn
    obtain ⟨hle, read, hrun, hread⟩ := ih
    obtain ⟨hoffset, hlt⟩ := offset_lt_of_turn? hturn
    refine ⟨by omega, l :: read, ?_, ?_⟩
    · rw [run_of_turn? hturn, hrun, List.cons_append]
    · exact List.forall_mem_cons.mpr ⟨by omega, hread⟩

theorem Reaches.map_snd_startingFrom {t : Text} {s : Scanner} (h : (start t).Reaches s)
    (v : Vocabulary) : (startingFrom v t s.offset).map (·.2) = s.tokens v := by
  obtain ⟨-, read, hrun, hread⟩ := h.run_eq
  have hin : s.run.filter (s.offset ≤ ·.offset) = s.run := by
    rw [List.filter_eq_self]
    exact fun l hl => decide_eq_true (le_offset_of_mem_run hl)
  have hout : read.filter (s.offset ≤ ·.offset) = [] := by
    rw [List.filter_eq_nil_iff]
    intro l hl hle
    exact Nat.not_le_of_lt (hread l hl) (of_decide_eq_true hle)
  have hfilter := @filter_consumed v t fun l => s.offset ≤ l.offset
  rw [hrun, List.filter_append, hout, hin, List.nil_append] at hfilter
  unfold startingFrom
  rw [hfilter, map_snd_filterMap]
  rfl

theorem Reaches.restarts {t : Text} {s : Scanner} (h : (start t).Reaches s) (v : Vocabulary) :
    Restarts v t s where
  rest_eq := h.rest_eq
  tokens_eq := tokens_eq_moved v s
  steps_eq := steps_eq_moved v s
  inText := h.map_snd_startingFrom v

/-- Wherever a scanner stands between two lexemes of a text, the tokens still to come are those of
the rest alone, moved to its position. So two texts with the same rest behind such a place have the
same tokens in it, each moved to its own place. -/
theorem restarts_between_lexemes (v : Vocabulary) :
    (∀ t s, (start t).Reaches s → Restarts v t s) ∧
    ∀ t t' s s', (start t).Reaches s → (start t').Reaches s' → s.rest = s'.rest →
      ∃ ks : List Token, (startingFrom v t s.offset).map (·.2) = ks.map (Token.moved s.place) ∧
        (startingFrom v t' s'.offset).map (·.2) = ks.map (Token.moved s'.place) := by
  refine ⟨fun t s h => h.restarts v, ?_⟩
  intro t t' s s' h h' hrest
  refine ⟨scan v s.rest, ?_, ?_⟩
  · rw [h.map_snd_startingFrom, tokens_eq_moved]
  · rw [h'.map_snd_startingFrom, tokens_eq_moved, hrest]

def behindString : Scanner := ⟨[' ', 'x'], 4, Position.origin.right 3⟩

def behindFeed : Scanner := ⟨[' ', 'x'], 3, Position.origin.nextLine⟩

theorem restarts_between_lexemes_behind_string :
    ((start ['"', 'é', '"', ' ', 'x']).Reaches behindString ∧
      (start ['é', '\n', ' ', 'x']).Reaches behindFeed) ∧
    Restarts .standard ['"', 'é', '"', ' ', 'x'] behindString ∧
    ∃ ks : List Token,
      (startingFrom .standard ['"', 'é', '"', ' ', 'x'] 4).map (·.2) =
        ks.map (Token.moved (Position.origin.right 3)) ∧
      (startingFrom .standard ['é', '\n', ' ', 'x'] 3).map (·.2) =
        ks.map (Token.moved Position.origin.nextLine) := by
  have hstring : (start ['"', 'é', '"', ' ', 'x']).Reaches behindString :=
    .single ⟨_, rfl⟩
  have hfeed : (start ['é', '\n', ' ', 'x']).Reaches behindFeed :=
    .head ⟨_, rfl⟩ (.single ⟨_, rfl⟩)
  have hrestarts := restarts_between_lexemes .standard
  exact ⟨⟨hstring, hfeed⟩, hrestarts.1 _ _ hstring, hrestarts.2 _ _ _ _ hstring hfeed rfl⟩

end Scanner

end LanguageServer
