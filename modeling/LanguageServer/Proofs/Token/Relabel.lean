import LanguageServer.Proofs.Token.Order
import Mathlib.Data.List.Forall2
import Mathlib.Data.List.Pairwise

/-! # What a vocabulary can change

A vocabulary decides what lexemes are called, and not where they are. So two vocabularies give a
text the same tokens outside of symbols, and only kinds of words differ. A symbol is a token of
both, or its place is left empty (`scan_relabelled`). -/

namespace LanguageServer

namespace TokenKind

/-- The kinds of single characters. -/
def isSymbol : TokenKind → Bool
  | operator | punctuation => true
  | _ => false

/-- The kinds that a word can have. -/
def isWord : TokenKind → Bool
  | keyword | typeName | functionName | variableName => true
  | _ => false

end TokenKind

/-- Two tokens at one place, of one kind or both words. -/
structure Token.Renames (k k' : Token) : Prop where
  start_eq : k.start = k'.start
  length_eq : k.length = k'.length
  kind : k.kind = k'.kind ∨ k.kind.isWord = true ∧ k'.kind.isWord = true

/-- Two lexemes do not reach into each other. -/
def Placed.Apart (l l' : Placed) : Prop := l.stop ≤ l'.offset ∨ l'.stop ≤ l.offset

instance : Std.Symm Placed.Apart := ⟨fun _ _ h => h.symm⟩

/-- What becomes of a symbol, read as the lexeme `l` and the token `k`, with another vocabulary:
it is a token at the same place, or no token reaches into its place. -/
def Vocabulary.Resettles (v' : Vocabulary) (t : Text) (l : Placed) (k : Token) : Prop :=
  ∃ c, t.slice l.offset l.stop = [c] ∧
    if c ∈ v'.operators.toList ∨ c ∈ v'.punctuation.toList then
      ∃ k', (l, k') ∈ Scanner.consumed v' t ∧ k'.kind.isSymbol = true ∧ k'.start = k.start ∧
        k'.length = k.length
    else ∀ p ∈ Scanner.consumed v' t, p.1.Apart l

/-! ## Kinds of lexemes -/

namespace TokenKind

theorem isSymbol_of_isWord {k : TokenKind} (h : k.isWord = true) : k.isSymbol = false := by
  cases k <;> first | rfl | cases h

theorem isWord_wordKind (v : Vocabulary) (w : String) : (v.wordKind w).isWord = true := by
  unfold Vocabulary.wordKind
  split_ifs <;> rfl

theorem isSymbol_symbolKind? {v : Vocabulary} {c : Char} {k : TokenKind}
    (h : v.symbolKind? c = some k) : k.isSymbol = true := by
  cases v.names_symbolKind h <;> rfl

end TokenKind

namespace Lexeme

theorem kind?_cases (v v' : Vocabulary) (l : Lexeme) :
    l.kind? v = l.kind? v' ∨
      (∃ k k', l.kind? v = some k ∧ l.kind? v' = some k' ∧ k.isWord = true ∧ k'.isWord = true) ∨
      ∃ c, l = ⟨.symbol, [c]⟩ := by
  obtain ⟨rule, text⟩ := l
  cases rule with
  | blank | lineComment | blockComment | string | number => exact .inl rfl
  | word => exact .inr (.inl ⟨_, _, rfl, rfl, TokenKind.isWord_wordKind v _,
      TokenKind.isWord_wordKind v' _⟩)
  | symbol =>
    match text with
    | [] | _ :: _ :: _ => exact .inl rfl
    | [c] => exact .inr (.inr ⟨c, rfl⟩)

theorem eq_symbol_of_kind? {v : Vocabulary} {l : Lexeme} {k : TokenKind} (h : l.kind? v = some k)
    (hk : k.isSymbol = true) : ∃ c, l = ⟨.symbol, [c]⟩ := by
  obtain ⟨rule, text⟩ := l
  cases rule with
  | blank => cases h
  | lineComment | blockComment | string | number =>
    obtain rfl := Option.some.inj h
    cases hk
  | word =>
    obtain rfl := Option.some.inj h
    rw [TokenKind.isSymbol_of_isWord (TokenKind.isWord_wordKind v _)] at hk
    cases hk
  | symbol =>
    match text with
    | [] | _ :: _ :: _ => cases h
    | [c] => exact ⟨c, rfl⟩

end Lexeme

/-! ## Tokens that are no symbols -/

/-- The token of a lexeme that is no symbol. -/
def Placed.other? (v : Vocabulary) (l : Placed) : Option Token :=
  (l.token? v).filter (! ·.kind.isSymbol)

theorem Placed.other?_symbol (v : Vocabulary) {l : Placed} {c : Char}
    (h : l.lexeme = ⟨.symbol, [c]⟩) : l.other? v = none := by
  unfold other? token?
  rw [h]
  cases hk : v.symbolKind? c with
  | none => simp only [Lexeme.kind?, hk, Option.map_none, Option.filter_none]
  | some k => simp [Lexeme.kind?, hk, TokenKind.isSymbol_symbolKind? hk]

theorem Placed.rel_other? (v v' : Vocabulary) (l : Placed) :
    Option.Rel Token.Renames (l.other? v) (l.other? v') := by
  rcases l.lexeme.kind?_cases v v' with hsame | ⟨k, k', hk, hk', hword, hword'⟩ | ⟨c, hl⟩
  · have hother : l.other? v = l.other? v' := by rw [other?, token?, hsame, other?, token?]
    rw [hother]
    cases l.other? v' with
    | none => exact .none
    | some k => exact .some ⟨rfl, rfl, .inl rfl⟩
  · have hnot := TokenKind.isSymbol_of_isWord hword
    have hnot' := TokenKind.isSymbol_of_isWord hword'
    simp only [other?, token?, hk, hk', Option.map_some, Option.filter_some, hnot, hnot',
      Bool.not_false, if_true]
    exact .some ⟨rfl, rfl, .inr ⟨hword, hword'⟩⟩
  · rw [other?_symbol v hl, other?_symbol v' hl]
    exact .none

theorem filter_scan (v : Vocabulary) (t : Text) :
    (scan v t).filter (! ·.kind.isSymbol) = (Scanner.start t).run.filterMap (Placed.other? v) :=
  List.filter_filterMap ..

theorem forall₂_renames (v v' : Vocabulary) (t : Text) :
    List.Forall₂ Token.Renames ((scan v t).filter (! ·.kind.isSymbol))
      ((scan v' t).filter (! ·.kind.isSymbol)) := by
  rw [filter_scan, filter_scan]
  refine List.rel_filterMap (R := Eq) ?_ (List.forall₂_refl _)
  rintro l _ rfl
  exact l.rel_other? v v'

/-! ## Symbols -/

namespace Scanner

variable {v v' : Vocabulary} {t : Text} {l l' : Placed} {k : Token}

theorem apart_of_ne (h : l ∈ (start t).run) (h' : l' ∈ (start t).run) (hne : l ≠ l') :
    l.Apart l' := by
  have hpairwise : (start t).run.Pairwise Placed.Apart := by
    rw [(factors_start t).run_start]
    exact (Placed.pairwise_ofLexemes _ _).imp .inl
  exact hpairwise.forall h h' hne

theorem resettles (h : (l, k) ∈ consumed v t) (hk : k.kind.isSymbol = true) (v' : Vocabulary) :
    v'.Resettles t l k := by
  obtain ⟨hl, htoken⟩ := mem_consumed.mp h
  obtain ⟨kind, hkind, rfl⟩ := Option.map_eq_some_iff.mp htoken
  obtain ⟨c, hc⟩ := Lexeme.eq_symbol_of_kind? hkind hk
  have hother : l.token? v' =
      (v'.symbolKind? c).map (⟨l.start, Text.boundedWidth l.lexeme.text, ·⟩) := by
    rw [Placed.token?, hc]
    rfl
  refine ⟨c, by rw [(isIn_run hl).slice_eq, hc], ?_⟩
  split
  · next hin =>
    have hsome : v'.symbolKind? c ≠ none := by
      rw [Ne, v'.symbolKind?_eq_none, ← not_or, not_not]
      exact hin
    obtain ⟨kind', hkind'⟩ := Option.ne_none_iff_exists'.mp hsome
    rw [hkind', Option.map_some] at hother
    exact ⟨_, mem_consumed.mpr ⟨hl, hother⟩, TokenKind.isSymbol_symbolKind? hkind', rfl, rfl⟩
  · next hout =>
    rw [v'.symbolKind?_eq_none.mpr (not_or.mp hout), Option.map_none] at hother
    rintro ⟨l', k'⟩ hl'
    obtain ⟨hl', hk'⟩ := mem_consumed.mp hl'
    apply apart_of_ne hl' hl
    rintro rfl
    rw [hother] at hk'
    cases hk'

end Scanner

/-- Outside of symbols two vocabularies give a text the same tokens one by one, but for the kinds of
words. A symbol of the one is a symbol of the other at the same place if its character is one there,
and else no token. The tokens are what the calls of `next` give. -/
theorem scan_relabelled (v v' : Vocabulary) (t : Text) :
    List.Forall₂ Token.Renames ((scan v t).filter (! ·.kind.isSymbol))
      ((scan v' t).filter (! ·.kind.isSymbol)) ∧
    (∀ p ∈ Scanner.consumed v t, p.2.kind.isSymbol = true → v'.Resettles t p.1 p.2) ∧
    ∀ w : Vocabulary, (Scanner.consumed w t).map (·.2) = scan w t ∧
      ∀ count, (Scanner.start t).steps w count = (List.range count).map fun i => (scan w t)[i]? := by
  refine ⟨forall₂_renames v v' t, ?_, ?_⟩
  · rintro ⟨l, k⟩ h hk
    exact Scanner.resettles h hk v'
  · exact fun w => ⟨Scanner.map_snd_consumed, (Scanner.start t).steps_eq_getElem? w⟩

/-- The standard words without any symbol. -/
def Vocabulary.wordsAlone : Vocabulary :=
  { standard with operators := .empty, punctuation := .empty }

def plusPlaced : Placed := ⟨⟨.symbol, ['+']⟩, 1, Position.origin.right 1⟩

theorem scan_relabelled_plus :
    (plusPlaced, ⟨Position.origin.right 1, 1, .operator⟩) ∈
        Scanner.consumed .standard ['a', '+'] ∧
      Vocabulary.wordsAlone.Resettles ['a', '+'] plusPlaced
        ⟨Position.origin.right 1, 1, .operator⟩ := by
  have hmem : (plusPlaced, ⟨Position.origin.right 1, 1, .operator⟩) ∈
      Scanner.consumed .standard ['a', '+'] := by
    refine Scanner.mem_consumed.mpr ⟨?_, by decide⟩
    rw [Scanner.run_of_turn? rfl, Scanner.run_of_turn? rfl]
    exact List.mem_cons_of_mem _ List.mem_cons_self
  exact ⟨hmem, (scan_relabelled .standard .wordsAlone ['a', '+']).2.1 _ hmem rfl⟩

end LanguageServer
