import LanguageServer.Proofs.Lexeme.Factoring

/-! # The tokens of the grammar

What the tokens of a text are, said without a scanner. `Vocabulary.Names` gives a lexeme its kind,
and `Tokens` lists the lexemes that have one, each at the line and column where it stands. `scan`
lists exactly these (`scan_eq_grammar_tokens`). -/

namespace LanguageServer

/-! ## Kinds -/

namespace Vocabulary

variable (v : Vocabulary)

def IsKeyword (w : Text) : Prop := String.ofList w ∈ v.keywords.toList

/-- A word is one of the types or starts with a capital. -/
def IsType (w : Text) : Prop :=
  String.ofList w ∈ v.types.toList ∨ ∃ c, w.head? = some c ∧ c.isUpper = true

def IsBuiltin (w : Text) : Prop := String.ofList w ∈ v.builtinFunctions.toList

/-- A vocabulary names a lexeme. -/
inductive Names : Lexeme → TokenKind → Prop where
  | lineComment (t : Text) : Names ⟨.lineComment, t⟩ .comment
  | blockComment (t : Text) : Names ⟨.blockComment, t⟩ .comment
  | string (t : Text) : Names ⟨.string, t⟩ .string
  | number (t : Text) : Names ⟨.number, t⟩ .number
  | keyword {w : Text} : v.IsKeyword w → Names ⟨.word, w⟩ .keyword
  | typeName {w : Text} : ¬ v.IsKeyword w → v.IsType w → Names ⟨.word, w⟩ .typeName
  | functionName {w : Text} : ¬ v.IsKeyword w → ¬ v.IsType w → v.IsBuiltin w →
      Names ⟨.word, w⟩ .functionName
  | variableName {w : Text} : ¬ v.IsKeyword w → ¬ v.IsType w → ¬ v.IsBuiltin w →
      Names ⟨.word, w⟩ .variableName
  | operator {c : Char} : c ∈ v.operators.toList → Names ⟨.symbol, [c]⟩ .operator
  | punctuation {c : Char} : c ∉ v.operators.toList → c ∈ v.punctuation.toList →
      Names ⟨.symbol, [c]⟩ .punctuation

/-- A lexeme that is no token: a blank, or a character in neither symbol set. -/
def Passes (l : Lexeme) : Prop :=
  l.rule = .blank ∨
    ∃ c, l = ⟨.symbol, [c]⟩ ∧ c ∉ v.operators.toList ∧ c ∉ v.punctuation.toList

theorem names_wordKind (w : Text) : v.Names ⟨.word, w⟩ (v.wordKind (String.ofList w)) := by
  have hkeyword : v.keywords.contains (String.ofList w) = true ↔ v.IsKeyword w :=
    OrderedSet.contains_iff _ _
  have htype : (v.types.contains (String.ofList w) ||
      (String.ofList w).toList.head?.any Char.isUpper) = true ↔ v.IsType w := by
    rw [Bool.or_eq_true, OrderedSet.contains_iff, String.toList_ofList, Option.any_eq_true]
    rfl
  have hbuiltin : v.builtinFunctions.contains (String.ofList w) = true ↔ v.IsBuiltin w :=
    OrderedSet.contains_iff _ _
  unfold wordKind
  split_ifs with hk ht hb
  · exact .keyword (hkeyword.mp hk)
  · exact .typeName (mt hkeyword.mpr hk) (htype.mp ht)
  · exact .functionName (mt hkeyword.mpr hk) (mt htype.mpr ht) (hbuiltin.mp hb)
  · exact .variableName (mt hkeyword.mpr hk) (mt htype.mpr ht) (mt hbuiltin.mpr hb)

theorem symbolKind?_eq_none {c : Char} :
    v.symbolKind? c = none ↔ c ∉ v.operators.toList ∧ c ∉ v.punctuation.toList := by
  unfold symbolKind?
  simp only [OrderedSet.contains_iff]
  split_ifs with ho hp <;> simp [*]

theorem names_symbolKind {c : Char} {k : TokenKind} (h : v.symbolKind? c = some k) :
    v.Names ⟨.symbol, [c]⟩ k := by
  unfold symbolKind? at h
  simp only [OrderedSet.contains_iff] at h
  split_ifs at h with ho hp
  · cases h
    exact .operator ho
  · cases h
    exact .punctuation ho hp

variable {v}

theorem Names.unique {l : Lexeme} {k k' : TokenKind} (h : v.Names l k) (h' : v.Names l k') :
    k = k' := by
  cases h <;> cases h' <;> first | rfl | contradiction

theorem Names.not_passes {l : Lexeme} {k : TokenKind} (h : v.Names l k) : ¬ v.Passes l := by
  rintro (hblank | ⟨c, rfl, ho, hp⟩)
  · cases h <;> cases hblank
  · cases h <;> contradiction

end Vocabulary

theorem Lexeme.kind?_spec (v : Vocabulary) {l : Lexeme} {rest : Text}
    (h : l.rule.Covers l.text rest) :
    match l.kind? v with
    | some k => v.Names l k
    | none => v.Passes l := by
  obtain ⟨rule, text⟩ := l
  cases rule with
  | blank => exact .inl rfl
  | lineComment => exact .lineComment text
  | blockComment => exact .blockComment text
  | string => exact .string text
  | number => exact .number text
  | word => exact v.names_wordKind text
  | symbol =>
    obtain ⟨c, rfl⟩ := List.length_eq_one_iff.mp h
    simp only [kind?]
    split
    · next k hk => exact v.names_symbolKind hk
    · next hk => exact .inr ⟨c, rfl, v.symbolKind?_eq_none.mp hk⟩

/-! ## Tokens -/

/-- A position is behind a text: as many lines down as the text has line feeds, and at the column
that its last line is wide. -/
def Position.IsBehind (p : Position) (before : Text) : Prop :=
  p.line = before.count '\n' ∧ p.column = min before.lastLine.width unitLimit

/-- The tokens of lexemes behind the text `before`. -/
inductive Tokens (v : Vocabulary) : Text → List Lexeme → List Token → Prop where
  | nil {before : Text} : Tokens v before [] []
  | passes {before : Text} {l : Lexeme} {ls : List Lexeme} {ts : List Token} (passes : v.Passes l)
      (more : Tokens v (before ++ l.text) ls ts) : Tokens v before (l :: ls) ts
  | token {before : Text} {l : Lexeme} {ls : List Lexeme} {t : Token} {ts : List Token}
      (start : t.start.IsBehind before) (length : t.length = min l.text.width unitLimit)
      (named : v.Names l t.kind) (more : Tokens v (before ++ l.text) ls ts) :
      Tokens v before (l :: ls) (t :: ts)

theorem Position.isBehind_iff {p : Position} {before : Text} :
    p.IsBehind before ↔ p = .endOf before := by
  constructor
  · rintro ⟨hline, hcolumn⟩
    ext
    · rw [hline, line_endOf]
    · rw [hcolumn, column_endOf, Text.boundedWidth_eq]
  · rintro rfl
    rw [IsBehind, line_endOf, column_endOf, Text.boundedWidth_eq]
    exact ⟨rfl, rfl⟩

theorem Tokens.unique {v : Vocabulary} {before : Text} {ls : List Lexeme} {ts ts' : List Token}
    (h : Tokens v before ls ts) (h' : Tokens v before ls ts') : ts = ts' := by
  induction h generalizing ts' with
  | nil => cases h'; rfl
  | passes passes more ih =>
    cases h' with
    | passes _ more' => exact ih more'
    | token _ _ named' _ => exact absurd passes named'.not_passes
  | @token before l ls t ts start length named more ih =>
    cases h' with
    | passes passes' _ => exact absurd passes' named.not_passes
    | @token _ _ _ t' ts' start' length' named' more' =>
      have hstart : t.start = t'.start := by
        rw [Position.isBehind_iff.mp start, Position.isBehind_iff.mp start']
      have heq : t = t' := by
        obtain ⟨_, _, _⟩ := t
        obtain ⟨_, _, _⟩ := t'
        simp only [Token.mk.injEq]
        exact ⟨hstart, length.trans length'.symm, named.unique named'⟩
      rw [heq, ih more']

theorem Factors.tokens (v : Vocabulary) {t : Text} {ls : List Lexeme} (h : Factors t ls)
    (before : Text) : Tokens v before ls ((Placed.ofLexemes before ls).filterMap (·.token? v)) := by
  induction h generalizing before with
  | nil => exact .nil
  | @cons l rest ls nonempty first covers more ih =>
    have hkind := Lexeme.kind?_spec v covers
    rw [Placed.ofLexemes, List.filterMap_cons]
    cases hk : l.kind? v with
    | none =>
      rw [hk] at hkind
      simp only [Placed.token?, hk, Option.map_none]
      exact .passes hkind (ih _)
    | some k =>
      rw [hk] at hkind
      simp only [Placed.token?, hk, Option.map_some]
      exact .token (Position.isBehind_iff.mpr rfl) (Text.boundedWidth_eq l.text) hkind (ih _)

/-- A text is lexemes of the grammar in exactly one way, and `scan` lists exactly their tokens. -/
theorem scan_eq_grammar_tokens (v : Vocabulary) (t : Text) :
    ∃ ls, Factors t ls ∧ (∀ ls', Factors t ls' → ls' = ls) ∧
      ∀ ts, Tokens v [] ls ts ↔ ts = scan v t := by
  have hfactors := Scanner.factors_start t
  refine ⟨_, hfactors, fun ls' h => h.eq hfactors, ?_⟩
  have htokens := hfactors.tokens v []
  rw [← hfactors.run_start] at htokens
  intro ts
  constructor
  · intro h
    exact h.unique htokens
  · rintro rfl
    exact htokens

end LanguageServer
