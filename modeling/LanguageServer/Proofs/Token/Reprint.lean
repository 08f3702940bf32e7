import LanguageServer.Proofs.Token.Span

/-! # Tokens on lines of their own

A line feed goes on with no lexeme and starts no comment, so a lexeme in front of one is read as it
was, unless it has no end and had to go to the end of the text (`Rule.Covers.before_break`). Any of
the lexemes of a text may therefore be written out again, one below the other
(`Factors.onLines_filter`), and the tokens of a text stay what they are (`exists_reprinted`). -/

namespace LanguageServer

open Text

/-- The text of a token, as the store of documents finds it. -/
def Token.source? (t : Text) (k : Token) : Option Text :=
  (k.span? t).map fun s => t.slice s.1 s.2

/-- Pieces of text with a line feed between any two. -/
def Text.onLines (pieces : List Text) : Text := ['\n'].intercalate pieces

/-- The first pieces, each with the line feed behind it. -/
def Text.linesBefore (pieces : List Text) (i : Nat) : Text := (pieces.take i).flatMap (· ++ ['\n'])

/-- The texts of the tokens of a text, and what a scan of them on lines of their own gives. -/
structure Text.Reprinted (v : Vocabulary) (t : Text) (pieces : List Text) : Prop where
  sources : (scan v t).map (·.source? t) = pieces.map some
  same : (scan v (onLines pieces)).map (fun k => (k.kind, k.length)) =
    (scan v t).map fun k => (k.kind, k.length)
  starts : ∀ i k, (scan v (onLines pieces))[i]? = some k →
    k.start.column = 0 ∧ k.start.line = (linesBefore pieces i).count '\n'

def Lexeme.feed : Lexeme := ⟨.blank, ['\n']⟩

/-- Whether a lexeme makes a token. -/
def Lexeme.isNamed (v : Vocabulary) (l : Lexeme) : Bool := (l.kind? v).isSome

/-! ## Lexemes in front of a line feed -/

/-- A text is empty or starts with a line feed. -/
def Text.Breaks (t : Text) : Prop := ∀ c ∈ t.head?, c = '\n'

namespace Rule

variable {r : Rule} {l rest rest' opener : Text}

theorem prefix_of_breaks (hrest : rest.Breaks) (hopener : '\n' ∉ opener)
    (h : opener <+: l ++ rest) : opener <+: l := by
  obtain ⟨more, hmore⟩ := h
  rcases List.append_eq_append_iff.mp hmore with ⟨y, hl, -⟩ | ⟨_ | ⟨d, y⟩, hl, hy⟩
  · exact ⟨y, hl.symm⟩
  · rw [List.append_nil] at hl
    exact hl ▸ List.prefix_rfl
  · obtain rfl : d = '\n' := hrest d (by rw [hy]; rfl)
    exact absurd (by rw [hl]; simp) hopener

theorem Applies.of_breaks (hl : l ≠ []) (hrest : rest.Breaks) (h : r.Applies (l ++ rest))
    (rest' : Text) : r.Applies (l ++ rest') := by
  have hhead : ∀ t : Text, (l ++ t).head? = l.head? := fun t => List.head?_append_of_ne_nil l hl
  cases r with
  | blank | string | number | word =>
    simp only [Applies, hhead] at h ⊢
    exact h
  | lineComment | blockComment =>
    exact (prefix_of_breaks hrest (by decide) h).trans (List.prefix_append _ _)
  | symbol => exact List.append_ne_nil_of_left_ne_nil hl _

theorem Covers.applies (hl : l ≠ []) (covers : r.Covers l rest) (h : r.Applies (l ++ rest))
    (rest' : Text) : r.Applies (l ++ rest') := by
  have hhead : ∀ t : Text, (l ++ t).head? = l.head? := fun t => List.head?_append_of_ne_nil l hl
  cases r with
  | blank | string | number | word =>
    simp only [Applies, hhead] at h ⊢
    exact h
  | lineComment =>
    have hrest : rest.Breaks := fun c hc => by simpa using covers.2 c hc
    exact (prefix_of_breaks hrest (by decide) h).trans (List.prefix_append _ _)
  | blockComment =>
    obtain ⟨body, rfl, -⟩ := covers
    exact ⟨body ++ rest', (List.append_assoc ..).symm⟩
  | symbol => exact List.append_ne_nil_of_left_ne_nil hl _

theorem IsFirst.before_break (hl : l ≠ []) (first : r.IsFirst (l ++ rest))
    (covers : r.Covers l rest) (hrest' : rest'.Breaks) : r.IsFirst (l ++ rest') := by
  obtain ⟨earlier, later, hall, happlies, hnone⟩ := first
  refine ⟨earlier, later, hall, covers.applies hl happlies rest', ?_⟩
  intro r' hr' happlies'
  exact hnone r' hr' (happlies'.of_breaks hl hrest' rest)

theorem IsRun.before_break {p : Char → Bool} (h : IsRun p l rest) (hp : p '\n' = false)
    (hrest' : rest'.Breaks) : IsRun p l rest' := by
  refine ⟨h.1, ?_⟩
  intro c hc
  rw [hrest' c hc, hp]

theorem Covers.before_break (covers : r.Covers l rest) (hrest' : rest'.Breaks)
    (hend : rest = [] → rest' = []) : r.Covers l rest' := by
  cases r with
  | blank | symbol => exact covers
  | lineComment | number | word => exact IsRun.before_break covers (by decide) hrest'
  | blockComment =>
    obtain ⟨body, hl, hbody⟩ := covers
    exact ⟨body, hl, hbody.imp_right fun h => ⟨hend h.1, h.2⟩⟩
  | string => exact covers.imp_right fun h => ⟨hend h.1, h.2⟩

end Rule

/-! ## Lexemes written out again -/

theorem Factors.feed_cons {t : Text} {ls : List Lexeme} (h : Factors t ls) :
    Factors ('\n' :: t) (.feed :: ls) := by
  have hfirst : Lexeme.feed.rule.IsFirst (Lexeme.feed.text ++ t) := Rule.isFirst_of '\n' t
  have hcovers : Lexeme.feed.rule.Covers Lexeme.feed.text t := rfl
  exact .cons (List.cons_ne_nil _ _) hfirst hcovers h

theorem Factors.onLines_filter {t : Text} {ls : List Lexeme} (h : Factors t ls)
    (keep : Lexeme → Bool) :
    Factors (onLines ((ls.filter keep).map (·.text))) ((ls.filter keep).intersperse .feed) := by
  induction h with
  | nil => exact .nil
  | @cons l rest ls nonempty first covers more ih =>
    by_cases hl : keep l = true
    · rw [List.filter_cons_of_pos hl]
      cases hkept : ls.filter keep with
      | nil =>
        have hbreaks : Text.Breaks [] := by simp [Text.Breaks]
        have hfirst := first.before_break nonempty covers hbreaks
        have hcovers := covers.before_break hbreaks fun _ => rfl
        have hlast := Factors.cons nonempty hfirst hcovers .nil
        rw [List.append_nil] at hlast
        rw [onLines, List.map_cons, List.map_nil, List.intercalate_singleton]
        exact hlast
      | cons m ms =>
        -- Something follows, so this is not the lexeme without an end.
        have hrest : rest ≠ [] := by
          rintro rfl
          rw [more.eq .nil] at hkept
          cases hkept
        rw [hkept] at ih
        have hbreaks : Text.Breaks ('\n' :: onLines ((m :: ms).map (·.text))) := by
          simp [Text.Breaks]
        have hfirst := first.before_break nonempty covers hbreaks
        have hcovers := covers.before_break hbreaks fun h => absurd h hrest
        have hlines := Factors.cons nonempty hfirst hcovers ih.feed_cons
        rw [onLines, List.map_cons, List.map_cons, List.intercalate_cons_cons,
          List.intersperse_cons_cons, List.append_assoc]
        exact hlines
    · rw [List.filter_cons_of_neg hl]
      exact ih

/-! ## Tokens of lexemes -/

theorem Placed.map_measure_ofLexemes (v : Vocabulary) (before : Text) (ls : List Lexeme) :
    ((ofLexemes before ls).filterMap (·.token? v)).map (fun k => (k.kind, k.length)) =
      ls.filterMap fun l => (l.kind? v).map (·, l.text.boundedWidth) := by
  induction ls generalizing before with
  | nil => rfl
  | cons l ls ih =>
    rw [ofLexemes, List.filterMap_cons, List.filterMap_cons, ← ih (before ++ l.text), token?]
    cases l.kind? v <;> rfl

theorem filterMap_intersperse {α β : Type} {f : α → Option β} {separator : α}
    (h : f separator = none) (as : List α) :
    (as.intersperse separator).filterMap f = as.filterMap f := by
  induction as with
  | nil => rfl
  | cons a as ih =>
    cases as with
    | nil => rfl
    | cons a' as =>
      rw [List.intersperse_cons_cons]
      simp only [List.filterMap_cons, h, ih]

theorem linesBefore_succ (piece : Text) (pieces : List Text) (i : Nat) :
    linesBefore (piece :: pieces) (i + 1) = piece ++ ['\n'] ++ linesBefore pieces i := by
  rw [linesBefore, List.take_succ_cons, List.flatMap_cons, ← linesBefore]

theorem Placed.start_of_getElem? (v : Vocabulary) {ls : List Lexeme}
    (h : ∀ l ∈ ls, l.isNamed v = true) (before : Text) {i : Nat} {k : Token}
    (hk : ((ofLexemes before (ls.intersperse .feed)).filterMap (·.token? v))[i]? = some k) :
    k.start = .endOf (before ++ linesBefore (ls.map (·.text)) i) := by
  induction ls generalizing before i with
  | nil => cases hk
  | cons l ls ih =>
    obtain ⟨kind, hkind⟩ := Option.isSome_iff_exists.mp (h l List.mem_cons_self)
    have hfirst : ∀ rest, (ofLexemes before (l :: rest)).filterMap (·.token? v) =
        ⟨.endOf before, l.text.boundedWidth, kind⟩ ::
          (ofLexemes (before ++ l.text) rest).filterMap (·.token? v) := by
      intro rest
      rw [ofLexemes, List.filterMap_cons_some]
      rw [token?, hkind, Option.map_some]
    cases i with
    | zero =>
      have hsplit : ∃ rest, (l :: ls).intersperse Lexeme.feed = l :: rest := by
        cases ls <;> exact ⟨_, rfl⟩
      obtain ⟨rest, hrest⟩ := hsplit
      rw [hrest, hfirst, List.getElem?_cons_zero] at hk
      cases hk
      rw [linesBefore, List.take_zero, List.flatMap_nil, List.append_nil]
    | succ i =>
      cases ls with
      | nil =>
        rw [List.intersperse_singleton, hfirst, List.getElem?_cons_succ] at hk
        cases hk
      | cons m ms =>
        rw [List.intersperse_cons_cons, hfirst, List.getElem?_cons_succ, ofLexemes,
          List.filterMap_cons_none rfl] at hk
        have hlines : linesBefore ((l :: m :: ms).map (·.text)) (i + 1) =
            l.text ++ ['\n'] ++ linesBefore ((m :: ms).map (·.text)) i := linesBefore_succ ..
        rw [ih (fun l hl => h l (List.mem_cons_of_mem _ hl)) _ hk, hlines, Lexeme.feed]
        simp only [List.append_assoc]

/-! ## The tokens of a text -/

theorem column_endOf_linesBefore (pieces : List Text) (i : Nat) :
    (Position.endOf (linesBefore pieces i)).column = 0 := by
  unfold linesBefore
  rcases List.eq_nil_or_concat (pieces.take i) with h | ⟨front, last, h⟩
  · rw [h]
    rfl
  · rw [h, List.concat_eq_append, List.flatMap_append, List.flatMap_singleton,
      ← List.append_assoc, Position.column_endOf, lastLine_concat_feed]
    rfl

theorem Scanner.map_lexeme_consumed (v : Vocabulary) (t : Text) :
    (consumed v t).map (·.1.lexeme) = ((start t).run.map (·.lexeme)).filter (·.isNamed v) := by
  unfold consumed
  induction (start t).run with
  | nil => rfl
  | cons l ls ih =>
    rw [List.map_cons, List.filterMap_cons, Placed.token?]
    cases hkind : l.lexeme.kind? v with
    | none =>
      rw [List.filter_cons_of_neg (by simp [Lexeme.isNamed, hkind]), ← ih]
      rfl
    | some kind =>
      rw [List.filter_cons_of_pos (by simp [Lexeme.isNamed, hkind]), ← ih]
      rfl

theorem map_measure_scan (v : Vocabulary) {t : Text} {ls : List Lexeme} (h : Factors t ls) :
    (scan v t).map (fun k => (k.kind, k.length)) =
      ls.filterMap fun l => (l.kind? v).map (·, l.text.boundedWidth) := by
  rw [scan, h.run_start, Placed.map_measure_ofLexemes]

theorem map_source?_scan (v : Vocabulary) {t : Text} (h : t.width ≤ unitLimit) :
    (scan v t).map (·.source? t) =
      (((Scanner.consumed v t).map (·.1.lexeme)).map (·.text)).map some := by
  rw [← Scanner.map_snd_consumed, List.map_map, List.map_map, List.map_map]
  apply List.map_congr_left
  intro p hp
  obtain ⟨hrun, htoken⟩ := Scanner.mem_consumed.mp hp
  have hin := Scanner.isIn_run hrun
  simp only [Function.comp_apply, Token.source?, Placed.span?_token hin h htoken, Option.map_some,
    hin.slice_eq]

/-- The texts of all tokens, written on lines of their own, have the same tokens, each at the start
of the line that the ones before it lead to. -/
theorem exists_reprinted (v : Vocabulary) (t : Text) (h : t.width ≤ unitLimit) :
    ∃ pieces, t.Reprinted v pieces := by
  have hfactors := Scanner.factors_start t
  have hlines := hfactors.onLines_filter (·.isNamed v)
  rw [← Scanner.map_lexeme_consumed] at hlines
  refine ⟨((Scanner.consumed v t).map (·.1.lexeme)).map (·.text), ?_⟩
  constructor
  case sources => exact map_source?_scan v h
  case same =>
    rw [map_measure_scan v hlines, map_measure_scan v hfactors, filterMap_intersperse rfl,
      Scanner.map_lexeme_consumed, List.filterMap_filter]
    congr 1
    funext l
    cases hkind : l.kind? v <;> simp [Lexeme.isNamed, hkind]
  case starts =>
    intro i k hk
    rw [scan, hlines.run_start] at hk
    have hnamed : ∀ l ∈ (Scanner.consumed v t).map (·.1.lexeme), l.isNamed v = true := by
      rw [Scanner.map_lexeme_consumed]
      exact fun l hl => (List.mem_filter.mp hl).2
    rw [Placed.start_of_getElem? v hnamed [] hk, List.nil_append]
    exact ⟨column_endOf_linesBefore _ i, Position.line_endOf _⟩

theorem exists_reprinted_open_comment :
    Text.width ['/', 'x', '"', '\n', '"', '/', '!', '😀', '\n'] ≤ unitLimit ∧
      ∃ pieces, Text.Reprinted .standard ['/', 'x', '"', '\n', '"', '/', '!', '😀', '\n'] pieces :=
  ⟨by decide, exists_reprinted _ _ (by decide)⟩

end LanguageServer
