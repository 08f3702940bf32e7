import LanguageServer.Proofs.Document.Offset
import LanguageServer.Proofs.Text.Cutting
import LanguageServer.Proofs.Token.Grammar

/-! # Tokens as pieces of the text

A client finds a token by its start and its length in UTF-16 units. The store of documents leads
to the bytes of the lexeme that the scanner read (`Placed.span?_token`). These pieces do not
overlap, and nothing is left between them but blanks and unknown symbols (`exists_spans`). -/

namespace LanguageServer

open Text

/-- The bytes of a token, as the store of documents finds them: from the offset of its start, as
many units as it is long. -/
def Token.span? (t : Text) (k : Token) : Option (Nat × Nat) :=
  let start := t.offsetAt k.start
  ((t.dropBytes start).bytesOfUnits? k.length).map fun bytes => (start, start + bytes)

/-- The lexemes that the scanner makes tokens of, each with its token. -/
def Scanner.consumed (v : Vocabulary) (t : Text) : List (Placed × Token) :=
  (start t).run.filterMap fun l => (l.token? v).map (l, ·)

/-- A character that may stand between tokens, before the text `after`. -/
structure Vocabulary.LeavesOut (v : Vocabulary) (c : Char) (after : Text) : Prop where
  passes : isBlank c = true ∨ c ∉ v.operators.toList ∧ c ∉ v.punctuation.toList
  not_letter_or_digit : c.isAlphanum = false
  not_underscore : c ≠ '_'
  not_quote : c ≠ '"'
  not_lineOpener : ¬ Lexeme.lineOpener <+: c :: after
  not_blockOpener : ¬ Lexeme.blockOpener <+: c :: after

/-- The spans of the tokens of a text, in bytes. -/
structure TokenSpans (v : Vocabulary) (t : Text) (spans : List (Nat × Nat)) : Prop where
  found : (scan v t).map (·.span? t) = spans.map some
  tokens : (Scanner.consumed v t).map (·.2) = scan v t
  lexemes : (Scanner.consumed v t).map (·.1.lexeme.text) = spans.map fun s => t.slice s.1 s.2
  nonempty : ∀ s ∈ spans, s.1 < s.2
  boundaries : ∀ s ∈ spans, t.IsBoundary s.1 ∧ t.IsBoundary s.2
  disjoint : spans.Pairwise fun s s' => s.2 ≤ s'.1
  between : ∀ before c after, t = before ++ c :: after →
    (∀ s ∈ spans, byteSize before < s.1 ∨ s.2 ≤ byteSize before) → v.LeavesOut c after

/-! ## One token -/

namespace Placed

variable {v : Vocabulary} {t : Text} {l : Placed} {k : Token}

theorem token?_eq_some (h : l.token? v = some k) :
    k.start = l.start ∧ k.length = l.lexeme.text.boundedWidth := by
  obtain ⟨kind, -, rfl⟩ := Option.map_eq_some_iff.mp h
  exact ⟨rfl, rfl⟩

theorem IsIn.isBoundary (h : l.IsIn t) : t.IsBoundary l.offset ∧ t.IsBoundary l.stop := by
  obtain ⟨before, behind, rfl, hoffset, -⟩ := h
  rw [stop, hoffset, ← byteSize_append]
  refine ⟨?_, isBoundary_append _ _⟩
  rw [List.append_assoc]
  exact isBoundary_append _ _

theorem IsIn.slice_eq (h : l.IsIn t) : t.slice l.offset l.stop = l.lexeme.text := by
  obtain ⟨before, behind, rfl, hoffset, -⟩ := h
  rw [stop, hoffset, slice_append]

theorem span?_token (h : l.IsIn t) (hw : t.width ≤ unitLimit) (hk : l.token? v = some k) :
    k.span? t = some (l.offset, l.stop) := by
  obtain ⟨before, behind, rfl, hoffset, hstart⟩ := h
  obtain ⟨hkstart, hlength⟩ := token?_eq_some hk
  rw [width_append, width_append] at hw
  have hresolved : (before ++ l.lexeme.text ++ behind).offsetAt k.start = byteSize before := by
    rw [hkstart, hstart, List.append_assoc]
    exact offsetAt_endOf (by omega)
  have hunits : k.length = l.lexeme.text.width := by
    rw [hlength, boundedWidth_eq, Nat.min_eq_left (by omega)]
  rw [Token.span?, hresolved, hunits, List.append_assoc, dropBytes_append,
    bytesOfUnits?_append, Option.map_some, stop, hoffset]

end Placed

/-! ## What is left out -/

namespace Vocabulary

variable (v : Vocabulary)

theorem leavesOut_of_blank {c : Char} (h : isBlank c = true) (after : Text) :
    v.LeavesOut c after where
  passes := .inl h
  not_letter_or_digit := isAlphanum_of_isBlank h
  not_underscore := by rintro rfl; exact absurd h (by decide)
  not_quote := by rintro rfl; exact absurd h (by decide)
  not_lineOpener := by
    intro hopener
    obtain ⟨rfl, -⟩ := List.cons_prefix_cons.mp hopener
    exact absurd h (by decide)
  not_blockOpener := by
    intro hopener
    obtain ⟨rfl, -⟩ := List.cons_prefix_cons.mp hopener
    exact absurd h (by decide)

theorem leavesOut_of_symbol {c : Char} {after : Text} (h : Rule.of c after = .symbol)
    (ho : c ∉ v.operators.toList) (hp : c ∉ v.punctuation.toList) : v.LeavesOut c after := by
  obtain ⟨hline, hblock, hquote, hdigit, hword⟩ := Rule.of_eq_symbol h
  simp only [Lexeme.startsWord, Bool.or_eq_false_iff, beq_eq_false_iff_ne] at hword
  have halphanum : c.isAlphanum = false := by
    rw [Char.isAlphanum, hword.1, hdigit]
    rfl
  exact ⟨.inr ⟨ho, hp⟩, halphanum, hword.2, hquote, hline, hblock⟩

end Vocabulary

theorem Lexeme.leavesOut {v : Vocabulary} {l : Lexeme} {x y rest : Text} {c : Char}
    (hkind : l.kind? v = none) (hl : l.text = x ++ c :: y)
    (first : l.rule.IsFirst (l.text ++ rest)) (covers : l.rule.Covers l.text rest) :
    v.LeavesOut c (y ++ rest) := by
  have hpasses := kind?_spec v covers
  rw [hkind] at hpasses
  have hone : l.text.length = 1 := by
    rcases hpasses with hblank | ⟨d, rfl, -⟩
    · rw [hblank] at covers
      exact covers
    · rfl
  rw [hl, List.length_append, List.length_cons] at hone
  obtain rfl : x = [] := List.eq_nil_of_length_eq_zero (by omega)
  rw [hl] at first
  have hrule : l.rule = Rule.of c (y ++ rest) := first.eq (Rule.isFirst_of c _)
  rcases hpasses with hblank | ⟨d, rfl, ho, hp⟩
  · rw [hblank] at first
    obtain ⟨d, hd, hblank⟩ := first.applies
    obtain rfl := Option.some.inj hd
    exact v.leavesOut_of_blank hblank _
  · obtain rfl : d = c := (List.cons.inj hl).1
    exact v.leavesOut_of_symbol hrule.symm ho hp

/-! ## All tokens -/

namespace Scanner

variable {v : Vocabulary} {t : Text}

theorem mem_consumed {l : Placed} {k : Token} :
    (l, k) ∈ consumed v t ↔ l ∈ (start t).run ∧ l.token? v = some k := by
  simp only [consumed, List.mem_filterMap, Option.map_eq_some_iff, Prod.mk.injEq]
  constructor
  · rintro ⟨l', hl', k', hk', rfl, rfl⟩
    exact ⟨hl', hk'⟩
  · rintro ⟨hl, hk⟩
    exact ⟨l, hl, k, hk, rfl, rfl⟩

theorem map_snd_filterMap (v : Vocabulary) (ls : List Placed) :
    (ls.filterMap fun l => (l.token? v).map (l, ·)).map (·.2) = ls.filterMap (·.token? v) := by
  rw [List.map_filterMap]
  congr 1
  funext l
  rw [Option.map_map]
  exact Option.map_id'

theorem map_snd_consumed : (consumed v t).map (·.2) = scan v t := map_snd_filterMap v _

theorem filter_consumed (p : Placed → Bool) :
    (consumed v t).filter (p ·.1) =
      ((start t).run.filter p).filterMap fun l => (l.token? v).map (l, ·) := by
  unfold consumed
  rw [List.filter_filterMap, List.filterMap_filter]
  congr 1
  funext l
  cases l.token? v with
  | none => simp
  | some k => simp [Option.filter]

theorem isIn_run {l : Placed} (h : l ∈ (start t).run) : l.IsIn t := by
  have hfactors := factors_start t
  rw [hfactors.run_start] at h
  exact hfactors.isIn h

theorem pairwise_consumed : (consumed v t).Pairwise fun p q => p.1.stop ≤ q.1.offset := by
  rw [consumed, List.pairwise_filterMap, (factors_start t).run_start]
  refine (Placed.pairwise_ofLexemes _ _).imp ?_
  intro l l' hle p hp p' hp'
  obtain ⟨-, -, rfl⟩ := Option.map_eq_some_iff.mp hp
  obtain ⟨-, -, rfl⟩ := Option.map_eq_some_iff.mp hp'
  exact hle

theorem offset_lt_stop {l : Placed} (h : l ∈ (start t).run) : l.offset < l.stop := by
  have hne : l.lexeme.text ≠ [] := (factors_start t).nonempty _ (List.mem_map_of_mem h)
  have hpos := byteSize_pos hne
  rw [Placed.stop]
  omega

theorem leavesOut_of_outside {before after : Text} {c : Char} (ht : t = before ++ c :: after)
    (hout : ∀ p ∈ consumed v t,
      byteSize before < p.1.offset ∨ p.1.stop ≤ byteSize before) : v.LeavesOut c after := by
  obtain ⟨l, hl, x, y, rest, hx, rfl, hoffset, first, covers⟩ :=
    (factors_start t).exists_lexeme ht []
  rw [← (factors_start t).run_start] at hl
  refine Lexeme.leavesOut ?_ hx first covers
  -- With a token, the lexeme of the character would be one of them.
  by_contra hkind
  obtain ⟨kind, hkind⟩ := Option.ne_none_iff_exists'.mp hkind
  have hk : l.token? v = some ⟨l.start, l.lexeme.text.boundedWidth, kind⟩ := by
    rw [Placed.token?, hkind, Option.map_some]
  have hstop : l.stop = l.offset + (byteSize x + (c.utf8Size + byteSize y)) := by
    rw [Placed.stop, hx, byteSize_append, byteSize_cons]
  have hpos := c.utf8Size_pos
  rw [List.nil_append] at hoffset
  rcases hout (l, _) (mem_consumed.mpr ⟨hl, hk⟩) with hlt | hle
  · simp only at hlt
    omega
  · simp only at hle
    omega

end Scanner

/-- In a text of fewer than 2^32 units the tokens point at pieces that do not overlap. The pieces
are the lexemes that the scanner read, and only blanks and unknown symbols are left between them. -/
theorem exists_spans (v : Vocabulary) (t : Text) (h : t.width ≤ unitLimit) :
    ∃ spans, TokenSpans v t spans := by
  have hin : ∀ p ∈ Scanner.consumed v t, p.1.IsIn t := fun p hp =>
    Scanner.isIn_run (Scanner.mem_consumed.mp hp).1
  refine ⟨(Scanner.consumed v t).map fun p => (p.1.offset, p.1.stop), ?_⟩
  constructor
  case found =>
    rw [← Scanner.map_snd_consumed, List.map_map, List.map_map]
    apply List.map_congr_left
    intro p hp
    exact Placed.span?_token (hin p hp) h (Scanner.mem_consumed.mp hp).2
  case tokens => exact Scanner.map_snd_consumed
  case lexemes =>
    rw [List.map_map]
    apply List.map_congr_left
    intro p hp
    exact (hin p hp).slice_eq.symm
  case nonempty =>
    rw [List.forall_mem_map]
    intro p hp
    exact Scanner.offset_lt_stop (Scanner.mem_consumed.mp hp).1
  case boundaries =>
    rw [List.forall_mem_map]
    intro p hp
    exact (hin p hp).isBoundary
  case disjoint => exact List.pairwise_map.mpr Scanner.pairwise_consumed
  case between =>
    intro before c after ht hout
    rw [List.forall_mem_map] at hout
    exact Scanner.leavesOut_of_outside ht hout

theorem exists_spans_two_lines :
    Text.width ['😀', 'a', '/', '!', '\n', '!', '/', '"', 'x'] ≤ unitLimit ∧
      ∃ spans, TokenSpans .standard ['😀', 'a', '/', '!', '\n', '!', '/', '"', 'x'] spans :=
  ⟨by decide, exists_spans _ _ (by decide)⟩

end LanguageServer
