import Mathlib.Data.List.TakeWhile
import LanguageServer.Lexeme.Grammar
import LanguageServer.Proofs.Lexeme.Characters

/-! # Lexemes read as the grammar says

The rule that is chosen is the first that applies, and what it cuts off is what the grammar wants
it to cover (`covers_first`). The grammar leaves no choice: of two lexemes that a rule covers at
one place, neither goes further (`Rule.Covers.eq`). -/

namespace LanguageServer

open Lexeme

/-! ## The first rule -/

namespace Rule

theorem IsFirst.eq {r r' : Rule} {t : Text} (h : r.IsFirst t) (h' : r'.IsFirst t) : r = r' := by
  obtain ⟨earlier, later, hall, happlies, hnone⟩ := h
  obtain ⟨earlier', later', hall', happlies', hnone'⟩ := h'
  rcases List.append_eq_append_iff.mp (hall ▸ hall') with ⟨between, he, hr⟩ | ⟨between, he, hr⟩
  · cases between with
    | nil => exact (List.cons.inj hr).1
    | cons b bs =>
      obtain ⟨rfl, -⟩ := List.cons.inj hr
      exact absurd happlies (hnone' r (by simp [he]))
  · cases between with
    | nil => exact (List.cons.inj hr).1.symm
    | cons b bs =>
      obtain ⟨rfl, -⟩ := List.cons.inj hr
      exact absurd happlies' (hnone r' (by simp [he]))

theorem isFirst_of (c : Char) (cs : Text) : (Rule.of c cs).IsFirst (c :: cs) := by
  unfold Rule.of
  split_ifs with hblank hline hblock hquote hdigit hword
  · exact ⟨[], _, rfl, by simpa [Applies] using hblank, by simp⟩
  · refine ⟨[.blank], _, rfl, List.isPrefixOf_iff_prefix.mp hline, ?_⟩
    simp [Applies, hblank]
  · refine ⟨[.blank, .lineComment], _, rfl, List.isPrefixOf_iff_prefix.mp hblock, ?_⟩
    rw [List.isPrefixOf_iff_prefix] at hline
    simp [Applies, hblank, hline]
  all_goals rw [List.isPrefixOf_iff_prefix] at hline hblock
  · refine ⟨[.blank, .lineComment, .blockComment], _, rfl, by simp [Applies, hquote], ?_⟩
    simp [Applies, hblank, hline, hblock]
  · refine ⟨[.blank, .lineComment, .blockComment, .string], _, rfl, by simp [Applies, hdigit], ?_⟩
    simp [Applies, hblank, hline, hblock, hquote]
  · refine ⟨[.blank, .lineComment, .blockComment, .string, .number], _, rfl,
      by simp [Applies, hword], ?_⟩
    simp [Applies, hblank, hline, hblock, hquote, hdigit]
  · refine ⟨[.blank, .lineComment, .blockComment, .string, .number, .word], [], rfl,
      by simp [Applies], ?_⟩
    simp [Applies, hblank, hline, hblock, hquote, hdigit, hword]

theorem IsFirst.applies {r : Rule} {t : Text} (h : r.IsFirst t) : r.Applies t := by
  obtain ⟨-, -, -, happlies, -⟩ := h
  exact happlies

theorem of_eq_symbol {c : Char} {cs : Text} (h : Rule.of c cs = .symbol) :
    ¬ lineOpener <+: c :: cs ∧ ¬ blockOpener <+: c :: cs ∧ c ≠ '"' ∧ c.isDigit = false ∧
      startsWord c = false := by
  unfold Rule.of at h
  split_ifs at h with hblank hline hblock hquote hdigit hword
  rw [List.isPrefixOf_iff_prefix] at hline hblock
  exact ⟨hline, hblock, hquote, by simpa using hdigit, by simpa using hword⟩

/-! ## No rule goes further than it must -/

theorem IsRun.stop {p : Char → Bool} {l more rest : Text} (h : IsRun p l (more ++ rest))
    (h' : IsRun p (l ++ more) rest) : more = [] := by
  cases more with
  | nil => rfl
  | cons c cs =>
    have hout : p c = false := h.2 c rfl
    have hin : p c = true := h'.1 c (by simp)
    rw [hin] at hout
    cases hout

theorem ClosesAt.append {l : Text} {i : Nat} (h : ClosesAt l i) (more : Text) :
    ClosesAt (l ++ more) i := by
  obtain ⟨hpos, hquote, hbefore⟩ := h
  have hi : i < l.length := (List.getElem?_eq_some_iff.mp hquote).1
  refine ⟨hpos, ?_, ?_⟩
  · rw [List.getElem?_append_left hi]; exact hquote
  · rw [List.getElem?_append_left (by omega)]; exact hbefore

theorem Covers.stop {r : Rule} {l more rest : Text} (hl : l ≠ []) (h : r.Covers l (more ++ rest))
    (h' : r.Covers (l ++ more) rest) : more = [] := by
  cases r with
  | blank | symbol =>
    have hone : l.length = 1 := h
    have hone' : (l ++ more).length = 1 := h'
    rw [List.length_append] at hone'
    exact List.eq_nil_of_length_eq_zero (by omega)
  | lineComment | number | word => exact IsRun.stop h h'
  | blockComment =>
    by_contra hmore
    obtain ⟨body, rfl, ⟨hcloser, -⟩ | ⟨hrest, -⟩⟩ := h
    · obtain ⟨body', hbody, hbody'⟩ := h'
      rw [List.append_assoc, List.append_cancel_left_eq] at hbody
      subst hbody
      -- The closer of the short one stands inside the long one, before its last character.
      have hin : blockCloser <:+: (body ++ more).dropLast := by
        rw [List.dropLast_append_of_ne_nil hmore]
        exact hcloser.isInfix.trans (List.prefix_append _ _).isInfix
      rcases hbody' with ⟨-, hnone⟩ | ⟨-, hnone⟩
      · exact hnone hin
      · exact hnone (hin.trans (List.dropLast_prefix _).isInfix)
    · exact hmore (List.append_eq_nil_iff.mp hrest).1
  | string =>
    by_contra hmore
    rcases h with ⟨hcloses, -⟩ | ⟨hrest, -⟩
    · have hlen : l.length - 1 < (l ++ more).length - 1 := by
        have := List.length_pos_iff.mpr hl
        have := List.length_pos_iff.mpr hmore
        rw [List.length_append]
        omega
      rcases h' with ⟨-, hnone⟩ | ⟨-, hnone⟩
      · exact hnone _ hlen (hcloses.append more)
      · exact hnone _ (hcloses.append more)
    · exact hmore (List.append_eq_nil_iff.mp hrest).1

theorem Covers.eq {r : Rule} {l l' rest rest' : Text} (hl : l ≠ []) (hl' : l' ≠ [])
    (h : r.Covers l rest) (h' : r.Covers l' rest') (ht : l ++ rest = l' ++ rest') : l = l' := by
  rcases List.append_eq_append_iff.mp ht with ⟨more, rfl, rfl⟩ | ⟨more, rfl, rfl⟩
  · rw [h.stop hl h', List.append_nil]
  · rw [h'.stop hl' h, List.append_nil]

end Rule

/-! ## What is cut off is covered -/

namespace Lexeme

theorem isRun_takeWhile (p : Char → Bool) (t : Text) :
    Rule.IsRun p (t.takeWhile p) (t.dropWhile p) := by
  refine ⟨fun c hc => List.mem_takeWhile_imp hc, ?_⟩
  intro c hc
  have hhead := List.head?_dropWhile_not p t
  rw [hc] at hhead
  simpa using hhead

theorem through_covers {marker : Text} (hm : marker ≠ []) (t : Text) :
    marker <:+ (through marker t).1 ∧ ¬ marker <:+: (through marker t).1.dropLast ∨
      (through marker t).2 = [] ∧ ¬ marker <:+: (through marker t).1 := by
  induction t with
  | nil => exact .inr ⟨rfl, fun h => hm (List.infix_nil.mp h)⟩
  | cons c cs ih =>
    unfold through
    split
    · refine .inl ⟨List.suffix_rfl, ?_⟩
      intro hin
      have hle : marker.length ≤ marker.dropLast.length := hin.length_le
      have hpos := List.length_pos_iff.mpr hm
      rw [List.length_dropLast] at hle
      omega
    · next hstart =>
      rw [List.isPrefixOf_iff_prefix] at hstart
      -- A marker in what was cut off starts at `c`, which is ruled out, or stands behind it.
      have hcons : ∀ b, b <+: (through marker cs).1 → ¬ marker <:+: b → ¬ marker <:+: c :: b := by
        intro b hb hnone hin
        rcases List.infix_cons_iff.mp hin with hpre | hin
        · have hcut : b <+: cs := hb.trans ⟨_, through_append marker cs⟩
          exact hstart (hpre.trans (List.cons_prefix_cons.mpr ⟨rfl, hcut⟩))
        · exact hnone hin
      rcases ih with ⟨hend, hnone⟩ | ⟨hrest, hnone⟩
      · have hne : (through marker cs).1 ≠ [] := by
          intro he
          rw [he] at hend
          exact hm (List.suffix_nil.mp hend)
        refine .inl ⟨hend.trans (List.suffix_cons _ _), ?_⟩
        rw [List.dropLast_cons_of_ne_nil hne]
        exact hcons _ (List.dropLast_prefix _) hnone
      · exact .inr ⟨hrest, hcons _ List.prefix_rfl hnone⟩

theorem closesAt_succ {p c : Char} (h : ¬ (c = '"' ∧ p ≠ '\\')) (b : Text) (i : Nat) :
    Rule.ClosesAt (p :: c :: b) (i + 1) ↔ Rule.ClosesAt (c :: b) i := by
  cases i with
  | zero =>
    simp only [Rule.ClosesAt]
    simpa using h
  | succ i => simp [Rule.ClosesAt]

theorem covers_throughQuote (p : Char) (t : Text) :
    Rule.string.Covers (p :: (throughQuote p t).1) (throughQuote p t).2 := by
  induction t generalizing p with
  | nil =>
    refine .inr ⟨rfl, ?_⟩
    rintro i ⟨hpos, hquote, -⟩
    rw [throughQuote, List.getElem?_eq_none (by simp; omega)] at hquote
    cases hquote
  | cons c cs ih =>
    unfold throughQuote
    split
    · next h =>
      refine .inl ⟨⟨by simp, by simp [h.1], by simpa using h.2⟩, ?_⟩
      intro i hi hcloses
      have := hcloses.1
      simp at hi
      omega
    · next h =>
      rcases ih c with ⟨hcloses, hnone⟩ | ⟨hrest, hnone⟩
      · refine .inl ⟨(closesAt_succ h _ _).mpr hcloses, ?_⟩
        intro i hi hcloses
        cases i with
        | zero => exact absurd hcloses.1 (by omega)
        | succ i =>
          refine hnone i ?_ ((closesAt_succ h _ i).mp hcloses)
          simp only [List.length_cons] at hi ⊢
          omega
      · refine .inr ⟨hrest, ?_⟩
        intro i hcloses
        cases i with
        | zero => exact absurd hcloses.1 (by omega)
        | succ i => exact hnone i ((closesAt_succ h _ i).mp hcloses)

theorem isRun_cons {p : Char → Bool} {c : Char} (hc : p c = true) (cs : Text) :
    Rule.IsRun p (c :: cs.takeWhile p) (cs.dropWhile p) := by
  have h := isRun_takeWhile p (c :: cs)
  rwa [List.takeWhile_cons_of_pos hc, List.dropWhile_cons_of_pos hc] at h

theorem covers_cut {r : Rule} {c : Char} {cs : Text} (h : r.Applies (c :: cs)) :
    r.Covers (c :: (r.cut cs).1) (r.cut cs).2 := by
  cases r with
  | blank | symbol => rfl
  | lineComment =>
    obtain ⟨rfl, -⟩ := List.cons_prefix_cons.mp h
    exact isRun_cons (by decide) cs
  | blockComment =>
    obtain ⟨body, hbody⟩ := h
    obtain ⟨rfl, rfl⟩ := List.cons.inj hbody
    exact ⟨_, rfl, through_covers (by decide) body⟩
  | string =>
    obtain rfl := Option.some.inj h
    exact covers_throughQuote '"' cs
  | number =>
    obtain ⟨d, hd, hdigit⟩ := h
    obtain rfl := Option.some.inj hd
    exact isRun_cons (continuesNumber_of_isDigit hdigit) cs
  | word =>
    obtain ⟨d, hd, hstart⟩ := h
    obtain rfl := Option.some.inj hd
    exact isRun_cons (continuesWord_of_startsWord hstart) cs

theorem covers_first (c : Char) (cs : Text) :
    (first c cs).rule.Covers (first c cs).text (rest c cs) :=
  covers_cut (Rule.isFirst_of c cs).applies

end Lexeme

end LanguageServer
