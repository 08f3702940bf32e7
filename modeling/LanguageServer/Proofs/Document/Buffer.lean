import LanguageServer.Document.Buffer
import LanguageServer.Proofs.Document.Offset
import Mathlib.Data.List.GetD

/-! # Places in the editor's buffer

A position of the buffer cuts the text in two, and the store of documents resolves it to the bytes
of the first part (`exists_cut`). A buffer holds one text only (`ofText_inj`). -/

namespace LanguageServer

namespace Text

theorem charUnits_narrow {c : Char} (h : c.toNat < 0x10000) : charUnits c = [c.toNat] := if_pos h

theorem charUnits_wide {c : Char} (h : ¬ c.toNat < 0x10000) :
    charUnits c = [0xD800 + (c.toNat - 0x10000) / 0x400, 0xDC00 + (c.toNat - 0x10000) % 0x400] :=
  if_neg h

theorem length_charUnits (c : Char) : (charUnits c).length = charWidth c := by
  unfold charWidth
  split
  · next h => rw [charUnits_narrow h]; rfl
  · next h => rw [charUnits_wide h]; rfl

theorem toNat_range (c : Char) : c.toNat < 0xD800 ∨ 0xDFFF < c.toNat ∧ c.toNat < 0x110000 := c.valid

theorem charUnits_append_inj {c d : Char} {us vs : List Nat}
    (h : charUnits c ++ us = charUnits d ++ vs) : c = d ∧ us = vs := by
  have hc := toNat_range c
  have hd := toNat_range d
  -- A unit of a pair is no character, so both are one unit or both are a pair.
  by_cases hcn : c.toNat < 0x10000 <;> by_cases hdn : d.toNat < 0x10000
  · rw [charUnits_narrow hcn, charUnits_narrow hdn] at h
    obtain ⟨hunit, hrest⟩ := List.cons.inj h
    exact ⟨Char.toNat_inj.mp hunit, hrest⟩
  · rw [charUnits_narrow hcn, charUnits_wide hdn] at h
    have hunit := (List.cons.inj h).1
    omega
  · rw [charUnits_wide hcn, charUnits_narrow hdn] at h
    have hunit := (List.cons.inj h).1
    omega
  · rw [charUnits_wide hcn, charUnits_wide hdn] at h
    obtain ⟨hlead, htail⟩ := List.cons.inj h
    obtain ⟨htrail, hrest⟩ := List.cons.inj htail
    exact ⟨Char.toNat_inj.mp (by omega), hrest⟩

end Text

namespace Buffer

open Text

theorem exists_line (t : Text) : ∃ line lines, ofText t = line :: lines := by
  cases t with
  | nil => exact ⟨[], [], rfl⟩
  | cons c cs =>
    unfold ofText
    split
    · exact ⟨[], _, rfl⟩
    · cases ofText cs with
      | nil => exact ⟨_, _, rfl⟩
      | cons line lines => exact ⟨_, _, rfl⟩

theorem ofText_feed (t : Text) : ofText ('\n' :: t) = [] :: ofText t := if_pos rfl

theorem ofText_of_ne {c : Char} (hc : c ≠ '\n') (t : Text) :
    ofText (c :: t) = cons (charUnits c) (ofText t) := if_neg hc

theorem ofText_append (a b : Text) : ofText (a ++ b) = append (ofText a) (ofText b) := by
  induction a with
  | nil =>
    obtain ⟨line, lines, hb⟩ := exists_line b
    rw [List.nil_append, hb]
    rfl
  | cons c cs ih =>
    obtain ⟨line, lines, hcs⟩ := exists_line cs
    by_cases hc : c = '\n'
    · subst hc
      rw [List.cons_append, ofText_feed, ofText_feed, ih, hcs]
      rfl
    · rw [List.cons_append, ofText_of_ne hc, ofText_of_ne hc, ih, hcs]
      cases lines with
      | nil =>
        obtain ⟨line', lines', hb⟩ := exists_line b
        rw [hb]
        simp only [append, cons, List.append_assoc]
      | cons line' lines' => rfl

theorem cons_ofText_ne (c : Char) (t : Text) (lines : Buffer) :
    cons (charUnits c) (ofText t) ≠ [] :: lines := by
  obtain ⟨line, lines', ht⟩ := exists_line t
  have hpos := charWidth_pos c
  rw [← length_charUnits] at hpos
  intro h
  rw [ht] at h
  have hline : charUnits c ++ line = [] := (List.cons.inj h).1
  rw [(List.append_eq_nil_iff.mp hline).1] at hpos
  exact absurd hpos (Nat.lt_irrefl 0)

theorem cons_ofText_inj {c d : Char} {t t' : Text}
    (h : cons (charUnits c) (ofText t) = cons (charUnits d) (ofText t')) :
    c = d ∧ ofText t = ofText t' := by
  obtain ⟨line, lines, ht⟩ := exists_line t
  obtain ⟨line', lines', ht'⟩ := exists_line t'
  rw [ht, ht'] at h ⊢
  obtain ⟨hline, hlines⟩ := List.cons.inj h
  obtain ⟨hchar, hrest⟩ := charUnits_append_inj hline
  exact ⟨hchar, by rw [hrest, hlines]⟩

theorem ofText_inj {t t' : Text} (h : ofText t = ofText t') : t = t' := by
  induction t generalizing t' with
  | nil =>
    cases t' with
    | nil => rfl
    | cons d ds =>
      by_cases hd : d = '\n'
      · obtain ⟨line, lines, hds⟩ := exists_line ds
        rw [hd, ofText_feed, hds] at h
        cases h
      · rw [ofText_of_ne hd] at h
        exact absurd h.symm (cons_ofText_ne d ds [])
  | cons c cs ih =>
    cases t' with
    | nil =>
      by_cases hc : c = '\n'
      · obtain ⟨line, lines, hcs⟩ := exists_line cs
        rw [hc, ofText_feed, hcs] at h
        cases h
      · rw [ofText_of_ne hc] at h
        exact absurd h (cons_ofText_ne c cs [])
    | cons d ds =>
      by_cases hc : c = '\n' <;> by_cases hd : d = '\n'
      · rw [hc, hd, ofText_feed, ofText_feed] at h
        rw [hc, hd, ih (List.cons.inj h).2]
      · rw [hc, ofText_feed, ofText_of_ne hd] at h
        exact absurd h.symm (cons_ofText_ne d ds _)
      · rw [hd, ofText_feed, ofText_of_ne hc] at h
        exact absurd h (cons_ofText_ne c cs _)
      · rw [ofText_of_ne hc, ofText_of_ne hd] at h
        obtain ⟨hchar, hrest⟩ := cons_ofText_inj h
        rw [hchar, ih hrest]

/-! ## Positions -/

theorem isLead_first {c : Char} (h : ¬ c.toNat < 0x10000) (line : List Nat) :
    isLead ((charUnits c ++ line).getD 0 0) = true := by
  have hc := toNat_range c
  rw [charUnits_wide h, List.cons_append, List.getD_cons_zero]
  simp only [isLead, Bool.and_eq_true, decide_eq_true_eq]
  omega

/-- A position cuts a text in two, for the store and for the editor. -/
structure Cuts (t : Text) (p : Position) (a b : Text) : Prop where
  text_eq : t = a ++ b
  offsetAt_eq : t.offsetAt p = byteSize a
  before_eq : before (ofText t) p = ofText a
  behind_eq : behind (ofText t) p = ofText b

theorem cuts_start {p : Position} (hline : p.line = 0) (hcolumn : p.column = 0) (t : Text) :
    Cuts t p [] t := by
  obtain ⟨line, lines, ht⟩ := exists_line t
  refine ⟨rfl, ?_, ?_, ?_⟩
  · rw [offsetAt, hline, hcolumn, offsetFrom_zero, byteSize_nil]
  · unfold before
    rw [hline, hcolumn]
    rfl
  · unfold behind
    rw [hline, hcolumn, ht]
    rfl

variable {t a b : Text} {p q : Position}

theorem Cuts.feed (h : Cuts t p a b) (hline : q.line = p.line + 1)
    (hcolumn : q.column = p.column) : Cuts ('\n' :: t) q ('\n' :: a) b := by
  obtain ⟨htext, hoffset, hbefore, hbehind⟩ := h
  refine ⟨by rw [htext, List.cons_append], ?_, ?_, ?_⟩
  · rw [offsetAt, hline, hcolumn, offsetFrom_feed, byteSize_cons, ← hoffset, offsetAt]
  · unfold before at hbefore ⊢
    rw [ofText_feed, ofText_feed, ← hbefore, hline, hcolumn]
    rfl
  · unfold behind at hbehind ⊢
    rw [ofText_feed, ← hbehind, hline, hcolumn]
    rfl

theorem Cuts.below (h : Cuts t p a b) {c : Char} (hc : c ≠ '\n') (hline : p.line ≠ 0) :
    Cuts (c :: t) p (c :: a) b := by
  obtain ⟨htext, hoffset, hbefore, hbehind⟩ := h
  obtain ⟨line, lines, ht⟩ := exists_line t
  obtain ⟨n, hn⟩ := Nat.exists_eq_succ_of_ne_zero hline
  refine ⟨by rw [htext, List.cons_append], ?_, ?_, ?_⟩
  · rw [offsetAt, hn] at hoffset ⊢
    rw [offsetFrom_above hc, hoffset, byteSize_cons]
  · unfold before at hbefore ⊢
    rw [ofText_of_ne hc, ofText_of_ne hc, ← hbefore, ht, hn]
    rfl
  · unfold behind at hbehind ⊢
    rw [ofText_of_ne hc, ← hbehind, ht, hn]
    rfl

theorem Cuts.right (h : Cuts t p a b) {c : Char} (hc : c ≠ '\n') (hp : p.line = 0)
    (hq : q.line = 0) (hcolumn : q.column = charWidth c + p.column) :
    Cuts (c :: t) q (c :: a) b := by
  obtain ⟨htext, hoffset, hbefore, hbehind⟩ := h
  obtain ⟨line, lines, ht⟩ := exists_line t
  refine ⟨by rw [htext, List.cons_append], ?_, ?_, ?_⟩
  · rw [offsetAt, hp] at hoffset
    rw [offsetAt, hq, hcolumn, offsetFrom_before hc (Nat.le_add_right _ _),
      Nat.add_sub_cancel_left, hoffset, byteSize_cons]
  · unfold before at hbefore ⊢
    rw [hp, ht] at hbefore
    rw [ofText_of_ne hc, ofText_of_ne hc, ← hbefore, ht, hq, hcolumn, ← length_charUnits]
    simp [cons, List.take_length_add_append]
  · unfold behind at hbehind ⊢
    rw [hp, ht] at hbehind
    rw [ofText_of_ne hc, ← hbehind, ht, hq, hcolumn, ← length_charUnits]
    simp [cons, List.drop_length_add_append]

theorem has_cons {c : Char} {line : List Nat} {lines : Buffer} (hp : p.line = 0)
    (h : Has (cons (charUnits c) (line :: lines)) p) (hcolumn : p.column ≠ 0) :
    ∃ q : Position, q.line = 0 ∧ p.column = charWidth c + q.column ∧ Has (line :: lines) q := by
  obtain ⟨units, hunits, hle, hpair⟩ := h
  rw [hp] at hunits
  obtain rfl : charUnits c ++ line = units := Option.some.inj hunits
  have hlead := hpair (Nat.pos_of_ne_zero hcolumn)
  have hlength := length_charUnits c
  have hwide : charWidth c ≤ p.column := by
    by_contra hshort
    -- Only a pair is wider than the column, and then the column is inside it.
    have htwo := charWidth_le_two c
    have hone : p.column = 1 := by omega
    have hplane : ¬ c.toNat < 0x10000 := by
      intro hnarrow
      rw [charWidth, if_pos hnarrow] at hshort
      omega
    rw [hone, isLead_first hplane line] at hlead
    cases hlead
  rw [List.length_append] at hle
  refine ⟨⟨0, p.column - charWidth c, by have := p.column_le; omega⟩, rfl, ?_, line, rfl, ?_, ?_⟩
  · simp only
    omega
  · simp only
    omega
  · intro hpos
    simp only at hpos ⊢
    have hplace : p.column - 1 - (charUnits c).length = p.column - charWidth c - 1 := by omega
    rwa [List.getD_append_right _ _ _ _ (by omega), hplace] at hlead

theorem exists_cut (h : (ofText t).Has p) : ∃ a b, Cuts t p a b := by
  induction t generalizing p with
  | nil =>
    obtain ⟨units, hline, hcolumn, -⟩ := h
    have hzero : p.line = 0 := Nat.lt_one_iff.mp (List.getElem?_eq_some_iff.mp hline).1
    rw [hzero] at hline
    obtain rfl : [] = units := Option.some.inj hline
    exact ⟨[], [], cuts_start hzero (Nat.le_zero.mp hcolumn) []⟩
  | cons c cs ih =>
    obtain ⟨line, lines, hcs⟩ := exists_line cs
    -- The position is in front of the first character. Or it is behind it, and then it is a
    -- position of the rest: a line up behind a line feed, and moved left in the same line.
    by_cases hstart : p.line = 0 ∧ p.column = 0
    · exact ⟨[], _, cuts_start hstart.1 hstart.2 _⟩
    by_cases hc : c = '\n'
    · subst hc
      rw [ofText_feed] at h
      obtain ⟨units, hunits, hcolumn, hpair⟩ := h
      cases hline : p.line with
      | zero =>
        rw [hline] at hunits
        obtain rfl : [] = units := Option.some.inj hunits
        exact absurd ⟨hline, Nat.le_zero.mp hcolumn⟩ hstart
      | succ n =>
        rw [hline] at hunits
        obtain ⟨a, b, hcut⟩ := @ih ⟨n, p.column, p.column_le⟩ ⟨units, hunits, hcolumn, hpair⟩
        exact ⟨_, b, hcut.feed hline rfl⟩
    · rw [ofText_of_ne hc, hcs] at h
      by_cases hline : p.line = 0
      · obtain ⟨q, hq, hcolumn, hhas⟩ := has_cons hline h (fun h0 => hstart ⟨hline, h0⟩)
        rw [← hcs] at hhas
        obtain ⟨a, b, hcut⟩ := ih hhas
        exact ⟨_, b, hcut.right hc hq hline hcolumn⟩
      · obtain ⟨units, hunits, hrest⟩ := h
        obtain ⟨n, hn⟩ := Nat.exists_eq_succ_of_ne_zero hline
        have hhas : (ofText cs).Has p := by
          refine ⟨units, ?_, hrest⟩
          rw [hn] at hunits
          rw [hcs, hn]
          exact hunits
        obtain ⟨a, b, hcut⟩ := ih hhas
        exact ⟨_, b, hcut.below hc hline⟩

end Buffer

end LanguageServer
