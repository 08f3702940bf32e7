import LanguageServer.Proofs.Lexeme.Cover
import LanguageServer.Proofs.Position.Walk
import LanguageServer.Scanner

/-! # The lexemes of a text

A text has exactly one factorisation by the grammar (`Factors.eq`), and a scanner reads it
(`factors_run`). What a scanner has read decides where it stands, so its lexemes and what is in
front of them say everything about its run (`HasRead.run_eq`). -/

namespace LanguageServer

/-! ## One factorisation -/

theorem Factors.eq {t : Text} {ls ls' : List Lexeme} (h : Factors t ls) (h' : Factors t ls') :
    ls = ls' := by
  induction h generalizing ls' with
  | nil =>
    generalize ht : ([] : Text) = t at h'
    cases h' with
    | nil => rfl
    | cons nonempty => exact absurd (List.append_eq_nil_iff.mp ht.symm).1 nonempty
  | @cons l rest ls nonempty first covers more ih =>
    generalize ht : l.text ++ rest = t at h' first
    cases h' with
    | nil => exact absurd (List.append_eq_nil_iff.mp ht).1 nonempty
    | @cons l' rest' ls' nonempty' first' covers' more' =>
      obtain ⟨rule, text⟩ := l
      obtain ⟨rule', text'⟩ := l'
      obtain rfl : rule = rule' := first.eq first'
      obtain rfl : text = text' := covers.eq nonempty nonempty' covers' ht
      obtain rfl : rest = rest' := List.append_cancel_left ht
      rw [ih more']

/-! ## Turns -/

namespace Scanner

theorem turn?_eq_none {s : Scanner} : s.turn? = none ↔ s.rest = [] := by
  obtain ⟨_ | ⟨c, cs⟩, offset, place⟩ := s <;> simp [turn?]

theorem turn?_eq_some {s s' : Scanner} {l : Placed} (h : s.turn? = some (l, s')) :
    ∃ c cs, s.rest = c :: cs ∧ l = ⟨Lexeme.first c cs, s.offset, s.place⟩ ∧
      s' = ⟨Lexeme.rest c cs, l.stop, s.place.after l.lexeme.text⟩ := by
  obtain ⟨_ | ⟨c, cs⟩, offset, place⟩ := s
  · cases h
  · rw [turn?_cons] at h
    obtain ⟨rfl, rfl⟩ := Prod.mk.inj (Option.some.inj h)
    exact ⟨c, cs, rfl, rfl, rfl⟩

theorem run_of_none {s : Scanner} (h : s.turn? = none) : s.run = [] := by
  rw [run]
  split
  · rfl
  · next h' => rw [h] at h'; cases h'

theorem run_of_turn? {s s' : Scanner} {l : Placed} (h : s.turn? = some (l, s')) :
    s.run = l :: s'.run := by
  rw [run]
  split
  · next h' => rw [h] at h'; cases h'
  · next h' =>
    rw [h] at h'
    cases h'
    rfl

theorem factors_run (s : Scanner) : Factors s.rest (s.run.map (·.lexeme)) := by
  fun_induction run s with
  | case1 s h =>
    rw [turn?_eq_none.mp h]
    exact .nil
  | case2 s l s' h ih =>
    obtain ⟨c, cs, hrest, rfl, rfl⟩ := turn?_eq_some h
    have hsplit : s.rest = (Lexeme.first c cs).text ++ Lexeme.rest c cs := by
      rw [hrest, Lexeme.first_append_rest]
    rw [hsplit]
    refine .cons (by simp [Lexeme.first]) ?_ (Lexeme.covers_first c cs) ih
    rw [Lexeme.first_append_rest]
    exact Rule.isFirst_of c cs

theorem factors_start (t : Text) : Factors t ((start t).run.map (·.lexeme)) :=
  factors_run (start t)

/-! ## Places -/

/-- The scanner has read the text `before`. -/
structure HasRead (s : Scanner) (before : Text) : Prop where
  offset_eq : s.offset = Text.byteSize before
  place_eq : s.place = .endOf before

theorem hasRead_start (t : Text) : (start t).HasRead [] := ⟨rfl, rfl⟩

theorem HasRead.of_turn? {s s' : Scanner} {l : Placed} {before : Text} (h : s.HasRead before)
    (hturn : s.turn? = some (l, s')) :
    l = ⟨l.lexeme, Text.byteSize before, .endOf before⟩ ∧
      s'.HasRead (before ++ l.lexeme.text) := by
  obtain ⟨c, cs, -, rfl, rfl⟩ := turn?_eq_some hturn
  refine ⟨by rw [h.offset_eq, h.place_eq], ?_, ?_⟩
  · simp only [Placed.stop, h.offset_eq, Text.byteSize_append]
  · rw [Position.endOf_append, h.place_eq]

end Scanner

/-- Lexemes one after another, each where it stands behind the text `before`. -/
def Placed.ofLexemes (before : Text) : List Lexeme → List Placed
  | [] => []
  | l :: ls => ⟨l, Text.byteSize before, .endOf before⟩ :: ofLexemes (before ++ l.text) ls

theorem Scanner.HasRead.run_eq {s : Scanner} {before : Text} (h : s.HasRead before) :
    s.run = Placed.ofLexemes before (s.run.map (·.lexeme)) := by
  fun_induction run s generalizing before with
  | case1 s hturn => rfl
  | case2 s l s' hturn ih =>
    obtain ⟨hl, hs'⟩ := h.of_turn? hturn
    rw [List.map_cons, Placed.ofLexemes, ← ih hs', ← hl]

theorem Factors.run_start {t : Text} {ls : List Lexeme} (h : Factors t ls) :
    (Scanner.start t).run = Placed.ofLexemes [] ls := by
  rw [(Scanner.hasRead_start t).run_eq, h.eq (Scanner.factors_start t)]

/-! ## Lexemes in their text -/

namespace Placed

/-- A lexeme stands in a text where it says. -/
def IsIn (p : Placed) (t : Text) : Prop :=
  ∃ before behind, t = before ++ p.lexeme.text ++ behind ∧ p.offset = Text.byteSize before ∧
    p.start = .endOf before

theorem le_offset {before : Text} {ls : List Lexeme} {p : Placed} (h : p ∈ ofLexemes before ls) :
    Text.byteSize before ≤ p.offset := by
  induction ls generalizing before with
  | nil => cases h
  | cons l ls ih =>
    rcases List.mem_cons.mp h with rfl | h
    · exact Nat.le_refl _
    · have hle := ih h
      rw [Text.byteSize_append] at hle
      omega

theorem pairwise_ofLexemes (before : Text) (ls : List Lexeme) :
    (ofLexemes before ls).Pairwise fun p q => p.stop ≤ q.offset := by
  induction ls generalizing before with
  | nil => exact .nil
  | cons l ls ih =>
    refine List.pairwise_cons.mpr ⟨?_, ih _⟩
    intro q hq
    have hle := le_offset hq
    rwa [Text.byteSize_append] at hle

end Placed

namespace Factors

theorem nonempty {t : Text} {ls : List Lexeme} (h : Factors t ls) : ∀ l ∈ ls, l.text ≠ [] := by
  induction h with
  | nil => simp
  | cons nonempty _ _ _ ih => exact List.forall_mem_cons.mpr ⟨nonempty, ih⟩

theorem isIn {t : Text} {ls : List Lexeme} (h : Factors t ls) {before : Text} {p : Placed}
    (hp : p ∈ Placed.ofLexemes before ls) : p.IsIn (before ++ t) := by
  induction h generalizing before with
  | nil => cases hp
  | @cons l rest ls nonempty first covers more ih =>
    rcases List.mem_cons.mp hp with rfl | hp
    · exact ⟨before, rest, (List.append_assoc ..).symm, rfl, rfl⟩
    · have hin := ih hp
      rwa [List.append_assoc] at hin

theorem exists_lexeme {t : Text} {ls : List Lexeme} (h : Factors t ls) {a b : Text} {c : Char}
    (ht : t = a ++ c :: b) (before : Text) :
    ∃ p ∈ Placed.ofLexemes before ls, ∃ x y rest, p.lexeme.text = x ++ c :: y ∧ b = y ++ rest ∧
      p.offset + Text.byteSize x = Text.byteSize (before ++ a) ∧
      p.lexeme.rule.IsFirst (p.lexeme.text ++ rest) ∧
      p.lexeme.rule.Covers p.lexeme.text rest := by
  induction h generalizing a before with
  | nil => exact absurd ht (by simp)
  | @cons l rest ls nonempty first covers more ih =>
    have hsplit : (∃ a', a = l.text ++ a' ∧ rest = a' ++ c :: b) ∨
        ∃ y, l.text = a ++ c :: y ∧ b = y ++ rest := by
      rcases List.append_eq_append_iff.mp ht with ⟨a', ha, hrest⟩ | ⟨_ | ⟨d, y⟩, hl, hb⟩
      · exact .inl ⟨a', ha, hrest⟩
      · exact .inl ⟨[], by rw [hl, List.append_nil, List.append_nil], hb.symm⟩
      · obtain ⟨rfl, hrest⟩ := List.cons.inj hb
        exact .inr ⟨y, hl, hrest⟩
    rcases hsplit with ⟨a', rfl, hrest⟩ | ⟨y, hl, hb⟩
    · obtain ⟨p, hp, x, y, rest', hx, hb, hoffset, hspec⟩ := ih hrest (before ++ l.text)
      refine ⟨p, List.mem_cons_of_mem _ hp, x, y, rest', hx, hb, ?_, hspec⟩
      rw [hoffset, List.append_assoc]
    · refine ⟨_, List.mem_cons_self, a, y, rest, hl, hb, ?_, first, covers⟩
      rw [Text.byteSize_append]

end Factors

end LanguageServer
