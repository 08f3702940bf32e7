import LanguageServer.Proofs.Scanner.Stop
import LanguageServer.Proofs.Token.Restart

/-! # Scanning without a fault

Wherever a scanner stands, a cursor at the same place takes the same turn (`Reaches.turn?_cursor`)
and finds the same next token (`Reaches.next_cursor`). So no check of a cursor fails, although it
searches byte by byte, and it gets to the places of the scanner and to no others
(`standsIn_of_reaches`). -/

namespace LanguageServer

open Text

/-- The place of a scanner in its text. -/
def Scanner.cursor (s : Scanner) : Cursor := ⟨s.offset, s.place⟩

/-- By some turns and calls of `next` the one cursor becomes the other. -/
def Cursor.Reaches (v : Vocabulary) (t : Text) : Cursor → Cursor → Prop :=
  Relation.ReflTransGen fun k k' =>
    (∃ l, k.turn? t = .ok (some (l, k'))) ∨ ∃ token, k.next v t = .ok (token, k')

/-- What is true of a scanner of the text `t` wherever it stands. -/
structure Scanner.StandsIn (v : Vocabulary) (t : Text) (s : Scanner) : Prop where
  boundary : t.IsBoundary s.offset
  inside : s.offset ≤ t.byteSize
  place_eq : s.place = .endOf (t.slice 0 s.offset)
  line_le : s.place.line ≤ unitLimit
  turn_inPlace : s.cursor.turn? t = .ok (s.turn?.map fun r => (r.1, r.2.cursor))
  turns_inPlace : ∀ count, s.cursor.turns t count = .ok (s.run.take count)
  next_inPlace : s.cursor.next v t = .ok ((s.next v).1, (s.next v).2.cursor)
  next_reached : (start t).Reaches (s.next v).2
  steps_inPlace : ∀ count, s.cursor.steps v t count = .ok (s.steps v count)
  forward : s.offset < t.byteSize → ∃ l s', s.turn? = some (l, s') ∧
    s.offset < s'.offset ∧ t.IsBoundary s'.offset ∧ l.offset = s.offset ∧ l.stop = s'.offset ∧
      t.sliceChecked s.offset s'.offset = .ok l.lexeme.text
  ended : (s.next v).1 = none →
    ∀ count, (s.next v).2.steps v count = List.replicate count none

/-! ## Positions -/

namespace Position

theorem stepChecked_eq {p : Position} {c : Char} (h : p.line + [c].count '\n' ≤ unitLimit) :
    p.stepChecked c = .ok (p.step c) := by
  have hline : ¬ (c = '\n' ∧ unitLimit ≤ p.line) := by
    rintro ⟨rfl, hle⟩
    rw [List.count_singleton_self] at h
    omega
  exact if_neg hline

theorem foldlM_stepChecked {p : Position} {t : Text} (h : p.line + t.count '\n' ≤ unitLimit) :
    t.foldlM stepChecked p = .ok (p.walk t) := by
  induction t generalizing p with
  | nil => rfl
  | cons c cs ih =>
    have hline : (p.step c).line = p.line + [c].count '\n' := line_walk p [c]
    rw [← List.singleton_append, List.count_append] at h
    rw [List.foldlM_cons, stepChecked_eq (by omega), ScanFault.ok_bind, ih (by omega), walk_cons]

theorem advanceChecked_append {p : Position} {b : Text} (h : p.line + b.count '\n' ≤ unitLimit)
    (a c : Text) :
    p.advanceChecked (a ++ b ++ c) (byteSize a) (byteSize a + byteSize b) = .ok (p.after b) := by
  unfold advanceChecked after
  rw [sliceChecked_append, ScanFault.ok_bind]
  by_cases hfeed : '\n' ∈ b
  · rw [if_neg (mt (isNone_findBytes?_feed b).mp (not_not.mpr hfeed)), if_pos hfeed,
      foldlM_stepChecked h]
  · rw [if_pos ((isNone_findBytes?_feed b).mpr hfeed), if_neg hfeed]
    rfl

end Position

/-! ## Turns -/

namespace Cursor

theorem lexeme_append {p : Position} {part : Text} (hpart : part ≠ [])
    (h : p.line + part.count '\n' ≤ unitLimit) (before rest : Text) (rule : Rule) :
    lexeme (before ++ part ++ rest) ⟨byteSize before, p⟩ rule (byteSize before + byteSize part) =
      .ok (⟨⟨rule, part⟩, byteSize before, p⟩,
        ⟨byteSize before + byteSize part, p.after part⟩) := by
  have hpos := byteSize_pos hpart
  unfold lexeme
  simp only
  rw [if_neg (by omega), sliceChecked_append, ScanFault.ok_bind, Position.advanceChecked_append h,
    ScanFault.ok_bind]
  rfl

theorem read_append {p : Position} {before : Text} {c : Char} {cs : Text}
    (h : p.line + (c :: cs).count '\n' ≤ unitLimit) :
    read (before ++ c :: cs) ⟨byteSize before, p⟩ c =
      .ok (⟨Lexeme.first c cs, byteSize before, p⟩,
        ⟨byteSize before + byteSize (Lexeme.first c cs).text,
          p.after (Lexeme.first c cs).text⟩) := by
  have htext : p.line + (Lexeme.first c cs).text.count '\n' ≤ unitLimit := by
    rw [← Lexeme.first_append_rest c cs, List.count_append] at h
    omega
  unfold read
  simp only
  rw [bytesChecked_append, ScanFault.ok_bind, Rule.ofBytes_eq]
  split
  · next hblank =>
    have hfirst : Lexeme.first c cs = ⟨.blank, [c]⟩ := by
      rw [Lexeme.first, hblank]
      rfl
    rw [hfirst] at htext ⊢
    rw [skip, Position.stepChecked_eq htext, ScanFault.ok_bind, Position.after_singleton]
    rfl
  · have hsplit : before ++ c :: cs = before ++ (Lexeme.first c cs).text ++ Lexeme.rest c cs := by
      rw [List.append_assoc, Lexeme.first_append_rest]
    rw [Rule.stopInBytes_eq (Rule.isFirst_of c cs).applies, ScanFault.ok_bind, hsplit]
    exact lexeme_append (List.cons_ne_nil _ _) htext before _ _

theorem next_of_none {v : Vocabulary} {t : Text} {k : Cursor} (h : k.turn? t = .ok none) :
    k.next v t = .ok (none, k) := by
  rw [next]
  split
  · next h' => rw [h] at h'; cases h'
  · rfl
  · next h' => rw [h] at h'; cases h'

theorem next_of_turn? {v : Vocabulary} {t : Text} {k k' : Cursor} {l : Placed}
    (h : k.turn? t = .ok (some (l, k'))) :
    k.next v t =
      match l.token? v with
      | some token => .ok (some token, k')
      | none => k'.next v t := by
  rw [next]
  split
  · next h' => rw [h] at h'; cases h'
  · next h' => rw [h] at h'; cases h'
  · next h' =>
    rw [h] at h'
    cases h'
    rfl

end Cursor

namespace Scanner

variable {v : Vocabulary} {t : Text} {s : Scanner}

theorem HasRead.turn?_cursor {before : Text} (h : s.HasRead before)
    (hlines : (before ++ s.rest).count '\n' ≤ unitLimit) :
    s.cursor.turn? (before ++ s.rest) = .ok (s.turn?.map fun r => (r.1, r.2.cursor)) := by
  obtain ⟨rest, offset, place⟩ := s
  obtain ⟨rfl, rfl⟩ := h
  rw [List.count_append, ← Position.line_endOf] at hlines
  unfold Cursor.turn?
  simp only [cursor]
  rw [sliceChecked_rest, ScanFault.ok_bind]
  cases rest with
  | nil => rfl
  | cons c cs =>
    simp only
    rw [Cursor.read_append hlines, turn?_cons]
    rfl

theorem Reaches.turn?_cursor (h : (start t).Reaches s) (hlines : t.count '\n' ≤ unitLimit) :
    s.cursor.turn? t = .ok (s.turn?.map fun r => (r.1, r.2.cursor)) := by
  obtain ⟨before, ht, hread⟩ := h.hasRead
  rw [ht] at hlines ⊢
  exact hread.turn?_cursor hlines

theorem Reaches.turns_cursor (h : (start t).Reaches s) (hlines : t.count '\n' ≤ unitLimit)
    (count : Nat) : s.cursor.turns t count = .ok (s.run.take count) := by
  induction count generalizing s with
  | zero => rfl
  | succ count ih =>
    rw [Cursor.turns, h.turn?_cursor hlines, ScanFault.ok_bind]
    cases hturn : s.turn? with
    | none =>
      rw [run_of_none hturn]
      rfl
    | some r =>
      simp only [Option.map_some]
      rw [ih (h.tail ⟨r.1, hturn⟩), run_of_turn? hturn]
      rfl

theorem Reaches.next_cursor (h : (start t).Reaches s) (hlines : t.count '\n' ≤ unitLimit) :
    s.cursor.next v t = .ok ((s.next v).1, (s.next v).2.cursor) := by
  fun_induction next v s with
  | case1 s hturn =>
    have hcursor := h.turn?_cursor hlines
    rw [hturn] at hcursor
    exact Cursor.next_of_none hcursor
  | case2 s l s' hturn token htoken =>
    have hcursor := h.turn?_cursor hlines
    rw [hturn] at hcursor
    rw [Cursor.next_of_turn? hcursor, htoken]
  | case3 s l s' hturn htoken ih =>
    have hcursor := h.turn?_cursor hlines
    rw [hturn] at hcursor
    rw [Cursor.next_of_turn? hcursor, htoken]
    exact ih (h.tail ⟨l, hturn⟩)

theorem reaches_next (v : Vocabulary) (s : Scanner) : s.Reaches (s.next v).2 := by
  fun_induction next v s with
  | case1 s hturn => exact .refl
  | case2 s l s' hturn => exact .single ⟨l, hturn⟩
  | case3 s l s' hturn _ ih => exact .head ⟨l, hturn⟩ ih

theorem Reaches.steps_cursor (h : (start t).Reaches s) (v : Vocabulary)
    (hlines : t.count '\n' ≤ unitLimit) (count : Nat) :
    s.cursor.steps v t count = .ok (s.steps v count) := by
  induction count generalizing s with
  | zero => rfl
  | succ count ih =>
    rw [Cursor.steps, h.next_cursor hlines, ScanFault.ok_bind]
    simp only
    rw [ih (h.trans (reaches_next v s)), ScanFault.ok_bind, steps_succ]
    rfl

/-! ## Places -/

theorem Reaches.reaches_cursor (h : (start t).Reaches s) (v : Vocabulary)
    (hlines : t.count '\n' ≤ unitLimit) : Cursor.start.Reaches v t s.cursor := by
  induction h with
  | refl => exact .refl
  | @tail s s' hreaches hturn ih =>
    obtain ⟨l, hturn⟩ := hturn
    have hcursor := Reaches.turn?_cursor hreaches hlines
    rw [hturn] at hcursor
    exact ih.tail (.inl ⟨l, hcursor⟩)

theorem exists_reaches_of_reaches_cursor {k : Cursor} (h : Cursor.start.Reaches v t k)
    (hlines : t.count '\n' ≤ unitLimit) : ∃ s, (start t).Reaches s ∧ s.cursor = k := by
  induction h with
  | refl => exact ⟨start t, .refl, rfl⟩
  | tail _ hmove ih =>
    obtain ⟨s, hreaches, rfl⟩ := ih
    rcases hmove with ⟨l, hturn⟩ | ⟨token, hnext⟩
    · rw [hreaches.turn?_cursor hlines] at hturn
      obtain ⟨⟨l', s'⟩, hs, heq⟩ := Option.map_eq_some_iff.mp (Except.ok.inj hturn)
      obtain ⟨rfl, rfl⟩ := Prod.mk.inj heq
      exact ⟨s', hreaches.tail ⟨_, hs⟩, rfl⟩
    · rw [hreaches.next_cursor hlines] at hnext
      obtain ⟨-, rfl⟩ := Prod.mk.inj (Except.ok.inj hnext)
      exact ⟨_, hreaches.trans (reaches_next v s), rfl⟩

theorem length_run_le (s : Scanner) : s.run.length ≤ s.rest.length := by
  induction s using run.induct with
  | case1 s h =>
    rw [run_of_none h]
    exact Nat.zero_le _
  | case2 s l s' h ih =>
    have hlt := length_turn? h
    rw [run_of_turn? h, List.length_cons]
    omega

theorem steps_of_ended (h : (s.next v).1 = none) (count : Nat) :
    (s.next v).2.steps v count = List.replicate count none := by
  obtain ⟨hfirst, hrest⟩ := s.tokens_next v
  have htokens : s.tokens v = [] := List.head?_eq_none_iff.mp (hfirst.symm.trans h)
  rw [steps_eq_getElem?, hrest, htokens]
  simp

theorem Reaches.forward (h : (start t).Reaches s) (hlt : s.offset < t.byteSize) :
    ∃ l s', s.turn? = some (l, s') ∧ s.offset < s'.offset ∧ t.IsBoundary s'.offset ∧
      l.offset = s.offset ∧ l.stop = s'.offset ∧
        t.sliceChecked s.offset s'.offset = .ok l.lexeme.text := by
  obtain ⟨before, ht, hread⟩ := h.hasRead
  have hturn : s.turn? ≠ none := by
    intro hnone
    rw [ht, turn?_eq_none.mp hnone, List.append_nil, hread.offset_eq] at hlt
    exact Nat.lt_irrefl _ hlt
  obtain ⟨⟨l, s'⟩, hturn⟩ := Option.ne_none_iff_exists'.mp hturn
  obtain ⟨hoffset, hon⟩ := offset_lt_of_turn? hturn
  obtain ⟨c, cs, hrest, rfl, rfl⟩ := turn?_eq_some hturn
  have hin : Placed.IsIn ⟨Lexeme.first c cs, s.offset, s.place⟩ t := by
    refine ⟨before, Lexeme.rest c cs, ?_, hread.offset_eq, hread.place_eq⟩
    rw [ht, hrest, List.append_assoc, Lexeme.first_append_rest]
  refine ⟨_, _, hturn, hon, hin.isBoundary.2, rfl, rfl, ?_⟩
  rw [← hin.slice_eq]
  exact if_pos ⟨Nat.le_of_lt hon, hin.isBoundary⟩

theorem Reaches.standsIn (h : (start t).Reaches s) (v : Vocabulary)
    (hlines : t.count '\n' ≤ unitLimit) : StandsIn v t s := by
  obtain ⟨before, ht, hread⟩ := h.hasRead
  have hboundary : t.IsBoundary s.offset := by
    rw [hread.offset_eq, ht]
    exact isBoundary_append before s.rest
  constructor
  case boundary => exact hboundary
  case inside => exact hboundary.le_byteSize
  case place_eq =>
    have hslice : t.slice 0 s.offset = before := by
      have hslice := slice_append [] before s.rest
      rwa [List.nil_append, ← ht, byteSize_nil, Nat.zero_add, ← hread.offset_eq] at hslice
    rw [hslice, hread.place_eq]
  case line_le =>
    rw [ht, List.count_append] at hlines
    rw [hread.place_eq, Position.line_endOf]
    omega
  case turn_inPlace => exact h.turn?_cursor hlines
  case turns_inPlace => exact h.turns_cursor hlines
  case next_inPlace => exact h.next_cursor hlines
  case next_reached => exact h.trans (reaches_next v s)
  case steps_inPlace => exact h.steps_cursor v hlines
  case forward => exact h.forward
  case ended => exact steps_of_ended

end Scanner

/-- In a text of fewer than 2^32 line feeds a scanner always stands between two characters, at the
position of the text in front of it. While there is text left it goes on by whole characters, so
after at most as many turns as there are characters it is at the end, and stays there. A cursor that
searches the bytes gets to the same places, and no check of it fails. -/
theorem Scanner.standsIn_of_reaches (v : Vocabulary) {t : Text} (h : t.count '\n' ≤ unitLimit) :
    (∀ s, (start t).Reaches s → StandsIn v t s) ∧
      (∀ k, Cursor.start.Reaches v t k ↔ ∃ s, (start t).Reaches s ∧ s.cursor = k) ∧
      (start t).run.length ≤ t.length := by
  refine ⟨fun s hreaches => hreaches.standsIn v h, ?_, length_run_le (start t)⟩
  intro k
  constructor
  · intro hreaches
    exact exists_reaches_of_reaches_cursor hreaches h
  · rintro ⟨s, hreaches, rfl⟩
    exact hreaches.reaches_cursor v h

/-- A string over two lines with a quote behind a backslash, and a comment without its end. -/
def Text.openComment : Text := ['"', 'é', '\\', '"', '\n', '"', '/', '!', '中']

def Scanner.behindQuote : Scanner := ⟨['/', '!', '中'], 7, ⟨1, 1, by decide⟩⟩

theorem Scanner.standsIn_of_reaches_behindQuote :
    (openComment.count '\n' ≤ unitLimit ∧ (start openComment).Reaches behindQuote) ∧
      StandsIn .standard openComment behindQuote ∧
      Cursor.start.Reaches .standard openComment behindQuote.cursor ∧
      (start openComment).run.length ≤ 9 := by
  have hlines : openComment.count '\n' ≤ unitLimit := by decide
  have hreaches : (start openComment).Reaches behindQuote := .single ⟨_, rfl⟩
  obtain ⟨hstands, hcursor, hrun⟩ := standsIn_of_reaches .standard hlines
  exact ⟨⟨hlines, hreaches⟩, hstands _ hreaches, (hcursor _).mpr ⟨_, hreaches, rfl⟩, hrun⟩

end LanguageServer
