import LanguageServer.Proofs.Completion.Listed
import LanguageServer.Proofs.Token.Span

/-! # Highlighted and described words

A word is one token, and without a capital its kind is the set that describes it: highlighting and
completion ask the same sets in the same order (`scan_word_described`). -/

namespace LanguageServer

/-- A text is one word. -/
structure Text.IsWord (w : Text) : Prop where
  starts : ∃ c, w.head? = some c ∧ Lexeme.startsWord c = true
  continues : ∀ c ∈ w, Lexeme.continuesWord c = true

def WordRole.tokenKind : WordRole → TokenKind
  | keyword => .keyword
  | type => .typeName
  | builtinFunction => .functionName

namespace Vocabulary

/-- Every item with a word as its data gets the description of a set. -/
def Describes (v : Vocabulary) (w : String) (role : WordRole) : Prop :=
  ∀ i : CompletionItem, i.data = some (.str w) → i.resolve v = i.describe role w

/-- Every item with a word as its data keeps what it has as a description. -/
def LeavesAlone (v : Vocabulary) (w : String) : Prop :=
  ∀ i : CompletionItem, i.data = some (.str w) →
    (i.resolve v).detail = i.detail ∧ (i.resolve v).documentation = i.documentation

/-- A word of a kind is described as that kind says. -/
structure DescribesAs (v : Vocabulary) (w : String) (kind : TokenKind) : Prop where
  described : ∀ role : WordRole, kind = role.tokenKind ↔ v.Describes w role
  alone : kind = .variableName ↔ v.LeavesAlone w
  /-- One item that has no description yet is enough to tell. -/
  fresh : ∀ (i : CompletionItem) (role : WordRole), i.data = some (.str w) → i.detail = none →
    (kind = role.tokenKind ↔ i.resolve v = i.describe role w)

end Vocabulary

/-! ## The scan of a word -/

theorem Text.width_eq_length {t : Text} (h : ∀ c ∈ t, charWidth c = 1) : t.width = t.length := by
  induction t with
  | nil => rfl
  | cons c cs ih =>
    obtain ⟨hc, hcs⟩ := List.forall_mem_cons.mp h
    rw [width_cons, ih hcs, hc, List.length_cons, Nat.add_comm]

theorem Rule.of_eq_word {c : Char} (h : Lexeme.startsWord c = true) (cs : Text) :
    Rule.of c cs = .word := by
  have hslash : c ≠ '/' := by rintro rfl; cases h
  have hquote : c ≠ '"' := by rintro rfl; cases h
  have hopener : ∀ mark, ¬ ['/', mark].isPrefixOf (c :: cs) = true := by
    intro mark hopener
    obtain ⟨hc, -⟩ := List.cons_prefix_cons.mp (List.isPrefixOf_iff_prefix.mp hopener)
    exact hslash hc.symm
  have hline : ¬ Lexeme.lineOpener.isPrefixOf (c :: cs) = true := hopener '*'
  have hblock : ¬ Lexeme.blockOpener.isPrefixOf (c :: cs) = true := hopener '!'
  unfold Rule.of
  rw [if_neg (Lexeme.not_isBlank_of_startsWord h), if_neg hline, if_neg hblock, if_neg hquote,
    if_neg (Lexeme.not_isDigit_of_startsWord h), if_pos h]

theorem Text.IsWord.factors {w : Text} (h : w.IsWord) : Factors w [⟨.word, w⟩] := by
  obtain ⟨c, hhead, hstart⟩ := h.starts
  obtain ⟨cs, rfl⟩ := List.head?_eq_some_iff.mp hhead
  have hfirst : Rule.IsFirst .word (c :: cs ++ []) := by
    rw [List.append_nil, ← Rule.of_eq_word hstart cs]
    exact Rule.isFirst_of c cs
  have hcovers : Rule.Covers .word (c :: cs) [] := ⟨h.continues, by simp⟩
  have hfactors := Factors.cons (l := ⟨.word, c :: cs⟩) (List.cons_ne_nil c cs) hfirst hcovers .nil
  rw [List.append_nil] at hfactors
  exact hfactors

theorem scan_of_isWord (v : Vocabulary) {w : Text} (h : w.IsWord) (hlength : w.length < 4294967296) :
    scan v w = [⟨.origin, w.length, v.wordKind (String.ofList w)⟩] := by
  have hwidth : w.width = w.length := Text.width_eq_length fun c hc =>
    Lexeme.charWidth_of_continuesWord (h.continues c hc)
  have hlimit : w.length ≤ unitLimit := Nat.le_of_lt_succ hlength
  have hbounded : w.boundedWidth = w.length := by
    rw [Text.boundedWidth_eq, hwidth, Nat.min_eq_left hlimit]
  rw [scan, h.factors.run_start, Placed.ofLexemes, Placed.ofLexemes, ← hbounded]
  rfl

/-! ## The kind of a word -/

variable {v : Vocabulary} {w : String} {role role' : WordRole}

namespace WordRole

theorem tokenKind_inj (h : role.tokenKind = role'.tokenKind) : role = role' := by
  cases role <;> cases role' <;> first | rfl | cases h

theorem tokenKind_ne_variableName (role : WordRole) : role.tokenKind ≠ .variableName := by
  cases role <;> nofun

end WordRole

namespace Vocabulary

theorem wordKind_eq_getD (hlow : w.toList.head?.any Char.isUpper = false) :
    v.wordKind w = ((WordRole.of? v w).map WordRole.tokenKind).getD .variableName := by
  unfold wordKind WordRole.of?
  rw [hlow, Bool.or_false]
  split_ifs <;> rfl

theorem wordKind_eq_tokenKind_iff (hlow : w.toList.head?.any Char.isUpper = false) :
    v.wordKind w = role.tokenKind ↔ role.IsFirst v w := by
  rw [wordKind_eq_getD hlow, ← WordRole.of?_eq_some_iff]
  cases WordRole.of? v w with
  | none => exact iff_of_false role.tokenKind_ne_variableName.symm nofun
  | some first =>
    rw [Option.some.injEq]
    exact ⟨WordRole.tokenKind_inj, congrArg WordRole.tokenKind⟩

theorem wordKind_eq_variableName_iff (hlow : w.toList.head?.any Char.isUpper = false) :
    v.wordKind w = .variableName ↔ ∀ role : WordRole, w ∉ (role.words v).toList := by
  rw [wordKind_eq_getD hlow, ← WordRole.of?_eq_none_iff]
  cases WordRole.of? v w with
  | none => exact iff_of_true rfl rfl
  | some first => exact iff_of_false first.tokenKind_ne_variableName nofun

/-! ## The description of a word -/

def bareItem (w : String) : CompletionItem := { label := w, data := some (.str w) }

theorem describes_iff : v.Describes w role ↔ role.IsFirst v w := by
  constructor
  · intro h
    exact (CompletionItem.resolve_eq_describe_iff rfl rfl).mp (h (bareItem w) rfl)
  · intro h i hdata
    exact CompletionItem.resolve_of_isFirst hdata h

theorem leavesAlone_iff : v.LeavesAlone w ↔ ∀ role : WordRole, w ∉ (role.words v).toList := by
  constructor
  · intro h role hrole
    obtain ⟨first, hfirst, -⟩ := WordRole.exists_isFirst hrole
    have hdetail := (h (bareItem w) rfl).1
    rw [CompletionItem.resolve_of_isFirst rfl hfirst] at hdetail
    cases hdetail
  · intro h i hdata
    rw [CompletionItem.resolve_of_forall_not_mem hdata h]
    exact ⟨rfl, rfl⟩

end Vocabulary

/-- A word without a capital is one token, and its kind is the set that describes the word in
completion. -/
theorem scan_word_described (v : Vocabulary) (w : Text) (hword : w.IsWord)
    (hlow : w.head?.any Char.isUpper = false) (hlength : w.length < 4294967296) :
    ∃ kind, scan v w = [⟨.origin, w.length, kind⟩] ∧ v.DescribesAs (String.ofList w) kind := by
  have hlow' : (String.ofList w).toList.head?.any Char.isUpper = false := by
    rw [String.toList_ofList]
    exact hlow
  refine ⟨_, scan_of_isWord v hword hlength, ?_⟩
  constructor
  case described =>
    intro role
    rw [Vocabulary.wordKind_eq_tokenKind_iff hlow', Vocabulary.describes_iff]
  case alone => rw [Vocabulary.wordKind_eq_variableName_iff hlow', Vocabulary.leavesAlone_iff]
  case fresh =>
    intro i role hdata hdetail
    rw [Vocabulary.wordKind_eq_tokenKind_iff hlow',
      CompletionItem.resolve_eq_describe_iff hdata hdetail]

theorem scan_word_described_overlapping :
    Text.IsWord ['c', 'l', 'a', 's', 's'] ∧
      ∃ kind, scan CompletionItem.overlapping ['c', 'l', 'a', 's', 's'] = [⟨.origin, 5, kind⟩] ∧
        CompletionItem.overlapping.DescribesAs "class" kind := by
  have hword : Text.IsWord ['c', 'l', 'a', 's', 's'] :=
    ⟨⟨'c', rfl, rfl⟩, List.all_eq_true.mp rfl⟩
  exact ⟨hword, scan_word_described _ _ hword rfl (by decide)⟩

end LanguageServer
