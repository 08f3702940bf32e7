import LanguageServer.Diagnostic
import LanguageServer.Proofs.Document.Breaks
import LanguageServer.Proofs.Text.Bytes

/-! # The report on braces

The bytes of a text hold as many braces as its characters (`BraceCount.ofText_eq_count`). What is
reported of a text that does not balance covers all of it for the store of documents, although the
two end lines differently (`offsetAt_documentEnd_self`). -/

namespace LanguageServer

open Text

/-- What is said of the braces of a text. -/
structure Text.BracesReported (t : Text) : Prop where
  counted : BraceCount.ofText t = ⟨t.count '{', t.count '}'⟩
  summed : ∀ a b, t = a ++ b →
    BraceCount.ofText t = BraceCount.ofText a + BraceCount.ofText b
  silent : braceDiagnostics t = [] ↔ t.count '{' = t.count '}'
  covering : t.count '{' ≠ t.count '}' → ∃ d, braceDiagnostics t = [d] ∧
    t.offsetAt d.range.start = 0 ∧ t.offsetAt d.range.stop = t.byteSize ∧
    d.message = "Unmatched braces: " ++ toString (t.count '{') ++ " opening, " ++
      toString (t.count '}') ++ " closing"

namespace BraceCount

theorem ofText_eq_count (t : Text) : ofText t = ⟨t.count '{', t.count '}'⟩ := by
  rw [ofText, foldl_next, count_bytes (by decide), count_bytes (by decide), add_def, Nat.zero_add,
    Nat.zero_add]

theorem isBalanced_iff (n : BraceCount) : n.isBalanced = true ↔ n.opening = n.closing := by
  rw [isBalanced, beq_iff_eq]

end BraceCount

theorem offsetAt_origin (t : Text) : t.offsetAt .origin = 0 := offsetFrom_zero t

theorem offsetAt_documentEnd_self {t : Text} (h : t.width ≤ unitLimit) :
    t.offsetAt (documentEnd t) = byteSize t := by
  have hend := offsetAt_documentEnd_iff t []
  rw [List.append_nil] at hend
  rw [hend]
  -- With a bare carriage return the end is below every line of the store. Without one both count
  -- the same lines.
  by_cases hbare : t.HasBareReturn
  · exact .inl ⟨hbare, rfl⟩
  · exact .inr ⟨hbare, Nat.le_trans (width_lastLine_le t) h⟩

theorem braceDiagnostics_eq (t : Text) :
    braceDiagnostics t =
      if t.count '{' = t.count '}' then []
      else [⟨⟨.origin, documentEnd t⟩, BraceCount.message ⟨t.count '{', t.count '}'⟩⟩] := by
  simp only [braceDiagnostics, BraceCount.ofText_eq_count, BraceCount.isBalanced_iff]

/-- A text whose braces balance is not reported. Any other is reported once, with its counts, and
from its first byte to its last. -/
theorem bracesReported_of_width_le (t : Text) (h : t.width ≤ unitLimit) : t.BracesReported := by
  constructor
  case counted => exact BraceCount.ofText_eq_count t
  case summed =>
    rintro a b rfl
    exact BraceCount.ofText_append a b
  case silent =>
    rw [braceDiagnostics_eq]
    constructor
    · intro hsilent
      by_contra hne
      rw [if_neg hne] at hsilent
      cases hsilent
    · exact fun heq => if_pos heq
  case covering =>
    intro hne
    rw [braceDiagnostics_eq, if_neg hne]
    exact ⟨_, rfl, offsetAt_origin t, offsetAt_documentEnd_self h, rfl⟩

theorem bracesReported_of_width_le_breaks :
    Text.width ['{', '\r', '😀', '\r', '\n', '}', '\n', '}'] ≤ unitLimit ∧
    ∃ d, braceDiagnostics ['{', '\r', '😀', '\r', '\n', '}', '\n', '}'] = [d] ∧
      Text.offsetAt ['{', '\r', '😀', '\r', '\n', '}', '\n', '}'] d.range.start = 0 ∧
      Text.offsetAt ['{', '\r', '😀', '\r', '\n', '}', '\n', '}'] d.range.stop = 11 ∧
      d.message = "Unmatched braces: 1 opening, 2 closing" := by
  have hwidth : Text.width ['{', '\r', '😀', '\r', '\n', '}', '\n', '}'] ≤ unitLimit := by decide
  exact ⟨hwidth, (bracesReported_of_width_le _ hwidth).covering (by decide)⟩

end LanguageServer
