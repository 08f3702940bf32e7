import LanguageServer.Proofs.Token.Order
import LanguageServer.Token.Delta

/-! # Tokens as words

Tokens in the order of the text are made relative without a negative difference
(`encodeListChecked?_eq`), and their words are read back (`decodeFrom?_encodeList`). For the tokens
of a text it makes no difference if they are listed first or encoded as they are scanned
(`encodeScan_eq`), so all ways to the words of a text agree (`tokenWords_scan`). -/

namespace LanguageServer

/-- `m - n`, unless that is negative. -/
def minus? (m n : Nat) : Option Nat := if n ≤ m then some (m - n) else none

namespace Encoder

/-- `encode`, with differences that may not be negative. -/
def encodeChecked? (e : Encoder) (k : Token) : Option (Delta × Encoder) := do
  let line ← minus? k.start.line e.previous.line
  let column ←
    if line = 0 then minus? k.start.column e.previous.column else some k.start.column
  return (⟨line, column, k.length, k.kind, 0⟩, ⟨k.start⟩)

/-- `encodeList`, with differences that may not be negative. -/
def encodeListChecked? (e : Encoder) : List Token → Option (List Delta × Encoder)
  | [] => some ([], e)
  | k :: ks => do
    let (d, e) ← e.encodeChecked? k
    let (ds, e) ← e.encodeListChecked? ks
    return (d :: ds, e)

end Encoder

/-- The tokens of a text, and the words that stand for them. -/
structure TokenWords (v : Vocabulary) (t : Text) (words : List Nat) : Prop where
  ordered : (scan v t).Pairwise fun k k' => k.start ≤ k'.start
  nonempty : ∀ k ∈ scan v t, 1 ≤ k.length
  checked : Encoder.start.encodeListChecked? (scan v t) =
    some (Encoder.start.encodeList (scan v t))
  listed : flatten (encode (scan v t)) = words
  streamed : flatten (encodeDocument v t) = words
  answered : (semanticTokens v (some t)).words = words
  size : words.length = Delta.wordCount * (scan v t).length
  decoded : decode? words = some (scan v t)

/-! ## One token -/

theorem minus?_of_le {m n : Nat} (h : n ≤ m) : minus? m n = some (m - n) := if_pos h

theorem Position.at?_self {p : Position} (h : p.line ≤ unitLimit) :
    Position.at? p.line p.column = some p := dif_pos ⟨h, p.column_le⟩

namespace Encoder

variable {e : Encoder} {k : Token}

theorem encodeChecked?_eq (h : e.previous ≤ k.start) : e.encodeChecked? k = some (e.encode k) := by
  have hline : e.previous.line ≤ k.start.line := by
    rcases h with hlt | ⟨heq, -⟩ <;> omega
  unfold encodeChecked? encode
  rw [minus?_of_le hline]
  simp only [Option.bind_eq_bind, Option.bind_some]
  split
  · next hsame =>
    -- Only in one line are the columns compared, and there the order is that of the columns.
    have hcolumn : e.previous.column ≤ k.start.column := by
      rcases h with hlt | ⟨-, hle⟩ <;> omega
    rw [minus?_of_le hcolumn]
    rfl
  · rfl

theorem shift?_encode (h : e.previous ≤ k.start) (hline : k.start.line ≤ unitLimit) :
    e.previous.shift? (e.encode k).1.line (e.encode k).1.column = some k.start := by
  unfold Position.shift? encode
  simp only
  rcases h with hlt | ⟨heq, hle⟩
  · have hdown : k.start.line - e.previous.line ≠ 0 := by omega
    have hsum : e.previous.line + (k.start.line - e.previous.line) = k.start.line := by omega
    rw [if_neg hdown, if_neg hdown, hsum, Position.at?_self hline]
  · have hsame : k.start.line - e.previous.line = 0 := by omega
    have hsum : e.previous.column + (k.start.column - e.previous.column) = k.start.column := by
      omega
    rw [if_pos hsame, if_pos hsame, hsum, heq, Position.at?_self hline]

theorem decodeFrom?_encode (h : e.previous ≤ k.start) (hline : k.start.line ≤ unitLimit)
    (words : List Nat) :
    decodeFrom? e.previous ((e.encode k).1.words ++ words) =
      (decodeFrom? k.start words).map (k :: ·) := by
  have hshift := shift?_encode h hline
  have hkind : (e.encode k).1.kind = k.kind := rfl
  have hlength : (e.encode k).1.length = k.length := rfl
  have hmodifiers : (e.encode k).1.modifiers = 0 := rfl
  unfold Delta.words
  simp only [List.cons_append, List.nil_append, hkind, hlength, hmodifiers, decodeFrom?, hshift,
    TokenKind.ofCode?_code, Option.bind_eq_bind, Option.bind_some]
  cases decodeFrom? k.start words <;> rfl

end Encoder

/-! ## Lists of tokens -/

namespace Encoder

variable {e : Encoder} {ks : List Token}

theorem encodeList_cons (e : Encoder) (k : Token) (ks : List Token) :
    e.encodeList (k :: ks) =
      ((e.encode k).1 :: ((e.encode k).2.encodeList ks).1, ((e.encode k).2.encodeList ks).2) := rfl

theorem encodeListChecked?_eq
    (h : (e.previous :: ks.map (·.start)).Pairwise (· ≤ ·)) :
    e.encodeListChecked? ks = some (e.encodeList ks) := by
  induction ks generalizing e with
  | nil => rfl
  | cons k ks ih =>
    rw [List.map_cons, List.pairwise_cons] at h
    have hfirst := encodeChecked?_eq (h.1 _ List.mem_cons_self)
    have hrest : (e.encode k).2.encodeListChecked? ks = some ((e.encode k).2.encodeList ks) :=
      ih h.2
    unfold encodeListChecked?
    rw [hfirst]
    simp only [Option.bind_eq_bind, Option.bind_some, hrest, encodeList_cons]
    rfl

theorem length_encodeList (e : Encoder) (ks : List Token) :
    (e.encodeList ks).1.length = ks.length := by
  induction ks generalizing e with
  | nil => rfl
  | cons k ks ih => rw [encodeList_cons, List.length_cons, List.length_cons, ih]

theorem decodeFrom?_encodeList (h : (e.previous :: ks.map (·.start)).Pairwise (· ≤ ·))
    (hline : ∀ k ∈ ks, k.start.line ≤ unitLimit) :
    decodeFrom? e.previous (flatten (e.encodeList ks).1) = some ks := by
  induction ks generalizing e with
  | nil => rfl
  | cons k ks ih =>
    rw [List.map_cons, List.pairwise_cons] at h
    obtain ⟨hk, hks⟩ := List.forall_mem_cons.mp hline
    have hrest : decodeFrom? k.start (flatten ((e.encode k).2.encodeList ks).1) = some ks :=
      @ih (e.encode k).2 h.2 hks
    have hwords : flatten (e.encodeList (k :: ks)).1 =
        (e.encode k).1.words ++ flatten ((e.encode k).2.encodeList ks).1 := rfl
    rw [hwords, decodeFrom?_encode (h.1 _ List.mem_cons_self) hk, hrest]
    rfl

theorem encodeScan_eq (v : Vocabulary) (e : Encoder) (s : Scanner) :
    e.encodeScan v s = (e.encodeList (s.tokens v)).1 := by
  fun_induction encodeScan v e s with
  | case1 e s s' h =>
    have hnext := s.next_spec v
    rw [h] at hnext
    rw [hnext]
    rfl
  | case2 e s k s' h d e' hd ih =>
    have hnext := s.next_spec v
    rw [h] at hnext
    rw [hnext, encodeList_cons, hd, ih]

end Encoder

theorem length_flatten (ds : List Delta) : (flatten ds).length = Delta.wordCount * ds.length := by
  unfold flatten
  induction ds with
  | nil => rfl
  | cons d ds ih =>
    rw [List.flatMap_cons, List.length_append, ih, List.length_cons, Nat.mul_succ, Nat.add_comm]
    rfl

theorem encodeDocument_eq (v : Vocabulary) (t : Text) : encodeDocument v t = encode (scan v t) := by
  have hscan := Encoder.encodeScan_eq v .start (Scanner.start t)
  rw [Scanner.tokens_start] at hscan
  exact hscan

theorem Position.origin_le (p : Position) : Position.origin ≤ p := by
  rcases Nat.eq_zero_or_pos p.line with hzero | hpos
  · exact .inr ⟨hzero.symm, Nat.zero_le _⟩
  · exact .inl hpos

/-- In a text of fewer than 2^32 line feeds the tokens come in order and none is empty. Their words
are the same whether the tokens are listed first or not, and give back exactly the tokens. -/
theorem tokenWords_scan (v : Vocabulary) (t : Text) (h : t.count '\n' ≤ unitLimit) :
    TokenWords v t (flatten (encode (scan v t))) := by
  have hordered : (Encoder.start.previous :: (scan v t).map (·.start)).Pairwise (· ≤ ·) := by
    rw [List.pairwise_cons, List.pairwise_map]
    exact ⟨fun p _ => Position.origin_le p, pairwise_start_scan v t⟩
  have hline : ∀ k ∈ scan v t, k.start.line ≤ unitLimit := by
    intro k hk
    exact Nat.le_trans (line_le_count hk) h
  have hstream : flatten (encodeDocument v t) = flatten (encode (scan v t)) := by
    rw [encodeDocument_eq]
  constructor
  case ordered => exact pairwise_start_scan v t
  case nonempty => exact fun k hk => one_le_length hk
  case checked => exact Encoder.encodeListChecked?_eq hordered
  case listed => rfl
  case streamed => exact hstream
  case answered => rw [words_semanticTokens, hstream]
  case size => rw [length_flatten, encode, Encoder.length_encodeList]
  case decoded => exact Encoder.decodeFrom?_encodeList hordered hline

theorem tokenWords_scan_two_lines :
    List.count '\n' ['a', '/', '!', '\n', '!', '/', '"', 'x'] ≤ unitLimit ∧
      TokenWords .standard ['a', '/', '!', '\n', '!', '/', '"', 'x']
        (flatten (encode (scan .standard ['a', '/', '!', '\n', '!', '/', '"', 'x']))) :=
  ⟨by decide, tokenWords_scan _ _ (by decide)⟩

end LanguageServer
