import LanguageServer.Proofs.Token.Words

/-! # Words as tokens

The words of tokens in the order of the text are read back, and what is read from an array of
words is written as the same array again (`words_tokens_inverse`). Which arrays can be read is said
without a reader: by the five words of each record and the places that they add up to. -/

namespace LanguageServer

/-- Five words of an array, whatever they mean. -/
structure Record where
  line : Nat
  column : Nat
  length : Nat
  code : Nat
  modifiers : Nat
deriving DecidableEq, Repr

namespace Record

/-- The records of an array. Words behind the last whole record are left out. -/
def ofWords : List Nat → List Record
  | line :: column :: length :: code :: modifiers :: words =>
    ⟨line, column, length, code, modifiers⟩ :: ofWords words
  | _ => []

/-- The line and column behind a line and column, counted without a limit. A later line starts the
column anew. -/
def move (r : Record) (place : Nat × Nat) : Nat × Nat :=
  if r.line = 0 then (place.1, place.2 + r.column) else (place.1 + r.line, r.column)

/-- The lines and columns that records add up to, one after another. -/
def places (place : Nat × Nat) : List Record → List (Nat × Nat)
  | [] => []
  | r :: rs => r.move place :: places (r.move place) rs

end Record

/-- The line and column of a position. -/
def Position.place (p : Position) : Nat × Nat := (p.line, p.column)

/-- Words that can stand for tokens behind a token at `p`. -/
structure IsTokenArray (p : Position) (words : List Nat) : Prop where
  whole : words.length % Delta.wordCount = 0
  kinds : ∀ r ∈ Record.ofWords words, r.code < TokenKind.all.length
  modifiers : ∀ r ∈ Record.ofWords words, r.modifiers = 0
  places : ∀ place ∈ Record.places p.place (Record.ofWords words),
    place.1 ≤ unitLimit ∧ place.2 ≤ unitLimit

/-- Tokens that can be sent: in the order of the text, and on lines that can be counted. -/
structure Sendable (ks : List Token) : Prop where
  ordered : ks.Pairwise fun k k' => k.start ≤ k'.start
  countable : ∀ k ∈ ks, k.start.line ≤ unitLimit

/-! ## One record -/

namespace Position

variable {p q : Position}

theorem at?_eq_some {line column : Nat} :
    Position.at? line column = some q ↔ q.place = (line, column) ∧ q.line ≤ unitLimit := by
  unfold at? place
  rw [Prod.mk.injEq]
  constructor
  · intro h
    split at h
    · next hle =>
      obtain rfl := Option.some.inj h
      exact ⟨⟨rfl, rfl⟩, hle.1⟩
    · cases h
  · rintro ⟨⟨rfl, rfl⟩, hle⟩
    exact dif_pos ⟨hle, q.column_le⟩

theorem shift?_eq_some {r : Record} :
    p.shift? r.line r.column = some q ↔ q.place = r.move p.place ∧ q.line ≤ unitLimit := by
  unfold shift? Record.move
  split <;> exact at?_eq_some

theorem shift?_cases {r : Record} (h : p.shift? r.line r.column = some q) :
    (r.line = 0 ∧ q.line = p.line ∧ q.column = p.column + r.column) ∨
      (r.line ≠ 0 ∧ q.line = p.line + r.line ∧ q.column = r.column) := by
  have hplace := (shift?_eq_some.mp h).1
  unfold place Record.move at hplace
  split at hplace
  · next hsame => exact .inl ⟨hsame, Prod.mk.inj hplace⟩
  · next hdown => exact .inr ⟨hdown, Prod.mk.inj hplace⟩

theorem le_of_shift? {r : Record} (h : p.shift? r.line r.column = some q) : p ≤ q := by
  rcases shift?_cases h with ⟨-, hline, hcolumn⟩ | ⟨hdown, hline, -⟩
  · exact .inr ⟨hline.symm, by omega⟩
  · exact .inl (by omega)

theorem pairwise_cons_cons {ps : List Position} (h : p ≤ q) (hs : (q :: ps).Pairwise (· ≤ ·)) :
    (p :: q :: ps).Pairwise (· ≤ ·) := by
  refine List.pairwise_cons.mpr ⟨?_, hs⟩
  intro q' hq'
  rcases List.mem_cons.mp hq' with rfl | hq'
  · exact h
  · exact le_trans h ((List.pairwise_cons.mp hs).1 q' hq')

end Position

theorem Encoder.encode_of_shift? {p q : Position} {r : Record} {kind : TokenKind}
    (h : p.shift? r.line r.column = some q) :
    ((Encoder.mk p).encode ⟨q, r.length, kind⟩).1 = ⟨r.line, r.column, r.length, kind, 0⟩ := by
  unfold encode
  simp only [Delta.mk.injEq, and_true]
  rcases Position.shift?_cases h with ⟨hsame, hline, hcolumn⟩ | ⟨hdown, hline, hcolumn⟩
  · have hzero : q.line - p.line = 0 := by omega
    rw [if_pos hzero, hzero, hsame]
    exact ⟨rfl, by omega⟩
  · rw [if_neg (by omega), hcolumn]
    exact ⟨by omega, rfl⟩

theorem Encoder.flatten_encodeList_of_shift? {p q : Position} {r : Record} {kind : TokenKind}
    (hshift : p.shift? r.line r.column = some q) (hkind : TokenKind.ofCode? r.code = some kind)
    (ks : List Token) :
    flatten ((Encoder.mk p).encodeList (⟨q, r.length, kind⟩ :: ks)).1 =
      r.line :: r.column :: r.length :: r.code :: 0 :: flatten ((Encoder.mk q).encodeList ks).1 := by
  have hfirst := @encode_of_shift? p q r kind hshift
  have hnext : ((Encoder.mk p).encode ⟨q, r.length, kind⟩).2 = ⟨q⟩ := rfl
  rw [encodeList_cons, hfirst, hnext, ← TokenKind.code_of_ofCode? hkind]
  rfl

/-! ## All records -/

theorem isTokenArray_nil (p : Position) : IsTokenArray p [] :=
  ⟨rfl, by simp [Record.ofWords], by simp [Record.ofWords], by simp [Record.ofWords, Record.places]⟩

theorem TokenKind.exists_ofCode?_iff {code : Nat} :
    (∃ kind, TokenKind.ofCode? code = some kind) ↔ code < TokenKind.all.length := by
  unfold ofCode?
  rw [← Option.isSome_iff_exists, isSome_getElem?]

theorem isTokenArray_cons {p : Position} {r : Record} {words : List Nat} :
    IsTokenArray p (r.line :: r.column :: r.length :: r.code :: r.modifiers :: words) ↔
      r.modifiers = 0 ∧ (∃ kind, TokenKind.ofCode? r.code = some kind) ∧
        ∃ q, p.shift? r.line r.column = some q ∧ IsTokenArray q words := by
  have hlength : (r.line :: r.column :: r.length :: r.code :: r.modifiers :: words).length =
      words.length + Delta.wordCount := rfl
  constructor
  · rintro ⟨hwhole, hkinds, hmodifiers, hplaces⟩
    rw [hlength, Nat.add_mod_right] at hwhole
    obtain ⟨hkind, hkinds⟩ := List.forall_mem_cons.mp hkinds
    obtain ⟨hmodifier, hmodifiers⟩ := List.forall_mem_cons.mp hmodifiers
    obtain ⟨⟨hline, hcolumn⟩, hplaces⟩ := List.forall_mem_cons.mp hplaces
    refine ⟨hmodifier, TokenKind.exists_ofCode?_iff.mpr hkind,
      ⟨(r.move p.place).1, (r.move p.place).2, hcolumn⟩, ?_, hwhole, hkinds, hmodifiers, hplaces⟩
    exact Position.shift?_eq_some.mpr ⟨rfl, hline⟩
  · rintro ⟨hmodifier, hkind, q, hshift, hwhole, hkinds, hmodifiers, hplaces⟩
    obtain ⟨hplace, hline⟩ := Position.shift?_eq_some.mp hshift
    rw [hplace] at hplaces
    constructor
    case whole => rw [hlength, Nat.add_mod_right, hwhole]
    case kinds => exact List.forall_mem_cons.mpr ⟨TokenKind.exists_ofCode?_iff.mp hkind, hkinds⟩
    case modifiers => exact List.forall_mem_cons.mpr ⟨hmodifier, hmodifiers⟩
    case places =>
      refine List.forall_mem_cons.mpr ⟨?_, hplaces⟩
      rw [← hplace]
      exact ⟨hline, q.column_le⟩

theorem decodeFrom?_cons {p : Position} {r : Record} {words : List Nat} {ks : List Token} :
    decodeFrom? p (r.line :: r.column :: r.length :: r.code :: r.modifiers :: words) = some ks ↔
      r.modifiers = 0 ∧ ∃ kind, TokenKind.ofCode? r.code = some kind ∧
        ∃ q, p.shift? r.line r.column = some q ∧
          ∃ ks', decodeFrom? q words = some ks' ∧ ks = ⟨q, r.length, kind⟩ :: ks' := by
  obtain ⟨line, column, length, code, _ | modifiers⟩ := r
  · simp only [decodeFrom?, Option.bind_eq_bind, Option.bind_eq_some_iff, Option.pure_def,
      Option.some.injEq, true_and]
    constructor
    · rintro ⟨q, hshift, kind, hkind, ks', hwords, rfl⟩
      exact ⟨kind, hkind, q, hshift, ks', hwords, rfl⟩
    · rintro ⟨kind, hkind, q, hshift, ks', hwords, rfl⟩
      exact ⟨q, hshift, kind, hkind, ks', hwords, rfl⟩
  · simp [decodeFrom?]

theorem decodeFrom?_short {p : Position} {words : List Nat} {ks : List Token}
    (hshort : ∀ line column length code modifiers rest,
      words ≠ line :: column :: length :: code :: modifiers :: rest)
    (h : decodeFrom? p words = some ks) : words = [] ∧ ks = [] := by
  unfold decodeFrom? at h
  split at h
  · exact ⟨rfl, (Option.some.inj h).symm⟩
  · exact absurd rfl (hshort _ _ _ _ _ _)
  · cases h

theorem IsTokenArray.eq_nil {p : Position} {words : List Nat} (h : IsTokenArray p words)
    (hshort : ∀ line column length code modifiers rest,
      words ≠ line :: column :: length :: code :: modifiers :: rest) : words = [] := by
  have hwhole := h.whole
  unfold Delta.wordCount at hwhole
  match words with
  | [] => rfl
  | [_] | [_, _] | [_, _, _] | [_, _, _, _] => cases hwhole
  | _ :: _ :: _ :: _ :: _ :: _ => exact absurd rfl (hshort _ _ _ _ _ _)

theorem exists_decodeFrom?_iff (p : Position) (words : List Nat) :
    (∃ ks, decodeFrom? p words = some ks) ↔ IsTokenArray p words := by
  fun_induction Record.ofWords words generalizing p with
  | case1 line column length code modifiers words ih =>
    rw [@isTokenArray_cons p ⟨line, column, length, code, modifiers⟩ words]
    constructor
    · rintro ⟨ks, h⟩
      obtain ⟨hmodifiers, kind, hkind, q, hshift, ks', hwords, -⟩ :=
        (@decodeFrom?_cons p ⟨line, column, length, code, modifiers⟩ words ks).mp h
      exact ⟨hmodifiers, ⟨kind, hkind⟩, q, hshift, (ih q).mp ⟨ks', hwords⟩⟩
    · rintro ⟨hmodifiers, ⟨kind, hkind⟩, q, hshift, harray⟩
      obtain ⟨ks, hwords⟩ := (ih q).mpr harray
      exact ⟨_, (@decodeFrom?_cons p ⟨line, column, length, code, modifiers⟩ words _).mpr
        ⟨hmodifiers, kind, hkind, q, hshift, ks, hwords, rfl⟩⟩
  | case2 words hshort =>
    constructor
    · rintro ⟨ks, h⟩
      rw [(decodeFrom?_short hshort h).1]
      exact isTokenArray_nil p
    · intro h
      rw [h.eq_nil hshort]
      exact ⟨[], rfl⟩

theorem decodeFrom?_eq_some {p : Position} {words : List Nat} {ks : List Token}
    (h : decodeFrom? p words = some ks) :
    (p :: ks.map (·.start)).Pairwise (· ≤ ·) ∧ (∀ k ∈ ks, k.start.line ≤ unitLimit) ∧
      flatten ((Encoder.mk p).encodeList ks).1 = words := by
  -- The reader adds up to the place that the encoder remembers, so both go on from `q`.
  fun_induction Record.ofWords words generalizing p ks with
  | case1 line column length code modifiers words ih =>
    let r : Record := ⟨line, column, length, code, modifiers⟩
    obtain ⟨hmodifiers, kind, hkind, q, hshift, ks', hwords, rfl⟩ :=
      (@decodeFrom?_cons p r words ks).mp h
    obtain ⟨hordered, hcountable, hwritten⟩ := ih hwords
    refine ⟨?_, ?_, ?_⟩
    · exact Position.pairwise_cons_cons (Position.le_of_shift? hshift) hordered
    · exact List.forall_mem_cons.mpr ⟨(Position.shift?_eq_some.mp hshift).2, hcountable⟩
    · have hzero : modifiers = 0 := hmodifiers
      rw [Encoder.flatten_encodeList_of_shift? hshift hkind, hwritten, hzero]
  | case2 words hshort =>
    obtain ⟨rfl, rfl⟩ := decodeFrom?_short hshort h
    exact ⟨List.pairwise_singleton _ _, by simp, rfl⟩

theorem Encoder.encodeList_append (e : Encoder) (ks ks' : List Token) :
    e.encodeList (ks ++ ks') =
      ((e.encodeList ks).1 ++ ((e.encodeList ks).2.encodeList ks').1,
        ((e.encodeList ks).2.encodeList ks').2) := by
  induction ks generalizing e with
  | nil => rfl
  | cons k ks ih => rw [List.cons_append, encodeList_cons, encodeList_cons, ih, List.cons_append]

theorem sendable_iff {ks : List Token} :
    Sendable ks ↔ (Encoder.start.previous :: ks.map (·.start)).Pairwise (· ≤ ·) ∧
      ∀ k ∈ ks, k.start.line ≤ unitLimit := by
  rw [List.pairwise_cons, List.pairwise_map]
  constructor
  · rintro ⟨hordered, hcountable⟩
    exact ⟨⟨fun q _ => Position.origin_le q, hordered⟩, hcountable⟩
  · rintro ⟨⟨-, hordered⟩, hcountable⟩
    exact ⟨hordered, hcountable⟩

/-- Tokens in the order of the text are sent as an array without a negative difference, and read
back from it. Every array that can stand for tokens is read, and what is read is sent as the same
array. Parts of a list are sent one after another by one encoder as the whole list is. -/
theorem words_tokens_inverse :
    (∀ ks, Sendable ks →
      Encoder.start.encodeListChecked? ks = some (Encoder.start.encodeList ks) ∧
        IsTokenArray .origin (flatten (encode ks)) ∧ decode? (flatten (encode ks)) = some ks) ∧
    (∀ words, IsTokenArray .origin words →
      ∃ ks, Sendable ks ∧ decode? words = some ks ∧ flatten (encode ks) = words) ∧
    ∀ (e : Encoder) (ks ks' : List Token), e.encodeList (ks ++ ks') =
      ((e.encodeList ks).1 ++ ((e.encodeList ks).2.encodeList ks').1,
        ((e.encodeList ks).2.encodeList ks').2) := by
  refine ⟨?_, ?_, Encoder.encodeList_append⟩
  · intro ks h
    obtain ⟨hordered, hcountable⟩ := sendable_iff.mp h
    have hread : decode? (flatten (encode ks)) = some ks :=
      Encoder.decodeFrom?_encodeList hordered hcountable
    refine ⟨Encoder.encodeListChecked?_eq hordered, ?_, hread⟩
    exact (exists_decodeFrom?_iff _ _).mp ⟨ks, hread⟩
  · intro words h
    obtain ⟨ks, hread⟩ := (exists_decodeFrom?_iff _ _).mpr h
    obtain ⟨hordered, hcountable, hwritten⟩ := decodeFrom?_eq_some hread
    exact ⟨ks, sendable_iff.mpr ⟨hordered, hcountable⟩, hread, hwritten⟩

/-- Two tokens at one place, and one two lines further down. -/
def sharedPlace : List Token :=
  [⟨Position.origin.right 3, 2, .keyword⟩, ⟨Position.origin.right 3, 1, .operator⟩,
    ⟨Position.origin.nextLine.nextLine.right 1, 4, .string⟩]

def sharedPlaceWords : List Nat := [0, 3, 2, 0, 0, 0, 0, 1, 7, 0, 2, 1, 4, 5, 0]

theorem words_tokens_inverse_shared_place :
    (Sendable sharedPlace ∧ IsTokenArray .origin sharedPlaceWords) ∧
      decode? (flatten (encode sharedPlace)) = some sharedPlace ∧
      ∃ ks, Sendable ks ∧ decode? sharedPlaceWords = some ks ∧
        flatten (encode ks) = sharedPlaceWords := by
  have hsendable : Sendable sharedPlace := ⟨by decide, by decide⟩
  have harray : IsTokenArray .origin sharedPlaceWords :=
    ⟨by decide, by decide, by decide, by decide⟩
  exact ⟨⟨hsendable, harray⟩, (words_tokens_inverse.1 _ hsendable).2.2,
    words_tokens_inverse.2.1 _ harray⟩

end LanguageServer
