import LanguageServer.Proofs.Text.Bytes
import LanguageServer.Scanner.Cursor

/-! # Searching in bytes

What is looked for in the bytes of a text is ASCII, and all bytes of any other character are high.
So a search passes over such a character as a whole, and stops where the same search in the
characters does. -/

namespace LanguageServer.Text

theorem bytes_cons (c : Char) (cs : Text) :
    bytes (c :: cs) = String.utf8EncodeChar c ++ bytes cs := List.flatMap_cons

theorem bytes_cons_of_lt {c : Char} (hc : c.toNat < 0x80) (cs : Text) :
    bytes (c :: cs) = c.toUInt8 :: bytes cs := by
  rw [bytes_cons, utf8EncodeChar_of_lt hc, List.singleton_append]

theorem char_ne_of_le {a c : Char} (ha : a.toNat < 0x80) (hc : 0x80 ≤ c.toNat) : a ≠ c := by
  rintro rfl
  omega

theorem toUInt8_ne_of_le {a : Char} {b : UInt8} (ha : a.toNat < 0x80) (hb : 0x80 ≤ b.toNat) :
    a.toUInt8 ≠ b := by
  rintro rfl
  rw [toNat_toUInt8 ha] at hb
  omega

theorem utf8EncodeChar_ne_nil (c : Char) : String.utf8EncodeChar c ≠ [] := by
  intro hnil
  have hlength := String.length_utf8EncodeChar c
  have hpos := c.utf8Size_pos
  rw [hnil, List.length_nil] at hlength
  omega

theorem exists_bytes_cons_of_le {c : Char} (hc : 0x80 ≤ c.toNat) (cs : Text) :
    ∃ b bs, bytes (c :: cs) = b :: bs ∧ 0x80 ≤ b.toNat := by
  obtain ⟨b, bs, hbytes⟩ := List.exists_cons_of_ne_nil (utf8EncodeChar_ne_nil c)
  refine ⟨b, bs ++ bytes cs, by rw [bytes_cons, hbytes, List.cons_append], ?_⟩
  exact le_of_mem_utf8EncodeChar hc (hbytes ▸ List.mem_cons_self)

/-! ## Markers -/

theorem isPrefixOf_cons_of_ne {α : Type} [DecidableEq α] {a b : α} (h : a ≠ b) (as bs : List α) :
    ¬ (a :: as).isPrefixOf (b :: bs) = true := by
  rw [List.isPrefixOf_cons_cons, beq_false_of_ne h]
  exact Bool.false_ne_true

theorem isAscii_cons {a : Char} {m : Text} :
    isAscii (a :: m) = true ↔ a.toNat < 0x80 ∧ isAscii m = true := by
  rw [isAscii, List.all_cons, Bool.and_eq_true, decide_eq_true_eq, isAscii]

theorem isPrefixOf_bytes {m : Text} (hm : m.isAscii = true) (t : Text) :
    (bytes m).isPrefixOf (bytes t) = m.isPrefixOf t := by
  induction m generalizing t with
  | nil => rfl
  | cons a m ih =>
    obtain ⟨ha, hm⟩ := isAscii_cons.mp hm
    rw [bytes_cons_of_lt ha]
    cases t with
    | nil => rfl
    | cons c cs =>
      rcases Nat.lt_or_ge c.toNat 0x80 with hc | hc
      · rw [bytes_cons_of_lt hc, List.isPrefixOf_cons_cons, List.isPrefixOf_cons_cons, ih hm,
          Bool.eq_iff_iff]
        simp [toUInt8_inj ha hc]
      · obtain ⟨b, bs, hbytes, hb⟩ := exists_bytes_cons_of_le hc cs
        rw [hbytes, Bool.eq_iff_iff]
        exact iff_of_false (isPrefixOf_cons_of_ne (toUInt8_ne_of_le ha hb) _ _)
          (isPrefixOf_cons_of_ne (char_ne_of_le ha hc) _ _)

theorem findBytes?_append_high {high : List UInt8} (hhigh : ∀ b ∈ high, 0x80 ≤ b.toNat) {a : Char}
    (ha : a.toNat < 0x80) (m bs : List UInt8) :
    findBytes? (a.toUInt8 :: m) (high ++ bs) =
      (findBytes? (a.toUInt8 :: m) bs).map (· + high.length) := by
  induction high with
  | nil => simp
  | cons b high ih =>
    obtain ⟨hb, hhigh⟩ := List.forall_mem_cons.mp hhigh
    rw [List.cons_append, findBytes?, if_neg (isPrefixOf_cons_of_ne (toUInt8_ne_of_le ha hb) _ _),
      ih hhigh, Option.map_map]
    rfl

section Marker

variable {m : Text} (hne : m ≠ []) (hm : m.isAscii = true)

include hne hm

theorem findBytes?_bytes_nil : findBytes? (bytes m) (bytes []) = none := by
  obtain ⟨a, m, rfl⟩ := List.exists_cons_of_ne_nil hne
  rw [bytes_cons_of_lt (isAscii_cons.mp hm).1]
  rfl

theorem findBytes?_bytes_cons (c : Char) (cs : Text) :
    findBytes? (bytes m) (bytes (c :: cs)) =
      if m.isPrefixOf (c :: cs) then some 0
      else (findBytes? (bytes m) (bytes cs)).map (· + c.utf8Size) := by
  rcases Nat.lt_or_ge c.toNat 0x80 with hc | hc
  · rw [← isPrefixOf_bytes hm, bytes_cons_of_lt hc, findBytes?, utf8Size_of_lt hc]
  · obtain ⟨a, m, rfl⟩ := List.exists_cons_of_ne_nil hne
    obtain ⟨ha, -⟩ := isAscii_cons.mp hm
    rw [if_neg (isPrefixOf_cons_of_ne (char_ne_of_le ha hc) _ _), bytes_cons c,
      bytes_cons_of_lt ha, ← String.length_utf8EncodeChar]
    exact findBytes?_append_high (fun b => le_of_mem_utf8EncodeChar hc) ha _ _

theorem getD_findBytes?_through (t : Text) :
    ((findBytes? (bytes m) (bytes t)).map (· + byteSize m)).getD t.byteSize =
      byteSize (Lexeme.through m t).1 := by
  induction t with
  | nil =>
    rw [findBytes?_bytes_nil hne hm]
    rfl
  | cons c cs ih =>
    rw [findBytes?_bytes_cons hne hm, Lexeme.through]
    split
    · exact Nat.zero_add _
    · simp only [byteSize_cons, ← ih]
      cases findBytes? (bytes m) (bytes cs) with
      | none => rfl
      | some i =>
        simp only [Option.map_some, Option.getD_some]
        omega

end Marker

theorem findBytes?_feed_cons (c : Char) (cs : Text) :
    findBytes? (bytes ['\n']) (bytes (c :: cs)) =
      if c = '\n' then some 0 else (findBytes? (bytes ['\n']) (bytes cs)).map (· + c.utf8Size) := by
  have hfeed : ['\n'].isPrefixOf (c :: cs) = true ↔ c = '\n' := by
    rw [List.isPrefixOf_cons_cons, List.isPrefixOf_nil_left, Bool.and_true, beq_iff_eq, eq_comm]
  rw [findBytes?_bytes_cons (by decide) (by decide)]
  simp only [hfeed]

theorem getD_findBytes?_feed (t : Text) :
    (findBytes? (bytes ['\n']) (bytes t)).getD t.byteSize = byteSize (t.takeWhile (· != '\n')) := by
  induction t with
  | nil => rfl
  | cons c cs ih =>
    rw [findBytes?_feed_cons]
    split
    · next hc =>
      subst hc
      rfl
    · next hc =>
      rw [List.takeWhile_cons_of_pos (by simpa using hc), byteSize_cons, byteSize_cons, ← ih]
      cases findBytes? (bytes ['\n']) (bytes cs) with
      | none => rfl
      | some i => exact Nat.add_comm _ _

theorem isNone_findBytes?_feed (t : Text) :
    (findBytes? (bytes ['\n']) (bytes t)).isNone = true ↔ '\n' ∉ t := by
  induction t with
  | nil => exact iff_of_true rfl List.not_mem_nil
  | cons c cs ih =>
    rw [findBytes?_feed_cons]
    split
    · next hc => simp [hc]
    · next hc =>
      rw [Option.isNone_map, ih, List.mem_cons, not_or]
      exact (and_iff_right (Ne.symm hc)).symm

/-! ## Quotes -/

theorem quotedBytes_append_high {high : List UInt8} (hhigh : ∀ b ∈ high, 0x80 ≤ b.toNat)
    (previous : UInt8) (bs : List UInt8) :
    quotedBytes previous (high ++ bs) = quotedBytes (high.getLastD previous) bs + high.length := by
  induction high generalizing previous with
  | nil => rfl
  | cons b high ih =>
    obtain ⟨hb, hhigh⟩ := List.forall_mem_cons.mp hhigh
    have hquote : ¬ (b = '"'.toUInt8 ∧ previous ≠ '\\'.toUInt8) := by
      rintro ⟨rfl, -⟩
      exact absurd hb (by decide)
    rw [List.cons_append, quotedBytes, if_neg hquote, ih hhigh, List.getLastD_cons,
      List.length_cons, Nat.add_assoc]

theorem getLastD_utf8EncodeChar {c : Char} (hc : 0x80 ≤ c.toNat) (previous : UInt8) :
    0x80 ≤ ((String.utf8EncodeChar c).getLastD previous).toNat := by
  rw [List.getLastD_eq_getLast?, List.getLast?_eq_some_getLast (utf8EncodeChar_ne_nil c)]
  exact le_of_mem_utf8EncodeChar hc (List.getLast_mem _)

/-- A string goes on alike in bytes and in characters, if what stands before it is a backslash to
both or to none. -/
theorem quotedBytes_bytes {b : UInt8} {p : Char} (h : b = '\\'.toUInt8 ↔ p = '\\') (t : Text) :
    quotedBytes b (bytes t) = byteSize (Lexeme.throughQuote p t).1 := by
  induction t generalizing b p with
  | nil => rfl
  | cons c cs ih =>
    rcases Nat.lt_or_ge c.toNat 0x80 with hc | hc
    · have hquote : (c.toUInt8 = '"'.toUInt8 ∧ b ≠ '\\'.toUInt8) ↔ (c = '"' ∧ p ≠ '\\') :=
        and_congr (toUInt8_inj hc (by decide)) (not_congr h)
      rw [bytes_cons_of_lt hc, quotedBytes, Lexeme.throughQuote]
      simp only [hquote]
      split
      · exact (utf8Size_of_lt hc).symm
      · rw [ih (toUInt8_inj hc (by decide)), byteSize_cons, utf8Size_of_lt hc, Nat.add_comm]
    · have hquote : ¬ (c = '"' ∧ p ≠ '\\') := by
        rintro ⟨rfl, -⟩
        exact absurd hc (by decide)
      -- In front of the next character stands a high byte, which is no backslash either.
      have hlast : (String.utf8EncodeChar c).getLastD b = '\\'.toUInt8 ↔ c = '\\' :=
        iff_of_false (toUInt8_ne_of_le (by decide) (getLastD_utf8EncodeChar hc b)).symm
          (char_ne_of_le (by decide) hc).symm
      rw [bytes_cons, quotedBytes_append_high fun b => le_of_mem_utf8EncodeChar hc, ih hlast,
        Lexeme.throughQuote, if_neg hquote, String.length_utf8EncodeChar]
      exact Nat.add_comm _ _

/-! ## Runs -/

theorem toNat_ofUInt8 (b : UInt8) : (Char.ofUInt8 b).toNat = b.toNat := UInt8.toNat_toUInt32 b

theorem ofUInt8_toUInt8 {c : Char} (hc : c.toNat < 0x80) : Char.ofUInt8 c.toUInt8 = c := by
  rw [← Char.toNat_inj, toNat_ofUInt8, toNat_toUInt8 hc]

theorem runBytes_bytes {p : Char → Bool} (hp : ∀ c, p c = true → c.toNat < 0x80) (t : Text) :
    runBytes p (bytes t) = byteSize (t.takeWhile p) := by
  have hhigh : ∀ c : Char, 0x80 ≤ c.toNat → ¬ p c = true := fun c hc hpc =>
    Nat.not_lt_of_le hc (hp c hpc)
  unfold runBytes
  induction t with
  | nil => rfl
  | cons c cs ih =>
    rcases Nat.lt_or_ge c.toNat 0x80 with hc | hc
    · rw [bytes_cons_of_lt hc, List.takeWhile_cons, List.takeWhile_cons, ofUInt8_toUInt8 hc]
      split
      · rw [List.length_cons, ih, byteSize_cons, utf8Size_of_lt hc, Nat.add_comm]
      · rfl
    · obtain ⟨b, bs, hbytes, hb⟩ := exists_bytes_cons_of_le hc cs
      rw [← toNat_ofUInt8] at hb
      rw [hbytes, List.takeWhile_cons, List.takeWhile_cons, if_neg (hhigh _ hb),
        if_neg (hhigh _ hc)]
      rfl

end LanguageServer.Text
