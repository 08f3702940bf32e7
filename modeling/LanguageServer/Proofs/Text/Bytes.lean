import LanguageServer.Text.Units

/-! # Characters in bytes

An ASCII character is one byte, and no byte of another character is below 128. So such a character
may be looked for in the bytes of a text (`count_bytes`). -/

namespace LanguageServer.Text

theorem toNat_toUInt8 {c : Char} (hc : c.toNat < 0x80) : c.toUInt8.toNat = c.toNat := by
  rw [Char.toUInt8, UInt32.toNat_toUInt8]
  exact Nat.mod_eq_of_lt (Nat.lt_of_lt_of_le hc (by decide))

theorem utf8EncodeChar_of_lt {c : Char} (hc : c.toNat < 0x80) :
    String.utf8EncodeChar c = [c.toUInt8] :=
  String.utf8EncodeChar_eq_singleton (utf8Size_of_lt hc)

theorem le_toNat_ofNat {n : Nat} (h : 0x80 ≤ n) (h' : n < 0x100) : 0x80 ≤ (UInt8.ofNat n).toNat := by
  rw [UInt8.toNat_ofNat']
  omega

theorem le_of_mem_utf8EncodeChar {c : Char} (hc : 0x80 ≤ c.toNat) {b : UInt8}
    (hb : b ∈ String.utf8EncodeChar c) : 0x80 ≤ b.toNat := by
  revert hb
  fun_cases String.utf8EncodeChar c with
  | case1 v h => exact absurd hc (Nat.not_le_of_lt (Nat.lt_succ_of_le h))
  | case2 v _ _ =>
    simp only [List.mem_cons, List.not_mem_nil, or_false]
    rintro (rfl | rfl) <;> apply le_toNat_ofNat <;> omega
  | case3 v _ _ _ =>
    simp only [List.mem_cons, List.not_mem_nil, or_false]
    rintro (rfl | rfl | rfl) <;> apply le_toNat_ofNat <;> omega
  | case4 v _ _ _ =>
    simp only [List.mem_cons, List.not_mem_nil, or_false]
    rintro (rfl | rfl | rfl | rfl) <;> apply le_toNat_ofNat <;> omega

theorem toUInt8_inj {c d : Char} (hc : c.toNat < 0x80) (hd : d.toNat < 0x80) :
    c.toUInt8 = d.toUInt8 ↔ c = d := by
  rw [← UInt8.toNat_inj, toNat_toUInt8 hc, toNat_toUInt8 hd, Char.toNat_inj]

theorem count_utf8EncodeChar {c : Char} (hc : c.toNat < 0x80) (d : Char) :
    (String.utf8EncodeChar d).count c.toUInt8 = [d].count c := by
  by_cases hd : d.toNat < 0x80
  · rw [utf8EncodeChar_of_lt hd]
    simp only [List.count_singleton, beq_iff_eq, toUInt8_inj hd hc]
  · have hhigh : c.toUInt8 ∉ String.utf8EncodeChar d := by
      intro hmem
      have hle := le_of_mem_utf8EncodeChar (Nat.le_of_not_lt hd) hmem
      rw [toNat_toUInt8 hc] at hle
      omega
    have hne : c ≠ d := fun h => hd (h ▸ hc)
    rw [List.count_eq_zero_of_not_mem hhigh, List.count_eq_zero_of_not_mem (by simpa using hne)]

theorem count_bytes {c : Char} (hc : c.toNat < 0x80) (t : Text) :
    t.bytes.count c.toUInt8 = t.count c := by
  induction t with
  | nil => rfl
  | cons d ds ih =>
    rw [bytes, List.flatMap_cons, List.count_append, count_utf8EncodeChar hc, ← bytes, ih,
      ← List.count_append, List.singleton_append]

end LanguageServer.Text
