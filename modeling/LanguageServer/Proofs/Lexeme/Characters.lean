import LanguageServer.Lexeme

/-! # Characters of words and numbers

Letters and digits are ASCII here, and so are all characters of words and numbers. None of them is
blank, and what a word or a number starts with belongs to it. -/

namespace LanguageServer

theorem Text.toNat_of_isAlphanum {c : Char} (h : c.isAlphanum = true) :
    65 ≤ c.toNat ∧ c.toNat ≤ 90 ∨ 97 ≤ c.toNat ∧ c.toNat ≤ 122 ∨
      48 ≤ c.toNat ∧ c.toNat ≤ 57 := by
  obtain halpha | hdigit := Bool.or_eq_true_iff.mp h
  · obtain hupper | hlower := Bool.or_eq_true_iff.mp halpha
    · exact .inl (of_decide_eq_true hupper)
    · obtain ⟨hmin, hmax⟩ := Bool.and_eq_true_iff.mp hlower
      exact .inr (.inl ⟨of_decide_eq_true hmin, of_decide_eq_true hmax⟩)
  · obtain ⟨hmin, hmax⟩ := Bool.and_eq_true_iff.mp hdigit
    exact .inr (.inr ⟨of_decide_eq_true hmin, of_decide_eq_true hmax⟩)

theorem Text.isAlphanum_of_isBlank {c : Char} (h : isBlank c = true) : c.isAlphanum = false := by
  rw [Bool.eq_false_iff]
  intro hc
  simp only [isBlank, isWithin, blankRanges, List.any_cons, List.any_nil, Bool.or_false,
    Bool.or_eq_true, Bool.and_eq_true, decide_eq_true_eq] at h
  have hranges := toNat_of_isAlphanum hc
  omega

namespace Lexeme

variable {c : Char}

theorem toNat_lt_of_continuesWord (h : continuesWord c = true) : c.toNat < 0x80 := by
  unfold continuesWord at h
  simp only [Bool.or_eq_true, beq_iff_eq] at h
  obtain (halphanum | rfl) | rfl := h
  · have hrange := Text.toNat_of_isAlphanum halphanum
    omega
  all_goals decide

theorem charWidth_of_continuesWord (h : continuesWord c = true) : Text.charWidth c = 1 := by
  have hlt := toNat_lt_of_continuesWord h
  exact if_pos (by omega)

theorem toNat_lt_of_continuesNumber (h : continuesNumber c = true) : c.toNat < 0x80 := by
  unfold continuesNumber at h
  simp only [Bool.or_eq_true, beq_iff_eq] at h
  obtain ((((hdigit | rfl) | rfl) | rfl) | rfl) | rfl := h
  · have halphanum : c.isAlphanum = true := Bool.or_eq_true_iff.mpr (.inr hdigit)
    have hrange := Text.toNat_of_isAlphanum halphanum
    omega
  all_goals decide

theorem continuesWord_of_startsWord (h : startsWord c = true) : continuesWord c = true := by
  rw [startsWord, Bool.or_eq_true] at h
  rcases h with halpha | hline
  · simp [continuesWord, Char.isAlphanum, halpha]
  · simp [continuesWord, hline]

theorem continuesNumber_of_isDigit (h : c.isDigit = true) : continuesNumber c = true := by
  simp [continuesNumber, h]

theorem not_isBlank_of_startsWord (h : startsWord c = true) : ¬ Text.isBlank c = true := by
  intro hblank
  unfold startsWord at h
  simp only [Bool.or_eq_true, beq_iff_eq] at h
  obtain halpha | rfl := h
  · have halphanum : c.isAlphanum = true := Bool.or_eq_true_iff.mpr (.inl halpha)
    rw [Text.isAlphanum_of_isBlank hblank] at halphanum
    cases halphanum
  · exact absurd hblank (by decide)

theorem not_isDigit_of_startsWord (h : startsWord c = true) : ¬ c.isDigit = true := by
  intro hdigit
  unfold startsWord at h
  simp only [Bool.or_eq_true, beq_iff_eq] at h
  obtain halpha | rfl := h
  · have hmax : c.toNat ≤ 57 := of_decide_eq_true (Bool.and_eq_true_iff.mp hdigit).2
    obtain hupper | hlower := Bool.or_eq_true_iff.mp halpha
    · have hmin : 65 ≤ c.toNat ∧ c.toNat ≤ 90 := of_decide_eq_true hupper
      omega
    · have hmin : 97 ≤ c.toNat := of_decide_eq_true (Bool.and_eq_true_iff.mp hlower).1
      omega
  · exact absurd hdigit (by decide)

end Lexeme

end LanguageServer
