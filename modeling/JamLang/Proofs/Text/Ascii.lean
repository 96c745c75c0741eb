import JamLang.Text.Letter
import JamLang.Text.Numeric

/-!
# Letters and digits of ASCII

The tables of Unicode start beyond ASCII, so for a character of ASCII the wide notions of a letter
and of a numeric character come down to the narrow ones, which can be computed at once.
-/

namespace JamLang.Text

variable {c : Char}

theorem inRanges_eq_false {ranges : List (Nat × Nat)} (beyond : ∀ range ∈ ranges, 0x80 ≤ range.1)
    (isAscii : c.toNat < 0x80) : inRanges ranges c = false := by
  rw [Bool.eq_false_iff]
  intro inRanges
  obtain ⟨range, isRange, above, -⟩ := inRanges_iff.1 inRanges
  exact absurd (Nat.le_trans (beyond range isRange) above) (Nat.not_le_of_lt isAscii)

/-- The letters of ASCII are the Latin ones. -/
theorem isLetter_of_isAscii (isAscii : c.toNat < 0x80) : isLetter c = c.isAlpha := by
  rw [isLetter, inRanges_eq_false (by decide +kernel) isAscii, Bool.or_false]

/-- The numeric characters of ASCII are the digits. -/
theorem isNumeric_of_isAscii (isAscii : c.toNat < 0x80) : isNumeric c = c.isDigit := by
  rw [isNumeric, inRanges_eq_false (by decide +kernel) isAscii, Bool.or_false]

theorem toNat_of_isDigit (isDigit : c.isDigit = true) : 0x30 ≤ c.toNat ∧ c.toNat ≤ 0x39 := by
  simp only [Char.isDigit, Bool.and_eq_true, decide_eq_true_eq] at isDigit
  exact isDigit

theorem not_isLetter_of_isDigit (isDigit : c.isDigit = true) : isLetter c = false := by
  obtain ⟨least, greatest⟩ := toNat_of_isDigit isDigit
  have notAlpha : ∀ code ∈ List.range' 0x30 10, (Char.ofNat code).isAlpha = false := by decide
  have isCode : c.toNat ∈ List.range' 0x30 10 := by
    rw [List.mem_range'_1]
    omega
  rw [isLetter_of_isAscii (by omega), ← Char.ofNat_toNat c]
  exact notAlpha _ isCode

end JamLang.Text
