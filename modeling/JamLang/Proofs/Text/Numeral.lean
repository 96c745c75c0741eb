import JamLang.Proofs.Text.Ascii
import JamLang.Proofs.Text.Run
import JamLang.Text.Numeral
import Mathlib.Data.List.Basic
import Mathlib.Data.List.TakeWhile

/-!
# Numerals of natural numbers

The numeral of a natural number is a list of ASCII digits, and reading it gives the number back.
-/

namespace JamLang.Text

/-! ## ASCII digits -/

section Digit

variable {c : Char}

theorem digitValue?_of_isDigit (isDigit : c.isDigit = true) :
    digitValue? c = some (c.toNat - '0'.toNat) := by
  obtain ⟨least, greatest⟩ := toNat_of_isDigit isDigit
  have inRun : (0x30 ≤ c.toNat && c.toNat < 0x30 + 10) = true := by
    simp only [Bool.and_eq_true, decide_eq_true_eq]
    omega
  simp [digitValue?, digitZeros, inRun]

theorem isNumeralChar_of_isDigit (isDigit : c.isDigit = true) : isNumeralChar c = true := by
  simp [isNumeralChar, digitValue?_of_isDigit isDigit]

theorem not_isNumeralBlank_of_isDigit (isDigit : c.isDigit = true) : isNumeralBlank c = false := by
  obtain ⟨least, greatest⟩ := toNat_of_isDigit isDigit
  have notBlank : isBlank c = false := by
    rw [Bool.eq_false_iff]
    intro isBlank
    obtain ⟨range, isRange, within⟩ := inRanges_iff.1 isBlank
    have apart : ∀ range ∈ blankRanges, range.2 < 0x30 ∨ 0x39 < range.1 := by decide
    rcases apart range isRange with below | above <;> omega
  simp [isNumeralBlank, notBlank]

theorem splitSign_of_isDigit (isDigit : c.isDigit = true) (rest : List Char) :
    splitSign (c :: rest) = (false, c :: rest) := by
  unfold splitSign
  split
  · next same =>
    obtain ⟨rfl, -⟩ := List.cons.inj same
    exact absurd isDigit (by decide)
  · next same =>
    obtain ⟨rfl, -⟩ := List.cons.inj same
    exact absurd isDigit (by decide)
  · rfl

end Digit

/-! ## Numerals in front of a text -/

/-- No digit comes first. -/
def StartsNoDigit (text : List Char) : Prop :=
  ∀ c ∈ text.head?, c.isDigit = false

theorem toList_numeral (value : Int) :
    (numeral value).toList =
      (if value < 0 then ['-'] else []) ++ Nat.toDigits 10 value.natAbs := by
  rw [numeral, String.toList_ofList]

theorem isDigit_of_mem_toDigits {value : Nat} :
    ∀ c ∈ Nat.toDigits 10 value, c.isDigit = true :=
  fun _ isPart => Nat.isDigit_of_mem_toDigits (by decide) (by decide) isPart

/-- A numeral is made of digits, but for its sign. -/
theorem sign_or_isDigit_of_mem_numeral {value : Int} :
    ∀ c ∈ (numeral value).toList, c = '-' ∨ c.isDigit = true := by
  rw [toList_numeral, List.forall_mem_append]
  refine ⟨?_, fun c isPart => .inr (isDigit_of_mem_toDigits c isPart)⟩
  split <;> simp

theorem startsNoDigit_nil : StartsNoDigit [] := nofun

theorem startsNoDigit_cons {c : Char} (notDigit : c.isDigit = false) (tail : List Char) :
    StartsNoDigit (c :: tail) := by
  simpa [StartsNoDigit] using notDigit

theorem longestRun_toDigits {rest : List Char} (value : Nat) (stops : StartsNoDigit rest) :
    LongestRun Char.isDigit (Nat.toDigits 10 value) rest :=
  ⟨isDigit_of_mem_toDigits, stops⟩

theorem toDigits_append_inj {a b : Nat} {rest rest' : List Char} (stops : StartsNoDigit rest)
    (stops' : StartsNoDigit rest')
    (same : Nat.toDigits 10 a ++ rest = Nat.toDigits 10 b ++ rest') : a = b ∧ rest = rest' := by
  have longest := longestRun_toDigits a stops
  have longest' := longestRun_toDigits b stops'
  have sameDigits : Nat.toDigits 10 a = Nat.toDigits 10 b := by
    rw [← longest.takeWhile, same, longest'.takeWhile]
  refine ⟨?_, List.append_cancel_left (sameDigits ▸ same)⟩
  rw [← Nat.ofDigitChars_ten_toDigits (n := a), sameDigits, Nat.ofDigitChars_ten_toDigits]

theorem exists_toDigits_cons (value : Nat) :
    ∃ c more, Nat.toDigits 10 value = c :: more ∧ c.isDigit = true := by
  have areDigits : ∀ c ∈ Nat.toDigits 10 value, c.isDigit = true := isDigit_of_mem_toDigits
  obtain ⟨c, more, isCons⟩ :=
    List.exists_cons_of_ne_nil (Nat.toDigits_ne_nil (b := 10) (n := value))
  rw [isCons] at areDigits
  exact ⟨c, more, isCons, areDigits c List.mem_cons_self⟩

/-- The first character of a numeral is a sign or a digit. -/
theorem exists_numeral_cons (value : Int) :
    ∃ c more, (numeral value).toList = c :: more ∧ (c = '-' ∨ c.isDigit = true) := by
  rw [toList_numeral]
  split
  · exact ⟨_, _, rfl, .inl rfl⟩
  · obtain ⟨c, more, isCons, isDigit⟩ := exists_toDigits_cons value.natAbs
    exact ⟨c, more, isCons, .inr isDigit⟩

theorem toDigits_append_ne_sign (value : Nat) (rest tail : List Char) :
    Nat.toDigits 10 value ++ rest ≠ '-' :: tail := by
  obtain ⟨c, more, isCons, isDigit⟩ := exists_toDigits_cons value
  rw [isCons]
  intro same
  obtain ⟨rfl, -⟩ := List.cons.inj same
  exact absurd isDigit (by decide)

/-- A number is known by its numeral, if no digit stands behind that. -/
theorem numeral_append_inj {a b : Int} {rest rest' : List Char} (stops : StartsNoDigit rest)
    (stops' : StartsNoDigit rest')
    (same : (numeral a).toList ++ rest = (numeral b).toList ++ rest') : a = b ∧ rest = rest' := by
  rw [toList_numeral, toList_numeral] at same
  split at same <;> split at same
  · obtain ⟨sameSize, sameRest⟩ := toDigits_append_inj stops stops' (List.cons.inj same).2
    exact ⟨by omega, sameRest⟩
  · exact (toDigits_append_ne_sign _ _ _ same.symm).elim
  · exact (toDigits_append_ne_sign _ _ _ same).elim
  · obtain ⟨sameSize, sameRest⟩ := toDigits_append_inj stops stops' same
    exact ⟨by omega, sameRest⟩

theorem numeral_inj {a b : Int} : numeral a = numeral b ↔ a = b := by
  refine ⟨fun same => ?_, congrArg numeral⟩
  refine (numeral_append_inj startsNoDigit_nil startsNoDigit_nil ?_).1
  rw [same]

/-! ## Reading a numeral back -/

/-- Digits are read as the number they denote, unless they are too many. -/
theorem readInteger_digits {digits : List Char} (notEmpty : digits ≠ [])
    (areDigits : ∀ c ∈ digits, c.isDigit = true) :
    readInteger (String.ofList digits) =
      if digitLimit < digits.length then .error (.tooManyDigits digits.length)
      else .ok (Nat.ofDigitChars 10 digits 0) := by
  obtain ⟨first, rest, rfl⟩ := List.exists_cons_of_ne_nil notEmpty
  have isFirst : first.isDigit = true := areDigits first List.mem_cons_self
  have noBlank : (first :: rest).dropWhile isNumeralBlank = first :: rest :=
    List.dropWhile_cons_of_neg (by simp [not_isNumeralBlank_of_isDigit isFirst])
  have areNumeralChars : ∀ c ∈ first :: rest, isNumeralChar c = true :=
    fun c isDigit => isNumeralChar_of_isDigit (areDigits c isDigit)
  have run : (first :: rest).takeWhile isNumeralChar = first :: rest :=
    List.takeWhile_eq_self_iff.2 areNumeralChars
  have left : (first :: rest).dropWhile isNumeralChar = [] :=
    List.dropWhile_eq_nil_iff.2 areNumeralChars
  have values : (first :: rest).filterMap digitValue? =
      (first :: rest).map fun c => c.toNat - '0'.toNat :=
    List.filterMap_eq_map_iff_forall_eq_some.2
      fun c isDigit => digitValue?_of_isDigit (areDigits c isDigit)
  have noUnderscore : '_' ∉ first :: rest := fun isDigit => absurd (areDigits _ isDigit) (by decide)
  have pieces : (first :: rest).splitOn '_' = [first :: rest] :=
    List.splitOn_eq_singleton noUnderscore
  have denotes : ofDigits ((first :: rest).map fun c => c.toNat - '0'.toNat) =
      Nat.ofDigitChars 10 (first :: rest) 0 := by
    rw [ofDigits, List.foldl_map, Nat.ofDigitChars_eq_foldl]
  simp only [readInteger, String.toList_ofList, noBlank, splitSign_of_isDigit isFirst, run, left,
    values, pieces, denotes, List.length_map]
  rw [if_neg (by simp)]
  rfl

theorem readInteger_of_digits {digits : List Char} (notEmpty : digits ≠ [])
    (areDigits : ∀ c ∈ digits, c.isDigit = true) (fits : digits.length ≤ digitLimit) :
    readInteger (String.ofList digits) = .ok (Nat.ofDigitChars 10 digits 0) := by
  rw [readInteger_digits notEmpty areDigits, if_neg (Nat.not_lt.2 fits)]

/-- Digits denote a number that has no more digits than they are. -/
theorem length_toDigits_ofDigitChars_le {digits : List Char} (notEmpty : digits ≠ [])
    (areDigits : ∀ c ∈ digits, c.isDigit = true) :
    (Nat.toDigits 10 (Nat.ofDigitChars 10 digits 0)).length ≤ digits.length := by
  rw [Nat.length_toDigits_le_iff (by decide) (List.length_pos_iff.2 notEmpty)]
  clear notEmpty
  induction digits with
  | nil => decide
  | cons c digits ih =>
    obtain ⟨isDigit, areDigits⟩ := List.forall_mem_cons.1 areDigits
    obtain ⟨-, greatest⟩ := toNat_of_isDigit isDigit
    have small : c.toNat - '0'.toNat ≤ 9 := by
      have zero : '0'.toNat = 0x30 := rfl
      omega
    have below := ih areDigits
    have product := Nat.mul_le_mul_left (10 ^ digits.length) small
    rw [Nat.ofDigitChars_cons, Nat.mul_zero, Nat.zero_add, Nat.ofDigitChars_eq_ofDigitChars_zero,
      List.length_cons, Nat.pow_succ]
    omega

theorem numeral_natCast (value : Nat) :
    numeral value = String.ofList (Nat.toDigits 10 value) := by
  have notNegative : ¬ (value : Int) < 0 := by omega
  rw [numeral, if_neg notNegative]
  rfl

/-- A natural number is read back from its numeral. -/
theorem readInteger_numeral {value : Nat}
    (fits : (Nat.toDigits 10 value).length ≤ digitLimit) :
    readInteger (numeral value) = .ok value := by
  rw [numeral_natCast, readInteger_of_digits Nat.toDigits_ne_nil isDigit_of_mem_toDigits fits,
    Nat.ofDigitChars_ten_toDigits]

end JamLang.Text
