import JamLang.Json
import Mathlib.Algebra.Group.Nat.Defs
import Mathlib.Data.List.Basic

/-!
# Characters and strings in JSON texts

There are four ways to write a character in a string, and which one is taken, and for which
character, is seen from the text itself: no escape is the start of another one, and none starts with
the quotation mark that ends a string.  A code unit that stands alone is never taken for the first
one of a pair, because surrogates are no characters.
-/

namespace JamLang

variable {c d : Char} {first second rest rest' : List Char}

/-! ## Plain texts -/

/-- A line feed or a printable character of ASCII. -/
def Text.IsPlain (c : Char) : Prop :=
  c = '\n' ∨ 0x20 ≤ c.toNat ∧ c.toNat ≤ 0x7E

instance : DecidablePred Text.IsPlain := fun _ => inferInstanceAs (Decidable (_ ∨ _))

theorem Text.isPlain_of_mem_hexDigits {width n : Nat} :
    ∀ c ∈ Text.hexDigits width n, Text.IsPlain c := by
  have isPlain_digitChar : ∀ digit < 16, Text.IsPlain (Nat.digitChar digit) := by decide
  induction width generalizing n with
  | zero => simp [Text.hexDigits]
  | succ width ih =>
    rw [Text.hexDigits, List.forall_mem_append, List.forall_mem_singleton]
    exact ⟨ih, isPlain_digitChar _ (Nat.mod_lt n (by decide))⟩

/-! ## Units -/

/-- A number that fits into the width is known by its digits. -/
theorem Text.hexDigits_inj {width m n : Nat} (fits : m < 16 ^ width) (fits' : n < 16 ^ width)
    (same : Text.hexDigits width m = Text.hexDigits width n) : m = n := by
  have digitChar_inj : ∀ a < 16, ∀ b < 16, Nat.digitChar a = Nat.digitChar b → a = b := by decide
  induction width generalizing m n with
  | zero => omega
  | succ width ih =>
    obtain ⟨sameHigh, sameLow⟩ := List.append_inj' same rfl
    have high := ih (by omega) (by omega) sameHigh
    have low := digitChar_inj _ (Nat.mod_lt m (by decide)) _ (Nat.mod_lt n (by decide))
      (List.head_eq_of_cons_eq sameLow)
    omega

namespace Json

theorem escapeUnit_append_inj {m n : Nat} (isUnit : m < 0x10000) (isUnit' : n < 0x10000)
    (same : escapeUnit m ++ rest = escapeUnit n ++ rest') : m = n ∧ rest = rest' := by
  obtain ⟨sameUnit, sameRest⟩ := List.append_inj same (by simp [escapeUnit, Text.length_hexDigits])
  have sameDigits : Text.hexDigits 4 m = Text.hexDigits 4 n := by simpa [escapeUnit] using sameUnit
  exact ⟨Text.hexDigits_inj isUnit isUnit' sameDigits, sameRest⟩

/-! ## Characters -/

/-- The characters that have an escape of their own, with the letter of that. -/
def shortEscapes : List (Char × Char) :=
  [('"', '"'), ('\\', '\\'), ('\n', 'n'), ('\r', 'r'), ('\t', 't'), ('\x08', 'b'), ('\x0c', 'f')]

/-- The ways to write a character. -/
inductive Escaped (c : Char) : List Char → Prop where
  | plain (isPlain : Text.IsPlain c) (notQuote : c ≠ '"') (notBackslash : c ≠ '\\') : Escaped c [c]
  | short {letter : Char} (isShort : (c, letter) ∈ shortEscapes) : Escaped c ['\\', letter]
  | unit (isUnit : c.toNat < 0x10000) : Escaped c (escapeUnit c.toNat)
  | pair {high low : Nat} (isHigh : high < 0x400) (isLow : low < 0x400)
      (isPair : c.toNat = 0x10000 + 0x400 * high + low) :
      Escaped c (escapeUnit (0xD800 + high) ++ escapeUnit (0xDC00 + low))

/-- Surrogates are no characters. -/
theorem toNat_valid (c : Char) : c.toNat < 0xD800 ∨ 0xDFFF < c.toNat ∧ c.toNat < 0x110000 :=
  c.valid

theorem escaped_escape (c : Char) : Escaped c (escape c) := by
  unfold escape
  split_ifs with isQuoted isFeed isReturn isTab isBackspace isFormFeed isPrintable isUnit
  · rcases isQuoted with rfl | rfl <;> exact .short (by decide)
  · exact .short (by simp [shortEscapes, isFeed])
  · exact .short (by simp [shortEscapes, isReturn])
  · exact .short (by simp [shortEscapes, isTab])
  · exact .short (by simp [shortEscapes, isBackspace])
  · exact .short (by simp [shortEscapes, isFormFeed])
  · exact .plain (.inr isPrintable) (fun same => isQuoted (.inl same)) fun same =>
      isQuoted (.inr same)
  · exact .unit isUnit
  · have valid := toNat_valid c
    exact .pair (by omega) (by omega) (by omega)

/-- No escape starts with the mark that ends a string. -/
theorem Escaped.ne_quote (escaped : Escaped c first) (tail : List Char) :
    first ++ rest ≠ '"' :: tail := by
  cases escaped with
  | plain _ notQuote => simp [notQuote]
  | short | unit | pair => simp [escapeUnit]

theorem Escaped.isPlain (escaped : Escaped c first) : ∀ c ∈ first, Text.IsPlain c := by
  have isPlain_short : ∀ entry ∈ shortEscapes, Text.IsPlain entry.2 := by decide
  have isPlain_unit (n : Nat) : ∀ c ∈ escapeUnit n, Text.IsPlain c := by
    rw [escapeUnit, List.forall_mem_cons, List.forall_mem_cons]
    exact ⟨by decide, by decide, Text.isPlain_of_mem_hexDigits⟩
  cases escaped with
  | plain isPlain => simpa using isPlain
  | short isShort => simpa using ⟨by decide, isPlain_short _ isShort⟩
  | unit => exact isPlain_unit _
  | pair => exact List.forall_mem_append.2 ⟨isPlain_unit _, isPlain_unit _⟩

/-- What is written as one unit does not start like a pair, whose first unit is a surrogate. -/
theorem escapeUnit_ne_pair {high low : Nat} (isUnit : c.toNat < 0x10000) (isHigh : high < 0x400) :
    escapeUnit c.toNat ++ rest ≠
      escapeUnit (0xD800 + high) ++ escapeUnit (0xDC00 + low) ++ rest' := by
  intro same
  rw [List.append_assoc] at same
  obtain ⟨sameCode, -⟩ := escapeUnit_append_inj isUnit (by omega) same
  have valid := toNat_valid c
  omega

/-- A character is known by its escape, and no escape is the start of another one. -/
theorem Escaped.unique (escaped : Escaped c first) (escaped' : Escaped d second)
    (same : first ++ rest = second ++ rest') : c = d ∧ rest = rest' := by
  have letter_ne_u : ∀ entry ∈ shortEscapes, entry.2 ≠ 'u' := by decide
  have letter_inj : ∀ entry ∈ shortEscapes, ∀ entry' ∈ shortEscapes,
      entry.2 = entry'.2 → entry.1 = entry'.1 := by decide
  -- Two escapes of different sorts differ in one of their first two characters, but for a unit and
  -- a pair.
  cases escaped with
  | plain _ _ notBackslash =>
    cases escaped' with
    | plain => simpa using same
    | short | unit | pair => simp [escapeUnit, notBackslash] at same
  | short isShort =>
    cases escaped' with
    | plain _ _ notBackslash => simp [Ne.symm notBackslash] at same
    | short isShort' =>
      obtain ⟨sameLetter, sameRest⟩ : _ ∧ rest = rest' := by simpa using same
      exact ⟨letter_inj _ isShort _ isShort' sameLetter, sameRest⟩
    | unit | pair => simp [escapeUnit, letter_ne_u _ isShort] at same
  | unit isUnit =>
    cases escaped' with
    | plain _ _ notBackslash => simp [escapeUnit, Ne.symm notBackslash] at same
    | short isShort => simp [escapeUnit, Ne.symm (letter_ne_u _ isShort)] at same
    | unit isUnit' =>
      obtain ⟨sameCode, sameRest⟩ := escapeUnit_append_inj isUnit isUnit' same
      exact ⟨Char.toNat_inj.1 sameCode, sameRest⟩
    | pair isHigh => exact (escapeUnit_ne_pair isUnit isHigh same).elim
  | pair isHigh isLow isPair =>
    cases escaped' with
    | plain _ _ notBackslash => simp [escapeUnit, Ne.symm notBackslash] at same
    | short isShort => simp [escapeUnit, Ne.symm (letter_ne_u _ isShort)] at same
    | unit isUnit => exact (escapeUnit_ne_pair isUnit isHigh same.symm).elim
    | pair isHigh' isLow' isPair' =>
      rw [List.append_assoc, List.append_assoc] at same
      obtain ⟨sameHigh, sameTail⟩ := escapeUnit_append_inj (by omega) (by omega) same
      obtain ⟨sameLow, sameRest⟩ := escapeUnit_append_inj (by omega) (by omega) sameTail
      exact ⟨Char.toNat_inj.1 (by omega), sameRest⟩

/-! ## Strings -/

theorem toList_renderString (text : String) :
    (renderString text).toList = '"' :: text.toList.flatMap escape ++ ['"'] := by
  rw [renderString, String.toList_ofList]

theorem flatMap_escape_inj {text text' : List Char}
    (same : text.flatMap escape ++ '"' :: rest = text'.flatMap escape ++ '"' :: rest') :
    text = text' ∧ rest = rest' := by
  induction text generalizing text' with
  | nil =>
    cases text' with
    | nil => simpa using same
    | cons d text' =>
      rw [List.flatMap_cons, List.append_assoc] at same
      exact ((escaped_escape d).ne_quote _ same.symm).elim
  | cons c text ih =>
    cases text' with
    | nil =>
      rw [List.flatMap_cons, List.append_assoc] at same
      exact ((escaped_escape c).ne_quote _ same).elim
    | cons d text' =>
      rw [List.flatMap_cons, List.flatMap_cons, List.append_assoc, List.append_assoc] at same
      obtain ⟨rfl, sameRest⟩ := (escaped_escape c).unique (escaped_escape d) same
      obtain ⟨rfl, sameEnd⟩ := ih sameRest
      exact ⟨rfl, sameEnd⟩

/-- A string is known by its text, and ends there. -/
theorem renderString_append_inj {text text' : String}
    (same : (renderString text).toList ++ rest = (renderString text').toList ++ rest') :
    text = text' ∧ rest = rest' := by
  rw [toList_renderString, toList_renderString] at same
  obtain ⟨sameText, sameRest⟩ := flatMap_escape_inj (by simpa using same)
  exact ⟨String.toList_inj.1 sameText, sameRest⟩

theorem isPlain_of_mem_renderString {text : String} :
    ∀ c ∈ (renderString text).toList, Text.IsPlain c := by
  have isPlain_quote : Text.IsPlain '"' := by decide
  rw [toList_renderString, List.forall_mem_append, List.forall_mem_cons, List.forall_mem_flatMap,
    List.forall_mem_singleton]
  exact ⟨⟨isPlain_quote, fun c _ => (escaped_escape c).isPlain⟩, isPlain_quote⟩

end Json

end JamLang
