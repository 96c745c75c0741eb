/-!
# Hexadecimal numbers of fixed width

The escapes of quoted texts and of JSON texts write a code point with a fixed number of lower-case
hexadecimal digits.
-/

namespace JamLang.Text

/-- The last `width` hexadecimal digits of a number, the most significant first. -/
def hexDigits : (width : Nat) → Nat → List Char
  | 0, _ => []
  | width + 1, n => hexDigits width (n / 16) ++ [Nat.digitChar (n % 16)]

theorem length_hexDigits (width n : Nat) : (hexDigits width n).length = width := by
  induction width generalizing n with
  | zero => rfl
  | succ width ih => simp [hexDigits, ih]

end JamLang.Text
