import JamLang.Text.Blank
import JamLang.Text.DecimalDigit
import JamLang.Text.Quoted

/-!
# Decimal integers

Reading and writing of integers of any size, up to a limit on the number of digits that guards
against conversions that take too long.  A numeral may be surrounded by blanks and may carry a
sign; its digits may come from any script and may be grouped by single underscores.  Leading zeros
are allowed and count towards the limit.
-/

namespace JamLang.Text

/-- The largest number of digits that is converted in either direction. -/
def digitLimit : Nat := 4300

/-- Why a conversion between an integer and its numeral is refused. -/
inductive NumeralFault where
  /-- The text is no numeral. -/
  | malformed (text : String)
  /-- The numeral has more digits than the limit allows. -/
  | tooManyDigits (count : Nat)
  /-- The integer has more digits than may be written. -/
  | unwritable
  deriving DecidableEq, Repr

/-- The text of the fault.  A malformed text is quoted up to a fixed length. -/
def NumeralFault.message : NumeralFault → String
  | .malformed text =>
    "invalid literal for int() with base 10: " ++ String.ofList ((quote text.toList).take 200)
  | .tooManyDigits count =>
    "Exceeds the limit (4300 digits) for integer string conversion: value has " ++ count.repr ++
      " digits; use sys.set_int_max_str_digits() to increase the limit"
  | .unwritable =>
    "Exceeds the limit (4300 digits) for integer string conversion; " ++
      "use sys.set_int_max_str_digits() to increase the limit"

/-- A blank that may surround a numeral: space, tab to carriage return, and the blanks outside
ASCII.  The information separators are none. -/
def isNumeralBlank (c : Char) : Bool :=
  isBlank c && !(0x1C ≤ c.toNat && c.toNat ≤ 0x1F)

/-- A character of the body of a numeral. -/
def isNumeralChar (c : Char) : Bool :=
  (digitValue? c).isSome || c == '_'

/-- The sign of a numeral, `true` for a minus, and what follows it. -/
def splitSign : List Char → Bool × List Char
  | '+' :: rest => (false, rest)
  | '-' :: rest => (true, rest)
  | rest => (false, rest)

/-- The number that a list of decimal digits denotes, the most significant first. -/
def ofDigits (digits : List Nat) : Nat :=
  digits.foldl (fun value digit => 10 * value + digit) 0

/-- Reads an integer.  Misplaced underscores are found first, then the limit is checked, and what
follows the digits comes last. -/
def readInteger (text : String) : Except NumeralFault Int :=
  let (negative, body) := splitSign (text.toList.dropWhile isNumeralBlank)
  let run := body.takeWhile isNumeralChar
  let digits := run.filterMap digitValue?
  if (run.splitOn '_').any List.isEmpty then
    .error (.malformed text)
  else if digitLimit < digits.length then
    .error (.tooManyDigits digits.length)
  else if (body.dropWhile isNumeralChar).all isNumeralBlank then
    .ok (if negative then -(ofDigits digits : Int) else ofDigits digits)
  else
    .error (.malformed text)

/-- The numeral of an integer, without a limit. -/
def numeral (value : Int) : String :=
  String.ofList ((if value < 0 then ['-'] else []) ++ Nat.toDigits 10 value.natAbs)

/-- Writes an integer, unless it has too many digits. -/
def writeInteger (value : Int) : Except NumeralFault String :=
  if (Nat.toDigits 10 value.natAbs).length ≤ digitLimit then .ok (numeral value)
  else .error .unwritable

end JamLang.Text
