import JamLang.Text.Hex
import JamLang.Text.Printable

/-!
# Quoted texts

A text in quotes on a single line.  It stands between single quotes, unless it holds a single
quote and no double quote.  The quote in use and the backslash are escaped by a backslash, line
feed, carriage return and tab have short escapes, and any other character that is not printable
is written by its code point with two, four or eight hexadecimal digits.
-/

namespace JamLang.Text

/-- The mark a text is quoted with. -/
def quoteMark (text : List Char) : Char :=
  if '\'' ∈ text ∧ '"' ∉ text then '"' else '\''

/-- A character as it stands between the given quotes. -/
def escapeQuoted (mark c : Char) : List Char :=
  if c = mark ∨ c = '\\' then ['\\', c]
  else if c = '\n' then ['\\', 'n']
  else if c = '\r' then ['\\', 'r']
  else if c = '\t' then ['\\', 't']
  else if isPrintable c then [c]
  else if c.toNat < 0x100 then '\\' :: 'x' :: hexDigits 2 c.toNat
  else if c.toNat < 0x10000 then '\\' :: 'u' :: hexDigits 4 c.toNat
  else '\\' :: 'U' :: hexDigits 8 c.toNat

/-- The quoted form of a text. -/
def quote (text : List Char) : List Char :=
  quoteMark text :: text.flatMap (escapeQuoted (quoteMark text)) ++ [quoteMark text]

/-- The quoted form of a string. -/
def quoteString (text : String) : String :=
  String.ofList (quote text.toList)

end JamLang.Text
