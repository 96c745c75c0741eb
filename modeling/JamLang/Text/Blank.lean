import JamLang.Text.Ranges

/-!
# Blank characters

Two notions of white space live side by side.  `isBlank` is the wide one, used where a line is
trimmed or split into words: the separators of Unicode and the controls that separate.  The lexer
has a narrow one of its own.
-/

namespace JamLang.Text

/-- The blank characters: tab to carriage return, the four information separators, space, next
line, and the spaces and separators outside ASCII. -/
def blankRanges : List (Nat × Nat) :=
  [(0x09, 0x0D), (0x1C, 0x20), (0x85, 0x85), (0xA0, 0xA0), (0x1680, 0x1680), (0x2000, 0x200A),
   (0x2028, 0x2029), (0x202F, 0x202F), (0x205F, 0x205F), (0x3000, 0x3000)]

/-- White space in the wide sense. -/
def isBlank (c : Char) : Bool :=
  inRanges blankRanges c

/-- The text without the blanks at its two ends. -/
def trim (text : List Char) : List Char :=
  ((text.dropWhile isBlank).reverse.dropWhile isBlank).reverse

/-- The words of a text: its longest runs of characters that are not blank. -/
def words (text : List Char) : List (List Char) :=
  (text.splitOnP isBlank).filter (!·.isEmpty)

end JamLang.Text
