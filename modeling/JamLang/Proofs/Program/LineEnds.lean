import JamLang.Command
import JamLang.Proofs.Lexer.LineEnds
import JamLang.Proofs.Program.LazyLexing
import JamLang.Proofs.Text.Utf8

/-!
# Programs from texts and from files

The text of a program file is read with its line ends folded, while a program that is given as a
text is taken as it is.  If the carriage returns of a text only stand where its lines end, folding
leaves them out, and then nothing about its tokens changes.  So a file with this text is parsed like
the text.
-/

namespace JamLang

open Text (ReturnsEndLines withoutReturns)

/-- A file with a text is read as the text without its carriage returns. -/
theorem decodeProgram_encode {source : String} (endLines : ReturnsEndLines source.toList) :
    decodeProgram (Text.Utf8.encode source) = .ok (withoutReturns source) := by
  rw [decodeProgram, Text.Utf8.decode_encode, withoutReturns,
    ← Text.foldLineEnds_eq_dropReturns endLines]
  rfl

/-- Leaving out the carriage returns before line feeds changes no token, no fault of the text, and
nothing that parsing comes to.  If there are no others, a file with the text comes to the same as
the text itself. -/
theorem parse_withoutReturns (source : String) :
    Lexer.tokenize (withoutReturns source) = Lexer.tokenize source ∧
      parse (withoutReturns source) = parse source ∧
      (ReturnsEndLines source.toList →
        parseBytes (Text.Utf8.encode source) = (parse source).mapError .parse) := by
  have sameTokens := Lexer.tokens_withoutReturns source
  have sameOutcome : parse (withoutReturns source) = parse source := parse_congr sameTokens
  refine ⟨?_, sameOutcome, fun endLines => ?_⟩
  · rw [Lexer.tokenize, sameTokens, Lexer.tokenize]
  · simp only [parseBytes, decodeProgram_encode endLines, sameOutcome]

/-- A sum in three lines, with a comment that goes on over the end of one. -/
theorem parse_withoutReturns_comment :
    let source := "a\r\n/*\r\n*/ +\r\n b"
    let sum : Node := .binary "+" (.var "a" ⟨1, 1⟩) (.var "b" ⟨4, 2⟩) ⟨3, 4⟩
    withoutReturns source = "a\n/*\n*/ +\n b" ∧
      Lexer.tokenize (withoutReturns source) = Lexer.tokenize source ∧
      ReturnsEndLines source.toList ∧
      parseBytes (Text.Utf8.encode source) = .ok sum := by
  intro source sum
  have endLines : ReturnsEndLines source.toList := by
    simp [source, Text.returnsEndLines_cons, Text.returnsEndLines_nil]
  have lexed : Lexer.tokens source =
      ([⟨.identifier, "a", ⟨1, 1⟩⟩, ⟨.operator, "+", ⟨3, 4⟩⟩, ⟨.identifier, "b", ⟨4, 2⟩⟩], none) := by
    decide +kernel
  have parses : parse source = .ok sum := (parse_of_tokens lexed).trans rfl
  obtain ⟨sameTokens, -, fromFile⟩ := parse_withoutReturns source
  refine ⟨by decide +kernel, sameTokens, endLines, ?_⟩
  rw [fromFile endLines, parses]
  rfl

end JamLang
