import JamLang.Proofs.Program.Acceptance
import JamLang.Proofs.Program.LazyLexing
import JamLang.Proofs.Source.Printing

/-!
# Printing and parsing a tree gives it back

The source text of a well-formed tree parses to the same tree, except that nodes know where they
stand in the text.  The printer and the parser meet in the words of the text: the printer spells
words that read as the tree, the lexer takes tokens of these words off the text, and the parser
builds the one tree that the grammar derives from them.
-/

namespace JamLang

open Grammar Node Lexer

/-- A text whose words read as a tree parses to the tree, up to locations. -/
theorem parse_of_reads {text : String} {words : List Word} {tree : Node}
    (spells : Spells text.toList words)
    (reads : Reads (Derives .expression) words (IsCopy tree)) :
    ∃ copy, parse text = .ok copy ∧ copy.unlocated = tree.unlocated := by
  obtain ⟨tokens, lexed, areWords⟩ := tokens_of_spells spells
  obtain ⟨copy, derives, same⟩ := reads.derives areWords
  have readable : Readable tokens := (areWords ▸ reads.readable).readable
  exact ⟨copy, (parse_of_tokens lexed).trans (parseTokens_of_derives derives readable), same⟩

/-- Every well-formed tree has a source text, which parses to the tree up to locations. -/
theorem parse_source (tree : Node) (formed : WellFormed .expression tree) :
    ∃ text copy, tree.source = .ok text ∧ parse text = .ok copy ∧
      copy.unlocated = tree.unlocated := by
  obtain ⟨text, words, prints⟩ : IsPrinted tree := isPrintedAs_of_wellFormed formed
  obtain ⟨copy, parses, same⟩ := parse_of_reads prints.spells prints.reads
  exact ⟨text, copy, prints.source, parses, same⟩

/-- The call of a function that is made on the spot, as an operand. -/
theorem parse_source_call :
    let function := Node.mapTo [.var "x" .unknown] (.var "x" .unknown) .unknown
    let call := Node.mk .call (.node function) [.constant (.int 1) "int" .unknown] ⟨3, 7⟩ none
    WellFormed .expression (.unary "-" call .unknown) ∧
      ∃ text copy, (unary "-" call .unknown).source = .ok text ∧ parse text = .ok copy ∧
        copy.unlocated = (unary "-" call .unknown).unlocated := by
  intro function call
  have isName : IsVariableName "x" := ⟨by decide, by decide⟩
  have areVariables : ∀ name ∈ [Node.var "x" .unknown], IsVariable name := by
    intro name isVariable
    rw [List.mem_singleton] at isVariable
    exact ⟨"x", .unknown, isVariable, isName⟩
  have one : WellFormed .expression (.constant (.int 1) "int" .unknown) :=
    .integer (show (Nat.toDigits 10 1).length ≤ Text.digitLimit by decide)
  have formed : WellFormed .expression (.unary "-" call .unknown) :=
    .unary (by decide) (.call (.mapTo areVariables (.var isName)) (by simpa using one))
  exact ⟨formed, parse_source _ formed⟩

end JamLang
