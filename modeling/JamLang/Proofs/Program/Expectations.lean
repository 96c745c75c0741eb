import JamLang.Proofs.Program.EarliestFault

/-!
# What a report asks for would do

A report on a list of tokens says in words what was expected.  The words are true: the tokens before
the offending one can go on to a program with every token that the words name, and where the end of
the input was expected, they are a program as they are.

That holds although a routine does not know who called it.  Whatever is left to do when a routine
gives up can still be done, so what completes the phrase of the routine can be completed to a
program (`Phrases.Repairable.seq_left`).

Readers of a report have nothing but its words, so the words are read back first (`ofText`).
-/

namespace JamLang

open Grammar Dialogue

/-! ## The words of an expectation -/

namespace Expectation

/-- The expectation that the words stand for. -/
def ofText : String → Option Expectation
  | "'then'" => some .thenWord
  | "'else'" => some .elseWord
  | "')'" => some .closingParen
  | "`:='" => some .bind
  | "`;'" => some .semicolon
  | "variable" => some .variable
  | "`,' or `)'" => some .commaOrParen
  | "'to' or ','" => some .toOrComma
  | "constant, primitive, variable, or `('" => some .operand
  | "unary operator" => some .unaryOperator
  | "binary operator" => some .binaryOperator
  | _ => none

/-- The words name the token. -/
def Names (text : String) (token : Token) : Prop :=
  ∃ expected ∈ ofText text, expected.Admits token

variable {expected : Expectation} {token : Token}

/-- No two expectations that admit a token read alike. -/
theorem ofText_text (admits : expected.Admits token) : ofText expected.text = some expected := by
  cases expected with
  | worded text => exact admits.elim
  | _ => rfl

theorem Admits.names (admits : expected.Admits token) : Names expected.text token :=
  ⟨expected, ofText_text admits, admits⟩

/-- The words of an expectation name nothing that it does not admit. -/
theorem Names.admits {other : Token} (names : Names expected.text other)
    (admits : expected.Admits token) : expected.Admits other := by
  obtain ⟨same, isRead, admitsOther⟩ := names
  rw [ofText_text admits] at isRead
  obtain rfl := Option.some.inj isRead
  exact admitsOther

/-- The end of the input is no token, so no words for tokens name it. -/
theorem Admits.text_ne (admits : expected.Admits token) : expected.text ≠ "end of input" := by
  intro same
  have isRead := ofText_text admits
  rw [same] at isRead
  exact absurd isRead (by simp [ofText])

end Expectation

/-! ## Reports -/

/-- The words of a report are true of the tokens before the offending one, and its message is the
standard sentence about them. -/
structure Diagnostic.IsTrueAfter (before : List Token) (words : String)
    (diagnostic : Diagnostic) : Prop where
  trailing : words = "end of input" → IsProgram before ∧
    ∃ found, diagnostic.found = some found ∧
      diagnostic.message = "Unexpected data after expression: `" ++ found.text ++ "'"
  /-- The words name a token, and every token that they name would do. -/
  unexpected : words ≠ "end of input" → (∃ token, Expectation.Names words token) ∧
    (∀ token, Expectation.Names words token → StartsProgram (before ++ [token])) ∧
    diagnostic.message = "Token `" ++ (diagnostic.found.map Token.text).getD "EOF" ++
      "' appears where " ++ words ++ " was expected"

/-- A fault that is right about the tokens before it is reported in true words. -/
theorem SyntaxFault.IsTrueAfter.diagnostic {before : List Token} {fault : SyntaxFault}
    (isTrue : fault.IsTrueAfter before) :
    ∃ words, fault.diagnostic.expected = some words ∧
      fault.diagnostic.IsTrueAfter before words := by
  cases fault with
  | trailing found =>
    refine ⟨"end of input", rfl, fun _ => ⟨isTrue, found, rfl, rfl⟩, fun notEnd => ?_⟩
    exact absurd rfl notEnd
  | unexpected found expected =>
    obtain ⟨⟨token, admits⟩, goesOn⟩ := isTrue
    refine ⟨expected.text, rfl, fun isEnd => absurd isEnd admits.text_ne, fun _ => ?_⟩
    refine ⟨⟨token, admits.names⟩, fun other names => ?_, rfl⟩
    exact startsProgram_of_viable (goesOn other (names.admits admits))

namespace Parse

/-- Every report on a list of tokens says what was expected, and it is true of the tokens before the
offending one, which was read last: they are a program where the end of the input was expected, and
go on to one with every token that the words name.  The message is the standard sentence. -/
theorem expected_viable (tokens : List Token) (fault : Fault) (diagnostic : Diagnostic)
    (after : Stream) (fails : program.run (.ofTokens tokens) = (.error fault, after))
    (reports : fault.diagnostic? = some diagnostic) :
    ∃ before words, FoundBehind tokens before diagnostic.found after ∧
      diagnostic.expected = some words ∧ diagnostic.IsTrueAfter before words := by
  have parses : parseTokens tokens = .error fault := congrArg Prod.fst fails
  rcases exists_of_parseTokens_error parses with ⟨fault, rfl⟩ | ⟨fault, rfl⟩
  · obtain rfl := Option.some.inj reports
    obtain ⟨before, foundBehind, isTrue⟩ := exists_foundBehind fails
    obtain ⟨words, expects, isTrue⟩ := isTrue.diagnostic
    exact ⟨before, words, foundBehind, expects, isTrue⟩
  · -- A number that cannot be read has no report.
    simp [Fault.diagnostic?] at reports

/-- A condition without the word `then` could go on with it; a second variable behind the first one
stands where the program could have ended. -/
theorem expected_viable_conditional :
    let ifWord : Token := ⟨.ifWord, "if", .unknown⟩
    let name : Token := ⟨.identifier, "x", .unknown⟩
    let missing : SyntaxFault := .unexpected none .thenWord
    let trailing : SyntaxFault := .trailing name
    program.run (.ofTokens [ifWord, name]) = (.error (.grammar missing), ⟨.exhausted, none⟩) ∧
      (∃ before words, FoundBehind [ifWord, name] before none ⟨.exhausted, none⟩ ∧
        missing.diagnostic.expected = some words ∧
        missing.diagnostic.IsTrueAfter before words) ∧
      program.run (.ofTokens [name, name]) = (.error (.grammar trailing), .ofTokens []) ∧
      ∃ before words, FoundBehind [name, name] before (some name) (.ofTokens []) ∧
        trailing.diagnostic.expected = some words ∧
        trailing.diagnostic.IsTrueAfter before words := by
  intro ifWord name missing trailing
  have cutShort : program.run (.ofTokens [ifWord, name]) =
      (.error (.grammar missing), ⟨.exhausted, none⟩) := rfl
  have trails : program.run (.ofTokens [name, name]) =
      (.error (.grammar trailing), .ofTokens []) := rfl
  exact ⟨cutShort, expected_viable _ _ _ _ cutShort rfl, trails, expected_viable _ _ _ _ trails rfl⟩

end Parse

end JamLang
