import JamLang.Proofs.Lexer.Positions
import JamLang.Proofs.Lexer.Words
import JamLang.Proofs.Program.LazyLexing

/-!
# Where reports point

Whoever reports on a program that is not well formed points to where the cause stands.  A report
that names a token has the location of the token, which is one of the text; a report on the text has
the location of its cause; and only if the text ends too early there is nothing to point to.
-/

namespace JamLang

open Dialogue

variable {source : String} {tokens : List Token} {cause : Fault} {diagnostic : Diagnostic}

/-! ## What is reported -/

/-- A report on tokens names one of them, or none. -/
theorem found_of_parseTokens {fault : SyntaxFault}
    (fails : parseTokens tokens = .error (.grammar fault)) :
    (∃ token ∈ tokens, fault.diagnostic.found = some token) ∨ fault.diagnostic.found = none := by
  rw [Parse.parseTokens_eq] at fails
  have programEnd := programEnd_ending tokens
  generalize ending tokens = ending at fails programEnd
  cases programEnd with
  | accepted | unreadable => cases fails
  | @refused consumed rest token _ split isFound =>
    obtain rfl := Fault.grammar.inj (Except.error.inj fails)
    exact .inl ⟨token, by simp [split], isFound⟩
  | cutShort isFound =>
    obtain rfl := Fault.grammar.inj (Except.error.inj fails)
    exact .inr isFound

/-- A report on a source names one of its tokens, or all of them were read up to the end. -/
theorem found_of_parse {fault : SyntaxFault} (fails : parse source = .error (.grammar fault)) :
    (∃ token ∈ (Lexer.tokens source).1, fault.diagnostic.found = some token) ∨
      fault.diagnostic.found = none ∧ (Lexer.tokens source).2 = none := by
  rcases lexed : Lexer.tokens source with ⟨tokens, lexical⟩
  cases lexical with
  | none =>
    rw [parse_of_tokens lexed] at fails
    exact (found_of_parseTokens fails).imp_right fun isNone => ⟨isNone, rfl⟩
  | some lexical =>
    rcases parse_of_tokens_fault lexed with ⟨before, same⟩ | ⟨-, comesFirst⟩
    · rw [same] at fails
      obtain ⟨cause, fails', isOfToken⟩ := isOfToken_of_ending before
      obtain rfl := Except.error.inj (fails'.symm.trans fails)
      cases found_of_parseTokens fails with
      | inl isToken => exact .inl isToken
      | inr isNone => exact absurd isOfToken (Fault.not_isOfToken isNone)
    · cases comesFirst.symm.trans fails

/-- A fault of the text that is reported is the one behind its tokens. -/
theorem fault_of_parse_lexical {fault : LexicalFault}
    (fails : parse source = .error (.lexical fault)) : (Lexer.tokens source).2 = some fault := by
  have ofTokens (tokens : List Token) : parseTokens tokens ≠ .error (.lexical fault) := by
    intro fails
    rcases Parse.exists_of_parseTokens_error fails with ⟨_, isOther⟩ | ⟨_, isOther⟩
    all_goals cases isOther
  rcases lexed : Lexer.tokens source with ⟨tokens, lexical⟩
  cases lexical with
  | none => exact absurd ((parse_of_tokens lexed).symm.trans fails) (ofTokens tokens)
  | some lexical =>
    rcases parse_of_tokens_fault lexed with ⟨-, same⟩ | ⟨-, comesFirst⟩
    · exact absurd (same.symm.trans fails) (ofTokens tokens)
    · cases comesFirst.symm.trans fails
      rfl

theorem SyntaxFault.loc_diagnostic (fault : SyntaxFault) :
    fault.diagnostic.loc = (fault.diagnostic.found.map Token.loc).getD .unknown := by
  cases fault with
  | unexpected | trailing => rfl

/-! ## Where it stands -/

/-- What a report on a source points to. -/
inductive Diagnostic.PointsTo (source : String) (diagnostic : Diagnostic) : Prop where
  /-- A token of the source, at its offset. -/
  | token {token : Token} {offset : Nat} (isToken : token ∈ (Lexer.tokens source).1)
      (isFound : diagnostic.found = some token) (stands : token.StandsAt source.toList offset)
      (isLoc : diagnostic.loc = .ofOffset source.toList offset)
  /-- The end of a source that has tokens up to its end. -/
  | ending (isFound : diagnostic.found = none) (isLoc : diagnostic.loc = ⟨0, 0⟩)
      (isLexed : (Lexer.tokens source).2 = none)
  /-- The cause of a fault of the text, at its offset. -/
  | text {fault : LexicalFault} {offset : Nat} (isFault : (Lexer.tokens source).2 = some fault)
      (isReport : diagnostic = fault.diagnostic) (isFound : diagnostic.found = none)
      (stands : fault.StandsAt source.toList offset)
      (isLoc : diagnostic.loc = .ofOffset source.toList offset)

theorem pointsTo_of_lexical {fault : LexicalFault}
    (isFault : (Lexer.tokens source).2 = some fault) :
    fault.diagnostic.PointsTo source := by
  have inOrder := Lexer.standInOrder_tokens source
  rw [isFault] at inOrder
  obtain ⟨offset, stands⟩ := inOrder.exists_offset_fault
  have isFound : fault.diagnostic.found = none := by cases fault <;> rfl
  exact .text isFault rfl isFound stands stands.loc_diagnostic

theorem pointsTo_of_grammar {fault : SyntaxFault}
    (fails : parse source = .error (.grammar fault)) : fault.diagnostic.PointsTo source := by
  have isLoc := fault.loc_diagnostic
  rcases found_of_parse fails with ⟨token, isToken, isFound⟩ | ⟨isFound, isLexed⟩
  · obtain ⟨offset, stands⟩ := (Lexer.standInOrder_tokens source).exists_offset isToken
    rw [isFound] at isLoc
    exact .token isToken isFound stands (isLoc.trans stands.loc)
  · rw [isFound] at isLoc
    exact .ending isFound isLoc isLexed

/-- The tokens of a source, and the fault behind them, stand in the source where their locations
say, in order and without overlap; and every report on the source, by the lexer or by the parser,
has the location of what it points to. -/
theorem tokens_inPlace (source : String) :
    Lexer.StandInOrder source.toList 0 (Lexer.tokens source).1 (Lexer.tokens source).2 ∧
      (∀ fault, Lexer.tokenize source = .error fault → fault.diagnostic.PointsTo source) ∧
      ∀ cause diagnostic, parse source = .error cause → cause.diagnostic? = some diagnostic →
        diagnostic.PointsTo source := by
  refine ⟨Lexer.standInOrder_tokens source, ?_, ?_⟩
  · intro fault fails
    exact pointsTo_of_lexical (Lexer.tokenize_eq_error_iff.1 fails)
  · intro cause diagnostic fails reports
    cases cause with
    | lexical fault =>
      obtain rfl := Option.some.inj reports
      exact pointsTo_of_lexical (fault_of_parse_lexical fails)
    | grammar fault =>
      obtain rfl := Option.some.inj reports
      exact pointsTo_of_grammar fails
    | numeral | notConstant | noLeaf | noToken | failedAssertion | tooDeep => cases reports

/-- A comment that is never closed behind one that is, and an argument in the second line without a
comma before it. -/
theorem tokens_inPlace_call :
    let name : Token := ⟨.identifier, "y", ⟨2, 2⟩⟩
    let missing : SyntaxFault := .unexpected (some name) .commaOrParen
    (Lexer.tokenize "f(/*\n*//*/" = .error (.unterminatedComment ⟨2, 3⟩) ∧
        (LexicalFault.unterminatedComment ⟨2, 3⟩).diagnostic.PointsTo "f(/*\n*//*/") ∧
      parse "f(x\n y)" = .error (.grammar missing) ∧
      (Fault.grammar missing).diagnostic? = some missing.diagnostic ∧
      missing.diagnostic.PointsTo "f(x\n y)" := by
  intro name missing
  have fails : Lexer.tokenize "f(/*\n*//*/" = .error (.unterminatedComment ⟨2, 3⟩) :=
    Lexer.tokenize_eq_error_iff.2 (by decide +kernel)
  have lexed : Lexer.tokens "f(x\n y)" =
      ([⟨.identifier, "f", ⟨1, 1⟩⟩, ⟨.leftParen, "(", ⟨1, 2⟩⟩, ⟨.identifier, "x", ⟨1, 3⟩⟩, name,
        ⟨.rightParen, ")", ⟨2, 3⟩⟩], none) := by decide +kernel
  have refuses : parse "f(x\n y)" = .error (.grammar missing) :=
    (parse_of_tokens lexed).trans rfl
  exact ⟨⟨fails, (tokens_inPlace _).2.1 _ fails⟩, refuses, rfl,
    (tokens_inPlace _).2.2 _ _ refuses rfl⟩

end JamLang
