import JamLang.Proofs.Lexer.LongestMatch
import JamLang.Proofs.Lexer.Words

/-!
# The tokens of a text

A token of a text is a lexeme that stands in the text, at the location that the token has.  So its
text is a word, a number or a symbol, as its kind says, and the location is no further from the
start than the text is long.
-/

namespace JamLang.Lexer

variable {kind : TokenKind} {lexeme rest text : List Char} {loc : Loc} {token : Token}

/-! ## Lexemes of a kind -/

/-- The tables of reserved words and of symbols name no identifier, no built-in function and no
integer. -/
theorem isEntry_ne {word : String}
    (isEntry : (word, kind) ∈ Vocabulary.keywords ∨ (word, kind) ∈ Vocabulary.literals ∨
      (word, kind) ∈ Vocabulary.symbols) :
    kind ≠ .identifier ∧ kind ≠ .primitive ∧ kind ≠ .integer := by
  have others : ∀ entry ∈ Vocabulary.keywords ++ Vocabulary.literals ++ Vocabulary.symbols,
      entry.2 ≠ .identifier ∧ entry.2 ≠ .primitive ∧ entry.2 ≠ .integer := by decide
  exact others (word, kind) (by simpa [or_assoc] using isEntry)

theorem IsLexeme.isWord_of_identifier (isLexeme : IsLexeme .identifier lexeme rest) :
    isWord lexeme = true ∧ Vocabulary.wordKind (String.ofList lexeme) = .identifier := by
  cases isLexeme with
  | word isLetter isRun hasKind =>
    refine ⟨?_, Vocabulary.hasKind_iff.1 hasKind⟩
    simpa [isWord, isLetter] using isRun.passes
  | symbol _ _ isLongest =>
    exact absurd rfl (isEntry_ne (.inr (.inr isLongest.isSymbol))).1

theorem IsLexeme.mem_primitives (isLexeme : IsLexeme .primitive lexeme rest) :
    String.ofList lexeme ∈ Vocabulary.primitives := by
  cases isLexeme with
  | word _ _ hasKind =>
    cases hasKind with
    | keyword isKeyword =>
      exact absurd rfl (isEntry_ne (.inl isKeyword)).2.1
    | literal isLiteral =>
      exact absurd rfl (isEntry_ne (.inr (.inl isLiteral))).2.1
    | primitive isPrimitive => exact isPrimitive
  | symbol _ _ isLongest =>
    exact absurd rfl (isEntry_ne (.inr (.inr isLongest.isSymbol))).2.1

theorem IsLexeme.digits (isLexeme : IsLexeme .integer lexeme rest) :
    lexeme ≠ [] ∧ ∀ c ∈ lexeme, c.isDigit = true := by
  cases isLexeme with
  | word _ _ hasKind =>
    cases hasKind with
    | keyword isKeyword =>
      exact absurd rfl (isEntry_ne (.inl isKeyword)).2.2
    | literal isLiteral =>
      exact absurd rfl (isEntry_ne (.inr (.inl isLiteral))).2.2
  | number isDigit isRun =>
    exact ⟨List.cons_ne_nil _ _, List.forall_mem_cons.2 ⟨isDigit, isRun.passes⟩⟩
  | symbol _ _ isLongest =>
    exact absurd rfl (isEntry_ne (.inr (.inr isLongest.isSymbol))).2.2

/-- The lexer makes no kind up. -/
theorem IsLexeme.isListed (isLexeme : IsLexeme kind lexeme rest) :
    kind.name ∈ TokenKind.listedNames := by
  have areListed : ∀ entry ∈ Vocabulary.keywords ++ Vocabulary.literals ++ Vocabulary.symbols,
      entry.2.name ∈ TokenKind.listedNames := by decide
  simp only [List.forall_mem_append] at areListed
  obtain ⟨⟨ofKeyword, ofLiteral⟩, ofSymbol⟩ := areListed
  cases isLexeme with
  | word _ _ hasKind =>
    cases hasKind with
    | keyword isKeyword => exact ofKeyword _ isKeyword
    | literal isLiteral => exact ofLiteral _ isLiteral
    | primitive | identifier => simp [TokenKind.name, TokenKind.listedNames]
  | number => simp [TokenKind.name, TokenKind.listedNames]
  | symbol _ _ isLongest => exact ofSymbol _ isLongest.isSymbol

/-! ## Tokens in their text -/

/-- The token is a lexeme of the text, which starts at a location. -/
def StandsIn (loc : Loc) (text : List Char) (token : Token) : Prop :=
  ∃ before rest, text = before ++ (token.text.toList ++ rest) ∧ token.loc = loc.advance before ∧
    IsLexeme token.kind token.text.toList rest

theorem Cut.standsIn {cut : Cut} (isLongest : cut.IsLongestMatch)
    (isToken : token ∈ cut.tokens loc) : StandsIn loc cut.text token := by
  induction cut generalizing loc with
  | finished | illegal | unclosed => exact absurd isToken List.not_mem_nil
  | token gap kind lexeme following ih =>
    obtain ⟨-, -, isLexeme, isLongest⟩ := isLongest
    rcases List.mem_cons.1 isToken with rfl | isLater
    · exact ⟨gap, following.text, by simp [Cut.text], rfl, by simpa using isLexeme⟩
    · -- What is before a later token also has the first gap and the first token in it.
      obtain ⟨before, rest, split, isLoc, isLexeme'⟩ := ih isLongest isLater
      refine ⟨gap ++ (lexeme ++ before), rest, by simp [Cut.text, split], ?_, isLexeme'⟩
      rw [isLoc, Loc.advance_append, Loc.advance_append]

theorem standsIn_of_mem_tokens {source : String} (isToken : token ∈ (Lexer.tokens source).1) :
    StandsIn .start source.toList token := by
  obtain ⟨cut, isText, isLongest, lexed⟩ := exists_tokens_eq source
  rw [lexed] at isToken
  exact isText ▸ Cut.standsIn isLongest isToken

/-- The lines and columns of a text are counted from one, and are no more than its characters. -/
theorem StandsIn.bounds (stands : StandsIn .start text token) :
    1 ≤ token.loc.line ∧ token.loc.line ≤ text.length ∧ 1 ≤ token.loc.column ∧
      token.loc.column ≤ text.length := by
  obtain ⟨before, rest, split, isLoc, isLexeme⟩ := stands
  obtain ⟨c, more, isCons⟩ := isLexeme.exists_cons
  have bounds := Loc.bounds_advance .start before (by decide) (by decide)
  have length : before.length + 1 ≤ text.length := by
    rw [split, isCons, List.length_append, List.length_append, List.length_cons]
    omega
  rw [isLoc]
  simp only [Loc.start] at bounds ⊢
  omega

end JamLang.Lexer
