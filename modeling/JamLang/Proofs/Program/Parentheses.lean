import JamLang.Proofs.Grammar.Parentheses
import JamLang.Proofs.Lexer.Appending
import JamLang.Proofs.Program.Acceptance
import JamLang.Proofs.Program.LazyLexing
import JamLang.Session

/-!
# Parentheses of programs

Counting parentheses tells whether more lines may be needed.  A program has nested parentheses, so
the count of a complete one is zero, and it is never held back.  And as the tokens of a text stay
the same if lines are added, a text that closes too many parentheses never becomes a program.
-/

namespace JamLang

open Grammar

variable {source : String} {tokens : List Token}

theorem parenDepth_of_tokens (lexed : Lexer.tokens source = (tokens, none)) :
    parenDepth source = depth tokens := by
  rw [parenDepth, Lexer.tokenize_eq_ok_iff.2 lexed]
  rfl

theorem parenDepth_of_fault {fault : LexicalFault}
    (fails : (Lexer.tokens source).2 = some fault) : parenDepth source = 0 := by
  rw [parenDepth, Lexer.tokenize_eq_error_iff.2 fails]

/-- A text whose parentheses do not balance has tokens. -/
theorem exists_tokens_of_parenDepth (unbalanced : parenDepth source ≠ 0) :
    ∃ tokens, Lexer.tokens source = (tokens, none) ∧ depth tokens = parenDepth source := by
  rcases lexed : Lexer.tokens source with ⟨tokens, fault⟩
  cases fault with
  | none => exact ⟨tokens, rfl, (parenDepth_of_tokens lexed).symm⟩
  | some fault => exact absurd (parenDepth_of_fault (congrArg Prod.snd lexed)) unbalanced

/-- Only the kinds of tokens are counted. -/
theorem depth_of_map_word {tokens' : List Token}
    (sameWords : tokens.map Token.word = tokens'.map Token.word) :
    depth tokens = depth tokens' := by
  have ofWords (kind : TokenKind) (tokens : List Token) :
      tokens.countP (·.kind = kind) = (tokens.map Token.word).countP (·.1 = kind) := by
    rw [List.countP_map]
    rfl
  simp only [depth, ofWords, sameWords]

theorem nested_of_parse {tree : Node} (parses : parse source = .ok tree) :
    ∃ tokens, Lexer.tokens source = (tokens, none) ∧ Nested tokens := by
  obtain ⟨tokens, lexed, parses⟩ := tokens_of_parse parses
  exact ⟨tokens, lexed, nested_of_derives (derives_of_parseTokens parses)⟩

theorem parenDepth_of_parse {tree : Node} (parses : parse source = .ok tree) :
    parenDepth source = 0 := by
  obtain ⟨tokens, lexed, nested⟩ := nested_of_parse parses
  rw [parenDepth_of_tokens lexed, nested.closed]

/-- The parentheses of a program are nested, so that it is complete when they are counted; and
closing too many parentheses is a fault that no further line repairs. -/
theorem parse_nested (source : String) :
    (∀ tree, parse source = .ok tree →
        ∃ tokens, Lexer.tokenize source = .ok tokens ∧ Nested tokens ∧ parenDepth source = 0) ∧
      (parenDepth source < 0 → ∀ more tree, parse (source ++ "\n" ++ more) ≠ .ok tree) := by
  constructor
  · intro tree parses
    obtain ⟨tokens, lexed, nested⟩ := nested_of_parse parses
    exact ⟨tokens, Lexer.tokenize_eq_ok_iff.2 lexed, nested, parenDepth_of_parse parses⟩
  · intro negative more tree parses
    obtain ⟨tokens, lexed, isDepth⟩ := exists_tokens_of_parenDepth (Int.ne_of_lt negative)
    obtain ⟨all, lexedAll, nested⟩ := nested_of_parse parses
    -- The tokens of the source are the first ones of the longer text.
    have goesOn := Lexer.tokensFrom_append_line lexed more.toList
    have same : (source ++ "\n" ++ more).toList = source.toList ++ '\n' :: more.toList := by simp
    rw [Lexer.tokens, Reader.ofString, same] at lexedAll
    have leads : tokens <+: all :=
      ⟨_, congrArg Prod.fst (goesOn.symm.trans lexedAll)⟩
    have nonneg := nested.nonneg tokens leads
    omega

/-- A call within a group is a program; a text that closes too much stays refused, also behind a
comment and with what would have balanced it. -/
theorem parse_nested_group :
    (∃ tokens, Lexer.tokenize "(f(x))" = .ok tokens ∧ Nested tokens ∧ parenDepth "(f(x))" = 0) ∧
      parenDepth "x) // (" < 0 ∧ ∀ more tree, parse ("x) // (" ++ "\n" ++ more) ≠ .ok tree := by
  have lexed : Lexer.tokens "(f(x))" =
      ([⟨.leftParen, "(", ⟨1, 1⟩⟩, ⟨.identifier, "f", ⟨1, 2⟩⟩, ⟨.leftParen, "(", ⟨1, 3⟩⟩,
        ⟨.identifier, "x", ⟨1, 4⟩⟩, ⟨.rightParen, ")", ⟨1, 5⟩⟩,
        ⟨.rightParen, ")", ⟨1, 6⟩⟩], none) := by decide +kernel
  have parses : parse "(f(x))" = .ok (.call (.var "f" ⟨1, 2⟩) [.var "x" ⟨1, 4⟩]) :=
    (parse_of_tokens lexed).trans rfl
  have lexed' : Lexer.tokens "x) // (" =
      ([⟨.identifier, "x", ⟨1, 1⟩⟩, ⟨.rightParen, ")", ⟨1, 2⟩⟩], none) := by decide +kernel
  have negative : parenDepth "x) // (" < 0 := by
    rw [parenDepth_of_tokens lexed']
    decide
  exact ⟨(parse_nested _).1 _ parses, negative, (parse_nested _).2 negative⟩

end JamLang
