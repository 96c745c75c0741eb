import JamLang.Proofs.Lexer.Tokens
import JamLang.Proofs.Program.LazyLexing
import JamLang.Proofs.Program.Relabeling

/-!
# Layout

The blanks and comments between the tokens of a source may be chosen anew, and the program stays
the same.  What is put behind a token has to start with a blank: a comment right behind the
operator for division would be opened one character early.

The words are found again because each of them is the longest in front of a blank
(`Lexer.LaidOut.hasWords`), and words are all that matters to the parser (`alike_of_map_word`).
-/

namespace JamLang

namespace Lexer

variable {gap last rest text : List Char} {tokens : List Token}

/-! ## Fillings -/

/-- A text of blanks and comments that are all closed, a line comment by its line feed. -/
inductive IsFilling : List Char → Prop where
  | nil : IsFilling []
  | blank {c : Char} {gap : List Char} (isSpace : isSpace c = true) (filling : IsFilling gap) :
      IsFilling (c :: gap)
  | lineComment {body gap : List Char} (isLine : '\n' ∉ body) (filling : IsFilling gap) :
      IsFilling ('/' :: '/' :: (body ++ '\n' :: gap))
  | blockComment {body gap : List Char} (isOpen : ¬ HoldsEndMark body) (filling : IsFilling gap) :
      IsFilling ('/' :: '*' :: (body ++ '*' :: '/' :: gap))

/-- A filling that may go on with a line comment up to the end of the text. -/
inductive IsLastFilling : List Char → Prop where
  | closed {gap : List Char} (filling : IsFilling gap) : IsLastFilling gap
  | lineComment {gap body : List Char} (filling : IsFilling gap) (isLine : '\n' ∉ body) :
      IsLastFilling (gap ++ '/' :: '/' :: body)

def StartsBlank (text : List Char) : Prop :=
  ∃ c ∈ text.head?, isSpace c = true

theorem isInLine_of_mem {body : List Char} (isLine : '\n' ∉ body) :
    ∀ c ∈ body, isInLine c = true := by
  intro c isPart
  have notFeed : c ≠ '\n' := fun isFeed => isLine (isFeed ▸ isPart)
  simpa [isInLine] using notFeed

theorem IsFilling.append (filling : IsFilling gap) (isGap : IsGap last rest) :
    IsGap (gap ++ last) rest := by
  induction filling with
  | nil => exact isGap
  | blank isSpace _ ih => exact .blank isSpace ih
  | @lineComment body gap isLine _ ih =>
    -- The line feed belongs to the filling, but not to the comment: it is a blank behind it.
    have isRun : Text.LongestRun isInLine body ('\n' :: (gap ++ last) ++ rest) :=
      ⟨isInLine_of_mem isLine, fun c isFirst => by obtain rfl := Option.some.inj isFirst; rfl⟩
    simpa using IsGap.lineComment isRun (.blank (by decide) ih)
  | blockComment isOpen _ ih => simpa using IsGap.blockComment isOpen ih

/-- A filling is a gap whatever comes next. -/
theorem IsFilling.isGap (filling : IsFilling gap) (rest : List Char) : IsGap gap rest := by
  have isGap : IsGap (gap ++ []) rest := filling.append .nil
  rwa [List.append_nil] at isGap

theorem IsLastFilling.isGap (filling : IsLastFilling last) : IsGap last [] := by
  cases filling with
  | closed filling => exact filling.isGap []
  | @lineComment gap body filling isLine =>
    have isRun : Text.LongestRun isInLine body ([] ++ []) := ⟨isInLine_of_mem isLine, by simp⟩
    have isComment : IsGap ('/' :: '/' :: (body ++ [])) [] := .lineComment isRun .nil
    rw [List.append_nil] at isComment
    exact filling.append isComment

/-! ## Layouts -/

/-- What stands behind a token: the tokens that are left, with fillings that start with a blank
before each of them, and at last a filling that starts with a blank or is empty. -/
inductive Trails : List Token → List Char → Prop where
  | finished {last : List Char} (filling : IsLastFilling last)
      (startsBlank : last ≠ [] → StartsBlank last) : Trails [] last
  | token {token : Token} {tokens : List Token} {gap text : List Char} (filling : IsFilling gap)
      (startsBlank : StartsBlank gap) (trails : Trails tokens text) :
      Trails (token :: tokens) (gap ++ (token.text.toList ++ text))

/-- A text of the tokens, in which any filling may stand before the first one. -/
inductive LaidOut : List Token → List Char → Prop where
  | empty {gap : List Char} (filling : IsLastFilling gap) : LaidOut [] gap
  | tokens {token : Token} {tokens : List Token} {gap text : List Char} (filling : IsFilling gap)
      (trails : Trails tokens text) : LaidOut (token :: tokens) (gap ++ (token.text.toList ++ text))

theorem StartsBlank.startsApart (startsBlank : StartsBlank text) : StartsApart text := by
  have separates : ∀ c, isSpace c = true → c ∈ separators := by
    intro c isSpace
    simp only [Lexer.isSpace, decide_eq_true_eq, List.mem_cons, List.not_mem_nil,
      or_false] at isSpace
    rcases isSpace with rfl | rfl | rfl | rfl | rfl <;> decide
  obtain ⟨c, isFirst, isSpace⟩ := startsBlank
  intro d isFirst'
  obtain rfl := Option.some.inj (isFirst.symm.trans isFirst')
  exact separates c isSpace

theorem Trails.startsApart (trails : Trails tokens text) : StartsApart text := by
  cases trails with
  | finished _ startsBlank =>
    cases text with
    | nil => exact startsApart_nil
    | cons c text => exact (startsBlank (List.cons_ne_nil c text)).startsApart
  | token _ startsBlank _ =>
    obtain ⟨c, isFirst, isSpace⟩ := startsBlank
    exact StartsBlank.startsApart ⟨c, by simp [Option.mem_def.1 isFirst], isSpace⟩

/-! ## The words of a layout -/

def AreLexemes (tokens : List Token) : Prop :=
  ∀ token ∈ tokens, ∃ rest, IsLexeme token.kind token.text.toList rest

theorem hasWords_of_isLastFilling (filling : IsLastFilling last) : HasWords last [] := by
  intro loc
  have lexed := tokensFrom_gap filling.isGap loc
  rw [List.append_nil, tokensFrom_nil] at lexed
  exact ⟨[], rfl, lexed⟩

/-- Behind a filling, a lexeme that stands before a separator is taken off. -/
theorem HasWords.cons {token : Token} {words : List Word} (filling : IsFilling gap)
    (isLexeme : ∃ rest, IsLexeme token.kind token.text.toList rest) (apart : StartsApart text)
    (hasWords : HasWords text words) :
    HasWords (gap ++ (token.text.toList ++ text)) (token.word :: words) := by
  intro loc
  obtain ⟨_, isLexeme⟩ := isLexeme
  obtain ⟨first, after, isFirst, lexed⟩ := isLexeme.spells (loc.advance gap) text apart
  obtain ⟨tokens, areWords, lexed'⟩ := hasWords after
  refine ⟨first ++ tokens, ?_, ?_⟩
  · rw [List.map_append, isFirst, areWords, String.ofList_toList]
    rfl
  · rw [tokensFrom_gap (filling.isGap _), lexed, lexed']

theorem Trails.hasWords (trails : Trails tokens text) (areLexemes : AreLexemes tokens) :
    HasWords text (tokens.map Token.word) := by
  induction trails with
  | finished filling => exact hasWords_of_isLastFilling filling
  | token filling _ trails ih =>
    obtain ⟨isLexeme, areLexemes⟩ := List.forall_mem_cons.1 areLexemes
    exact .cons filling isLexeme trails.startsApart (ih areLexemes)

theorem LaidOut.hasWords (laidOut : LaidOut tokens text) (areLexemes : AreLexemes tokens) :
    HasWords text (tokens.map Token.word) := by
  cases laidOut with
  | empty filling => exact hasWords_of_isLastFilling filling
  | tokens filling trails =>
    obtain ⟨isLexeme, areLexemes⟩ := List.forall_mem_cons.1 areLexemes
    exact .cons filling isLexeme trails.startsApart (trails.hasWords areLexemes)

theorem areLexemes_tokens (source : String) : AreLexemes (Lexer.tokens source).1 := by
  intro token isToken
  obtain ⟨before, rest, -, -, isLexeme⟩ := standsIn_of_mem_tokens isToken
  exact ⟨rest, isLexeme⟩

end Lexer

/-! ## The program of a layout -/

/-- A source whose tokens are laid out anew has the same words, and is parsed alike. -/
theorem parse_laidOut (source relaid : String) (tokens : List Token)
    (lexed : Lexer.tokenize source = .ok tokens) (laidOut : Lexer.LaidOut tokens relaid.toList) :
    (∃ tokens', Lexer.tokenize relaid = .ok tokens' ∧
        tokens'.map Token.word = tokens.map Token.word) ∧
      Alike (parse relaid) (parse source) := by
  rw [Lexer.tokenize_eq_ok_iff] at lexed
  have areLexemes := Lexer.areLexemes_tokens source
  rw [lexed] at areLexemes
  obtain ⟨tokens', sameWords, lexed'⟩ := laidOut.hasWords areLexemes .start
  refine ⟨⟨tokens', Lexer.tokenize_eq_ok_iff.2 lexed', sameWords⟩, ?_⟩
  rw [parse_of_tokens lexed, parse_of_tokens lexed']
  exact alike_of_map_word sameWords

/-- A quotient, with a comment right in front of it and comments between its parts, one of which
is closed by the end of the text. -/
theorem parse_laidOut_quotient :
    let left : Token := ⟨.identifier, "x", ⟨1, 1⟩⟩
    let sign : Token := ⟨.operator, "/", ⟨1, 2⟩⟩
    let right : Token := ⟨.integer, "2", ⟨1, 3⟩⟩
    Lexer.tokenize "x/2" = .ok [left, sign, right] ∧
      Lexer.LaidOut [left, sign, right] "/***/x /*//*/\t/\n// if\r2\n2 //".toList ∧
      Alike (parse "/***/x /*//*/\t/\n// if\r2\n2 //") (parse "x/2") := by
  intro left sign right
  have lexed : Lexer.tokenize "x/2" = .ok [left, sign, right] :=
    Lexer.tokenize_eq_ok_iff.2 (by decide +kernel)
  have isOpen : ¬ Lexer.HoldsEndMark ['*'] ∧ ¬ Lexer.HoldsEndMark ['/', '/'] := by
    simp [Lexer.not_holdsEndMark_cons, Lexer.not_holdsEndMark_nil]
  have first : Lexer.IsFilling ('/' :: '*' :: (['*'] ++ '*' :: '/' :: [])) :=
    .blockComment isOpen.1 .nil
  have second : Lexer.IsFilling (' ' :: '/' :: '*' :: (['/', '/'] ++ '*' :: '/' :: ['\t'])) :=
    .blank rfl (.blockComment isOpen.2 (.blank rfl .nil))
  have third : Lexer.IsFilling ('\n' :: '/' :: '/' :: (" if\r2".toList ++ '\n' :: [])) :=
    .blank rfl (.lineComment (by decide) .nil)
  have last : Lexer.IsLastFilling ([' '] ++ '/' :: '/' :: []) :=
    .lineComment (.blank rfl .nil) List.not_mem_nil
  obtain ⟨text, laidOut, isText⟩ : ∃ text, Lexer.LaidOut [left, sign, right] text ∧
      text = "/***/x /*//*/\t/\n// if\r2\n2 //".toList :=
    ⟨_, .tokens first (.token second ⟨' ', rfl, rfl⟩ (.token third ⟨'\n', rfl, rfl⟩
      (.finished last fun _ => ⟨' ', rfl, rfl⟩))), by decide +kernel⟩
  subst isText
  exact ⟨lexed, laidOut, (parse_laidOut "x/2" _ _ lexed laidOut).2⟩

end JamLang
