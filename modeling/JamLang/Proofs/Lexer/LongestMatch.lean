import JamLang.Proofs.Lexer.Gaps
import JamLang.Proofs.Lexer.Lexemes
import JamLang.Proofs.Text.Location

/-!
# Longest matches

A text is cut into gaps and tokens from the left to the right.  Every gap is as long as it can be,
and so is every token behind it, and the cut goes on to the end of the text, to a character that
starts no token, or to a comment that is never closed.

Such a cut exists for every text and there is only one, and lexing comes to its tokens and to the
fault that ends it (`tokens_longestMatch`).  That there is only one is seen from the lexer: what it
reads first is determined by any such cut (`nextToken_text`), and the location of what is read shows
where the gap before it ends.
-/

namespace JamLang.Lexer

/-! ## Cuts -/

/-- A text cut into gaps and tokens. -/
inductive Cut where
  /-- A gap up to the end. -/
  | finished (gap : List Char)
  /-- A gap and a character that starts no token; what follows is not cut. -/
  | illegal (gap : List Char) (c : Char) (rest : List Char)
  /-- A gap and a text that starts with a comment that is never closed. -/
  | unclosed (gap rest : List Char)
  /-- A gap, a token and the cut of what follows. -/
  | token (gap : List Char) (kind : TokenKind) (lexeme : List Char) (following : Cut)

namespace Cut

/-- The text that was cut. -/
def text : Cut → List Char
  | finished gap => gap
  | illegal gap c rest => gap ++ c :: rest
  | unclosed gap rest => gap ++ rest
  | token gap _ lexeme following => gap ++ (lexeme ++ following.text)

/-- The tokens of the text, which starts at a location. -/
def tokens (loc : Loc) : Cut → List Token
  | finished _ | illegal _ _ _ | unclosed _ _ => []
  | token gap kind lexeme following =>
    ⟨kind, String.ofList lexeme, loc.advance gap⟩ ::
      following.tokens ((loc.advance gap).advance lexeme)

/-- What stands in the way behind the last token; none if the tokens go on to the end. -/
def fault? (loc : Loc) : Cut → Option LexicalFault
  | finished _ => none
  | illegal gap c _ => some (.illegalCharacter c (loc.advance gap))
  | unclosed gap _ => some (.unterminatedComment (loc.advance gap))
  | token gap _ lexeme following => following.fault? ((loc.advance gap).advance lexeme)

/-- All tokens of the text, or what stands in the way of them. -/
def outcome (loc : Loc) (cut : Cut) : Except LexicalFault (List Token) :=
  match cut.fault? loc with
  | none => .ok (cut.tokens loc)
  | some fault => .error fault

/-- Every gap of the cut, and every token behind it, is as long as it can be. -/
def IsLongestMatch : Cut → Prop
  | finished gap => IsGap gap []
  | illegal gap c rest => IsGap gap (c :: rest) ∧ ¬ StartsGap (c :: rest) ∧ IsIllegal c rest
  | unclosed gap rest => IsGap gap rest ∧ StartsUnclosed rest
  | token gap kind lexeme following =>
    IsGap gap (lexeme ++ following.text) ∧ ¬ StartsGap (lexeme ++ following.text) ∧
      IsLexeme kind lexeme following.text ∧ following.IsLongestMatch

/-- What is read first off the text. -/
def scan (loc : Loc) : Cut → Scan
  | finished gap => .finished ⟨loc.advance gap, []⟩
  | illegal gap c rest =>
    .fault (.illegalCharacter c (loc.advance gap)) ⟨loc.advance gap, c :: rest⟩
  | unclosed gap rest =>
    .fault (.unterminatedComment (loc.advance gap)) ⟨loc.advance (gap ++ rest), []⟩
  | token gap kind lexeme following =>
    .token ⟨kind, String.ofList lexeme, loc.advance gap⟩
      ⟨(loc.advance gap).advance lexeme, following.text⟩

end Cut

variable {loc : Loc} {text : List Char} {cut other : Cut}

/-! ## What the lexer makes of a cut -/

theorem skipGap_of_isGap {gap rest : List Char} (isGap : IsGap gap rest)
    (stops : ¬ StartsGap rest) (loc : Loc) :
    skipGap loc (gap ++ rest) = .ok ⟨loc.advance gap, rest⟩ := by
  rw [skipGap_append isGap, skipGap_of_not_startsGap stops]

theorem nextToken_text (isLongest : cut.IsLongestMatch) (loc : Loc) :
    nextToken ⟨loc, cut.text⟩ = cut.scan loc := by
  cases cut with
  | finished gap =>
    have skipped := skipGap_of_isGap isLongest not_startsGap_nil loc
    rw [List.append_nil] at skipped
    simp only [nextToken, Cut.text, skipped, Cut.scan]
  | illegal gap c rest =>
    obtain ⟨isGap, stops, isIllegal⟩ := isLongest
    simp only [nextToken, Cut.text, skipGap_of_isGap isGap stops, readToken_of_isIllegal isIllegal,
      Cut.scan]
  | unclosed gap rest =>
    obtain ⟨isGap, unclosed⟩ := isLongest
    simp only [nextToken, Cut.text, skipGap_append isGap, skipGap_of_startsUnclosed unclosed,
      Reader.toEnd, Cut.scan]
  | token gap kind lexeme following =>
    obtain ⟨isGap, stops, isLexeme, -⟩ := isLongest
    obtain ⟨c, more, rfl⟩ := isLexeme.exists_cons
    have skipped := skipGap_of_isGap isGap stops loc
    rw [List.cons_append] at skipped
    simp only [nextToken, Cut.text, List.cons_append, skipped, readToken_of_isLexeme isLexeme,
      Cut.scan]

theorem tokensFrom_text (isLongest : cut.IsLongestMatch) (loc : Loc) :
    tokensFrom ⟨loc, cut.text⟩ = (cut.tokens loc, cut.fault? loc) := by
  have read := nextToken_text isLongest loc
  induction cut generalizing loc with
  | finished gap => exact tokensFrom_of_finished read
  | illegal gap c rest => exact tokensFrom_of_fault read
  | unclosed gap rest => exact tokensFrom_of_fault read
  | token gap kind lexeme following ih =>
    obtain ⟨-, -, -, isLongest⟩ := isLongest
    rw [tokensFrom_of_token read, ih isLongest _ (nextToken_text isLongest _)]
    rfl

/-! ## There is one cut -/

theorem exists_isLongestMatch (text : List Char) :
    ∃ cut : Cut, cut.text = text ∧ cut.IsLongestMatch := by
  -- What is left behind a token is shorter, as a token is not empty.
  induction length : text.length using Nat.strongRecOn generalizing text with
  | ind size ih =>
    have gapEnd := gapEnd_skipGap .start text
    generalize skipGap .start text = ending at gapEnd
    cases gapEnd with
    | @unclosed gap rest split isGap unclosed =>
      exact ⟨.unclosed gap rest, split.symm, isGap, unclosed⟩
    | @stopped gap rest split isGap stops =>
      cases rest with
      | nil => exact ⟨.finished gap, by rw [split, List.append_nil]; rfl, isGap⟩
      | cons c tail =>
        have tokenEnd := tokenEnd_readToken .start c tail
        generalize readToken .start c tail = scan at tokenEnd
        cases tokenEnd with
        | illegal isIllegal => exact ⟨.illegal gap c tail, split.symm, isGap, stops, isIllegal⟩
        | @token kind more rest splitTail isLexeme =>
          subst splitTail
          have shorter : rest.length < size := by
            rw [← length, split]
            simp only [List.length_append, List.length_cons]
            omega
          obtain ⟨following, isRest, isLongest⟩ := ih _ shorter rest rfl
          subst isRest
          exact ⟨.token gap kind (c :: more) following, split.symm, isGap, stops, isLexeme,
            isLongest⟩

/-- Cuts of one text start alike, because there is one thing that the lexer reads first. -/
theorem scan_eq_of_text_eq (isLongest : cut.IsLongestMatch) (isLongest' : other.IsLongestMatch)
    (sameText : cut.text = other.text) : cut.scan .start = other.scan .start := by
  rw [← nextToken_text isLongest, sameText, nextToken_text isLongest']

theorem Cut.IsLongestMatch.unique (isLongest : cut.IsLongestMatch)
    (isLongest' : other.IsLongestMatch) (sameText : cut.text = other.text) : cut = other := by
  induction cut generalizing other with
  | finished gap =>
    have sameScan := scan_eq_of_text_eq isLongest isLongest' sameText
    cases other with
    | finished gap' => exact congrArg Cut.finished sameText
    | illegal | unclosed | token => simp [Cut.scan] at sameScan
  | illegal gap c rest =>
    have sameScan := scan_eq_of_text_eq isLongest isLongest' sameText
    cases other with
    | illegal gap' c' rest' =>
      simp only [Cut.scan, Scan.fault.injEq, LexicalFault.illegalCharacter.injEq] at sameScan
      obtain ⟨⟨rfl, sameLoc⟩, -⟩ := sameScan
      -- The gaps end at one location, so they are the same part of the text.
      obtain rfl := Loc.append_inj_of_advance_eq sameText sameLoc
      obtain ⟨-, rfl⟩ := List.cons.inj (List.append_cancel_left sameText)
      rfl
    | finished | unclosed | token => simp [Cut.scan] at sameScan
  | unclosed gap rest =>
    have sameScan := scan_eq_of_text_eq isLongest isLongest' sameText
    cases other with
    | unclosed gap' rest' =>
      simp only [Cut.scan, Scan.fault.injEq, LexicalFault.unterminatedComment.injEq] at sameScan
      obtain rfl := Loc.append_inj_of_advance_eq sameText sameScan.1
      obtain rfl : rest = rest' := List.append_cancel_left sameText
      rfl
    | finished | illegal | token => simp [Cut.scan] at sameScan
  | token gap kind lexeme following ih =>
    have sameScan := scan_eq_of_text_eq isLongest isLongest' sameText
    cases other with
    | token gap' kind' lexeme' following' =>
      simp only [Cut.scan, Scan.token.injEq, Token.mk.injEq, Reader.mk.injEq] at sameScan
      obtain ⟨⟨rfl, sameLexeme, sameLoc⟩, -, sameRest⟩ := sameScan
      obtain rfl := Loc.append_inj_of_advance_eq sameText sameLoc
      obtain rfl := String.ofList_injective sameLexeme
      obtain rfl := ih isLongest.2.2.2 isLongest'.2.2.2 sameRest
      rfl
    | finished | illegal | unclosed => simp [Cut.scan] at sameScan

/-- The tokens and the fault of a source are those of a cut. -/
theorem exists_tokens_eq (source : String) :
    ∃ cut : Cut, cut.text = source.toList ∧ cut.IsLongestMatch ∧
      Lexer.tokens source = (cut.tokens .start, cut.fault? .start) := by
  obtain ⟨cut, isText, isLongest⟩ := exists_isLongestMatch source.toList
  refine ⟨cut, isText, isLongest, ?_⟩
  rw [Lexer.tokens, Reader.ofString, ← isText]
  exact tokensFrom_text isLongest .start

/-- Every text has exactly one cut of longest matches.  Lexing comes to all tokens of the cut if it
goes on to the end, and otherwise to the fault that ends it, behind the tokens before that. -/
theorem tokens_longestMatch (source : String) :
    ∃ cut : Cut,
      (∀ other : Cut, other.text = source.toList ∧ other.IsLongestMatch ↔ other = cut) ∧
        Lexer.tokens source = (cut.tokens .start, cut.fault? .start) ∧
        Lexer.tokenize source = cut.outcome .start := by
  obtain ⟨cut, isText, isLongest⟩ := exists_isLongestMatch source.toList
  have lexed : Lexer.tokens source = (cut.tokens .start, cut.fault? .start) := by
    rw [Lexer.tokens, Reader.ofString, ← isText]
    exact tokensFrom_text isLongest .start
  refine ⟨cut, fun other => ⟨?_, ?_⟩, lexed, ?_⟩
  · rintro ⟨isText', isLongest'⟩
    exact isLongest'.unique isLongest (isText'.trans isText.symm)
  · rintro rfl
    exact ⟨isText, isLongest⟩
  · rw [Lexer.tokenize, lexed, Cut.outcome]
    cases cut.fault? .start <;> rfl

end JamLang.Lexer
