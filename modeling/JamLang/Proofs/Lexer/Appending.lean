import JamLang.Proofs.Lexer.LongestMatch
import JamLang.Proofs.Lexer.Words
import JamLang.Proofs.Text.Blank

/-!
# Text behind a text

If a text has tokens, more text may be put behind it, as long as that starts with a blank: the
tokens stay what and where they are, and the lexer goes on from the gap behind the last of them
(`exists_tokensFrom_append`).  What it finds there depends on that gap, which may end in a line
comment that takes in more.  A line feed ends the comment (`tokensFrom_append_line`).

Blanks are meant in the wide sense here, in which lines are trimmed and split.  Some of them are
stray: they are no white space of the lexer, and no token starts with them either.  So blanks around
a text that has tokens change nothing unless one of them is stray and not in a comment
(`HasWords.pad`).
-/

namespace JamLang.Lexer

open Text (LongestRun longestRun_takeWhile AreBlank isBlank forall_isBlank areBlank_append)

variable {c : Char} {kind : TokenKind} {loc : Loc} {lexeme gap text rest before after : List Char}
  {words : List Word}

/-! ## Blanks and tokens -/

theorem not_isWordChar_of_isBlank (blank : isBlank c = true) : isWordChar c = false := by
  have passes := forall_isBlank (!isWordChar ·) (by decide +kernel) blank
  simpa using passes

theorem not_isLetter_of_isBlank (blank : isBlank c = true) : Text.isLetter c = false := by
  have notWordChar := not_isWordChar_of_isBlank blank
  simp only [isWordChar, Bool.or_eq_false_iff] at notWordChar
  exact notWordChar.1.1.1

theorem not_isDigit_of_isBlank (blank : isBlank c = true) : c.isDigit = false := by
  have passes := forall_isBlank (!Char.isDigit ·) (by decide +kernel) blank
  simpa using passes

/-- No symbol has a blank in it. -/
theorem not_isBlank_of_mem_symbol (isSymbol : (String.ofList text, kind) ∈ Vocabulary.symbols) :
    ∀ c ∈ text, isBlank c = false := by
  have noBlank : ∀ entry ∈ Vocabulary.symbols, entry.1.toList.all (!isBlank ·) = true := by decide
  simpa using noBlank _ isSymbol

/-- A token is a word in the wide sense: no blank is a part of it. -/
theorem IsLexeme.isUnbroken (isLexeme : IsLexeme kind lexeme rest) : Text.IsUnbroken lexeme := by
  have notBlank {test : Char → Bool} (fails : ∀ c, isBlank c = true → test c = false)
      {run : List Char} (passes : ∀ c ∈ run, test c = true) :
      ∀ c ∈ run, isBlank c = false := by
    intro c isPart
    rw [Bool.eq_false_iff]
    intro blank
    exact absurd ((passes c isPart).symm.trans (fails c blank)) (by decide)
  cases isLexeme with
  | @word c run _ _ isLetter isRun _ =>
    have isWordChar : isWordChar c = true := by simp [isWordChar, isLetter]
    exact ⟨List.cons_ne_nil _ _, notBlank (fun _ => not_isWordChar_of_isBlank)
      (List.forall_mem_cons.2 ⟨isWordChar, isRun.passes⟩)⟩
  | number isDigit isRun =>
    exact ⟨List.cons_ne_nil _ _, notBlank (fun _ => not_isDigit_of_isBlank)
      (List.forall_mem_cons.2 ⟨isDigit, isRun.passes⟩)⟩
  | symbol _ _ isLongest =>
    exact ⟨List.cons_ne_nil _ _, not_isBlank_of_mem_symbol isLongest.isSymbol⟩

/-- A blank that the lexer does not skip. -/
def IsStray (c : Char) : Prop :=
  isBlank c = true ∧ isSpace c = false

theorem IsStray.isIllegal (stray : IsStray c) (rest : List Char) : IsIllegal c rest := by
  obtain ⟨blank, -⟩ := stray
  refine ⟨not_isLetter_of_isBlank blank, not_isDigit_of_isBlank blank, ?_⟩
  intro symbol kind isSymbol starts
  obtain ⟨d, symbol, rfl⟩ := List.exists_cons_of_length_pos (length_of_mem_symbols isSymbol).1
  obtain ⟨rfl, -⟩ := List.cons_prefix_cons.1 starts
  exact absurd (not_isBlank_of_mem_symbol isSymbol d List.mem_cons_self) (by simp [blank])

theorem IsStray.not_startsGap (stray : IsStray c) (rest : List Char) : ¬ StartsGap (c :: rest) := by
  refine not_startsGap_cons.2 ⟨stray.2, ?_⟩
  rintro rfl
  exact absurd stray.1 (by decide)

/-! ## Lexemes and gaps in front of more text -/

/-- A symbol does not reach into a text that starts with a blank. -/
theorem prefix_of_symbol {symbol : List Char}
    (isSymbol : (String.ofList symbol, kind) ∈ Vocabulary.symbols)
    (leads : symbol <+: text ++ rest) (starts : Text.StartsBlank rest) : symbol <+: text := by
  cases List.prefix_or_prefix_of_prefix leads (List.prefix_append text rest) with
  | inl within => exact within
  | inr beyond =>
    obtain ⟨tail, rfl⟩ := beyond
    obtain ⟨behind, rfl⟩ := (List.prefix_append_right_inj _).1 leads
    cases tail with
    | nil => exact ⟨[], by simp⟩
    | cons d tail =>
      have notBlank := not_isBlank_of_mem_symbol isSymbol d (by simp)
      exact absurd (starts d rfl) (by simp [notBlank])

theorem IsLexeme.append (isLexeme : IsLexeme kind lexeme text) (starts : Text.StartsBlank rest) :
    IsLexeme kind lexeme (text ++ rest) := by
  cases isLexeme with
  | word isLetter isRun hasKind =>
    exact .word isLetter
      (isRun.append fun _ c isFirst => not_isWordChar_of_isBlank (starts c isFirst)) hasKind
  | number isDigit isRun =>
    exact .number isDigit
      (isRun.append fun _ c isFirst => not_isDigit_of_isBlank (starts c isFirst))
  | @symbol c left _ _ notLetter notDigit isLongest =>
    have same : c :: (left ++ (text ++ rest)) = c :: (left ++ text) ++ rest := by simp
    refine .symbol notLetter notDigit ⟨isLongest.isSymbol, ⟨text ++ rest, rfl⟩, ?_⟩
    intro other otherKind isOther leads
    rw [same] at leads
    exact isLongest.longest other otherKind isOther (prefix_of_symbol isOther leads starts)

theorem IsIllegal.append (isIllegal : IsIllegal c text) (starts : Text.StartsBlank rest) :
    IsIllegal c (text ++ rest) where
  notLetter := isIllegal.notLetter
  notDigit := isIllegal.notDigit
  noSymbol := by
    intro symbol kind isSymbol leads
    rw [← List.cons_append] at leads
    exact isIllegal.noSymbol symbol kind isSymbol (prefix_of_symbol isSymbol leads starts)

theorem IsGap.append (isGap : IsGap gap text) (notEmpty : text ≠ []) (rest : List Char) :
    IsGap gap (text ++ rest) := by
  induction isGap with
  | nil => exact .nil
  | blank isSpace _ ih => exact .blank isSpace (ih notEmpty)
  | lineComment isLine _ ih =>
    refine .lineComment ?_ (ih notEmpty)
    rw [← List.append_assoc]
    exact isLine.append fun isEmpty => absurd (List.append_eq_nil_iff.1 isEmpty).2 notEmpty
  | blockComment isOpen _ ih => exact .blockComment isOpen (ih notEmpty)

theorem not_startsGap_append (stops : ¬ StartsGap text) (notEmpty : text ≠ [])
    (starts : Text.StartsBlank rest) : ¬ StartsGap (text ++ rest) := by
  obtain ⟨c, text, rfl⟩ := List.exists_cons_of_ne_nil notEmpty
  obtain ⟨notSpace, notComment⟩ := not_startsGap_cons.1 stops
  refine not_startsGap_cons.2 ⟨notSpace, fun isSlash => ?_⟩
  cases text with
  | nil =>
    constructor
    · exact fun isFirst => absurd (starts _ isFirst) (by decide)
    · exact fun isFirst => absurd (starts _ isFirst) (by decide)
  | cons => exact notComment isSlash

/-- A gap at the end of a text takes in no more of the text behind it than up to its first line
feed. -/
theorem IsGap.exists_split (isGap : IsGap gap []) (rest : List Char) :
    ∃ first second, rest = first ++ second ∧ (∀ c ∈ first, isInLine c = true) ∧
      IsGap (gap ++ first) second := by
  generalize isEnd : ([] : List Char) = last at isGap
  induction isGap with
  | nil => exact ⟨[], rest, rfl, by simp, .nil⟩
  | blank isSpace _ ih =>
    obtain ⟨first, second, split, inLine, isGap⟩ := ih isEnd
    exact ⟨first, second, split, inLine, .blank isSpace isGap⟩
  | @lineComment body gap _ isLine isGap ih =>
    obtain rfl := isEnd
    rw [List.append_nil] at isLine
    cases gap with
    | nil =>
      -- The comment came to the end, so it goes on to the end of the line.
      have goesOn := longestRun_takeWhile isInLine rest
      have isComment : IsGap ('/' :: '/' :: (body ++ rest.takeWhile isInLine ++ []))
          (rest.dropWhile isInLine) := by
        refine .lineComment ⟨?_, goesOn.stops⟩ .nil
        exact List.forall_mem_append.2 ⟨isLine.passes, goesOn.passes⟩
      refine ⟨_, _, (List.takeWhile_append_dropWhile (p := isInLine)).symm, goesOn.passes, ?_⟩
      simpa using isComment
    | cons c gap =>
      obtain ⟨first, second, split, inLine, isGap⟩ := ih rfl
      refine ⟨first, second, split, inLine, ?_⟩
      have stops : LongestRun isInLine body (c :: gap ++ (first ++ second)) :=
        isLine.append fun isEmpty => absurd isEmpty (List.cons_ne_nil c gap)
      rw [← List.append_assoc] at stops
      simpa using IsGap.lineComment stops isGap
  | blockComment isOpen _ ih =>
    obtain ⟨first, second, split, inLine, isGap⟩ := ih isEnd
    refine ⟨first, second, split, inLine, ?_⟩
    simpa using IsGap.blockComment isOpen isGap

/-! ## Tokens in front of more text -/

/-- Where the text starts does not matter to the words of its cut. -/
theorem Cut.map_word_tokens (cut : Cut) (loc loc' : Loc) :
    (cut.tokens loc).map Token.word = (cut.tokens loc').map Token.word := by
  induction cut generalizing loc loc' with
  | finished | illegal | unclosed => rfl
  | token gap kind lexeme following ih =>
    exact congrArg (List.cons _) (ih _ _)

theorem Cut.fault?_eq_none (cut : Cut) (loc loc' : Loc) :
    cut.fault? loc = none ↔ cut.fault? loc' = none := by
  induction cut generalizing loc loc' with
  | finished => exact Iff.rfl
  | illegal | unclosed => simp [Cut.fault?]
  | token gap kind lexeme following ih => exact ih _ _

/-- The first token of a cut is read off also if more text follows that starts with a blank. -/
theorem Cut.tokensFrom_append_token {following : Cut}
    (isLongest : (Cut.token gap kind lexeme following).IsLongestMatch)
    (starts : Text.StartsBlank rest) (loc : Loc) :
    tokensFrom ⟨loc, (Cut.token gap kind lexeme following).text ++ rest⟩ =
      (⟨kind, String.ofList lexeme, loc.advance gap⟩ ::
          (tokensFrom ⟨(loc.advance gap).advance lexeme, following.text ++ rest⟩).1,
        (tokensFrom ⟨(loc.advance gap).advance lexeme, following.text ++ rest⟩).2) := by
  obtain ⟨isGap, stops, isLexeme, -⟩ := isLongest
  have notEmpty : lexeme ++ following.text ≠ [] := by
    obtain ⟨c, left, rfl⟩ := isLexeme.exists_cons
    exact List.cons_ne_nil _ _
  have isGap' := isGap.append notEmpty rest
  have stops' := not_startsGap_append stops notEmpty starts
  rw [List.append_assoc] at isGap' stops'
  have same : (Cut.token gap kind lexeme following).text ++ rest =
      gap ++ (lexeme ++ (following.text ++ rest)) := by simp [Cut.text]
  rw [same, tokensFrom_gap isGap', tokensFrom_lexeme stops' (isLexeme.append starts)]

/-- The lexer goes on from the gap at the end of the cut. -/
theorem Cut.exists_tokensFrom_append {cut : Cut} (isLongest : cut.IsLongestMatch)
    (noFault : cut.fault? loc = none) :
    ∃ body gap, cut.text = body ++ gap ∧ IsGap gap [] ∧
      ∀ loc rest, Text.StartsBlank rest → tokensFrom ⟨loc, cut.text ++ rest⟩ =
        (cut.tokens loc ++ (tokensFrom ⟨loc.advance body, gap ++ rest⟩).1,
          (tokensFrom ⟨loc.advance body, gap ++ rest⟩).2) := by
  induction cut generalizing loc with
  | finished gap => exact ⟨[], gap, rfl, isLongest, fun _ _ _ => rfl⟩
  | illegal | unclosed => simp [Cut.fault?] at noFault
  | token gap kind lexeme following ih =>
    obtain ⟨body, last, split, isLast, goesOn⟩ := ih isLongest.2.2.2 noFault
    refine ⟨gap ++ (lexeme ++ body), last, by simp [Cut.text, split], isLast, ?_⟩
    intro loc rest starts
    rw [Cut.tokensFrom_append_token isLongest starts, goesOn _ _ starts, Loc.advance_append,
      Loc.advance_append]
    rfl

/-- The tokens of a text stay what and where they are if more text follows that starts with a
blank. -/
theorem exists_tokensFrom_append {tokens : List Token}
    (lexed : tokensFrom ⟨loc, text⟩ = (tokens, none)) :
    ∃ body gap, text = body ++ gap ∧ IsGap gap [] ∧
      ∀ rest, Text.StartsBlank rest → tokensFrom ⟨loc, text ++ rest⟩ =
        (tokens ++ (tokensFrom ⟨loc.advance body, gap ++ rest⟩).1,
          (tokensFrom ⟨loc.advance body, gap ++ rest⟩).2) := by
  obtain ⟨cut, rfl, isLongest⟩ := exists_isLongestMatch text
  rw [tokensFrom_text isLongest] at lexed
  obtain ⟨rfl, noFault⟩ := Prod.mk.inj lexed
  obtain ⟨body, gap, split, isGap, goesOn⟩ := cut.exists_tokensFrom_append isLongest noFault
  exact ⟨body, gap, split, isGap, goesOn loc⟩

/-- Behind a line feed the lexer starts anew. -/
theorem tokensFrom_append_line {tokens : List Token}
    (lexed : tokensFrom ⟨loc, text⟩ = (tokens, none)) (rest : List Char) :
    tokensFrom ⟨loc, text ++ '\n' :: rest⟩ =
      (tokens ++ (tokensFrom ⟨(loc.advance text).next '\n', rest⟩).1,
        (tokensFrom ⟨(loc.advance text).next '\n', rest⟩).2) := by
  obtain ⟨body, gap, rfl, isGap, goesOn⟩ := exists_tokensFrom_append lexed
  obtain ⟨first, second, split, inLine, isGap⟩ := isGap.exists_split ('\n' :: rest)
  -- The gap ends before the line feed.
  obtain rfl : first = [] := by
    cases first with
    | nil => rfl
    | cons c first =>
      obtain ⟨rfl, -⟩ := List.cons.inj split
      exact absurd (inLine '\n' List.mem_cons_self) (by decide)
  rw [List.append_nil, ← (show '\n' :: rest = second from split)] at isGap
  have isLine : IsGap ['\n'] rest := .blank (by decide) .nil
  have starts : Text.StartsBlank ('\n' :: rest) := by
    rintro _ ⟨⟩
    decide
  rw [goesOn _ starts, tokensFrom_gap isGap, ← Loc.advance_append]
  have skipped := tokensFrom_gap isLine (loc.advance (body ++ gap))
  rw [List.singleton_append] at skipped
  rw [skipped]
  rfl

/-- A text has the same words wherever it stands. -/
theorem hasWords_of_tokensFrom {tokens : List Token}
    (lexed : tokensFrom ⟨loc, text⟩ = (tokens, none)) : HasWords text (tokens.map Token.word) := by
  obtain ⟨cut, rfl, isLongest⟩ := exists_isLongestMatch text
  rw [tokensFrom_text isLongest] at lexed
  obtain ⟨rfl, noFault⟩ := Prod.mk.inj lexed
  intro loc'
  refine ⟨cut.tokens loc', cut.map_word_tokens _ _, ?_⟩
  rw [tokensFrom_text isLongest, (cut.fault?_eq_none _ loc').1 noFault]

/-! ## Blanks around a text -/

/-- Wherever the text stands, the lexer stops at a stray blank. -/
def HasStray (text : List Char) : Prop :=
  ∀ loc, ∃ c stop, IsStray c ∧ (tokensFrom ⟨loc, text⟩).2 = some (.illegalCharacter c stop)

/-- The text has these words, or the lexer stops at a stray blank. -/
def HasAtMost (text : List Char) (words : List Word) : Prop :=
  HasWords text words ∨ HasStray text

theorem HasAtMost.of_tokensFrom {tokens : List Token} (hasAtMost : HasAtMost text words)
    (lexed : tokensFrom ⟨loc, text⟩ = (tokens, none)) : tokens.map Token.word = words := by
  cases hasAtMost with
  | inl hasWords =>
    obtain ⟨tokens', areWords, lexed'⟩ := hasWords loc
    obtain ⟨rfl, -⟩ := Prod.mk.inj (lexed.symm.trans lexed')
    exact areWords
  | inr hasStray =>
    obtain ⟨c, stop, -, fails⟩ := hasStray loc
    rw [lexed] at fails
    cases fails

theorem hasWords_nil : HasWords [] [] :=
  fun loc => ⟨[], rfl, tokensFrom_nil loc⟩

theorem hasStray_cons (stray : IsStray c) (rest : List Char) : HasStray (c :: rest) := by
  intro loc
  have read : nextToken ⟨loc, c :: rest⟩ = .fault (.illegalCharacter c loc) ⟨loc, c :: rest⟩ := by
    simp only [nextToken, skipGap_of_not_startsGap (stray.not_startsGap rest),
      readToken_of_isIllegal (stray.isIllegal rest)]
  exact ⟨c, loc, stray, congrArg Prod.snd (tokensFrom_of_fault read)⟩

theorem HasAtMost.skip (hasAtMost : HasAtMost rest words) (isGap : IsGap before rest) :
    HasAtMost (before ++ rest) words := by
  have skips (loc : Loc) := tokensFrom_gap isGap loc
  cases hasAtMost with
  | inl hasWords => exact .inl fun loc => by rw [skips]; exact hasWords _
  | inr hasStray => exact .inr fun loc => by rw [skips]; exact hasStray _

theorem HasAtMost.cons (hasAtMost : HasAtMost rest words) (stops : ¬ StartsGap (lexeme ++ rest))
    (isLexeme : IsLexeme kind lexeme rest) :
    HasAtMost (lexeme ++ rest) ((kind, String.ofList lexeme) :: words) := by
  have takes (loc : Loc) := tokensFrom_lexeme stops isLexeme loc
  cases hasAtMost with
  | inl hasWords =>
    refine .inl fun loc => ?_
    obtain ⟨tokens, areWords, lexed⟩ := hasWords (loc.advance lexeme)
    refine ⟨⟨kind, String.ofList lexeme, loc⟩ :: tokens, congrArg (List.cons _) areWords, ?_⟩
    rw [takes, lexed]
  | inr hasStray => exact .inr fun loc => by rw [takes]; exact hasStray _

theorem HasAtMost.word {word : String} (hasAtMost : HasAtMost rest words)
    (isWord : isWord word.toList = true) (starts : Text.StartsBlank rest) :
    HasAtMost (word.toList ++ rest) ((Vocabulary.wordKind word, word) :: words) := by
  have alone := isLexeme_word isWord startsApart_nil
  obtain ⟨c, text, isCons⟩ := alone.exists_cons
  have notEmpty : word.toList ++ [] ≠ [] := by simp [isCons]
  have stops := not_startsGap_append (alone.not_startsGap startsApart_nil) notEmpty starts
  rw [List.append_nil] at stops
  have hasAtMost := hasAtMost.cons stops (alone.append starts)
  rwa [String.ofList_toList] at hasAtMost

/-- Blanks in front of a text are skipped, up to a stray one. -/
theorem HasAtMost.blanks (hasAtMost : HasAtMost rest words) (blank : AreBlank before) :
    HasAtMost (before ++ rest) words := by
  induction before with
  | nil => exact hasAtMost
  | cons c before ih =>
    obtain ⟨isBlank, blank⟩ := List.forall_mem_cons.1 blank
    cases space : isSpace c with
    | false => exact .inr (hasStray_cons ⟨isBlank, space⟩ _)
    | true =>
      have isGap : IsGap [c] (before ++ rest) := .blank space .nil
      exact (ih blank).skip isGap

theorem hasAtMost_of_areBlank (blank : AreBlank text) : HasAtMost text [] := by
  have hasAtMost := HasAtMost.blanks (.inl hasWords_nil) blank
  rwa [List.append_nil] at hasAtMost

/-- Blanks behind a text are skipped, up to a stray one, unless a comment takes them in. -/
theorem HasWords.append_blanks (hasWords : HasWords text words) (blank : AreBlank after) :
    HasAtMost (text ++ after) words := by
  obtain ⟨cut, rfl, isLongest⟩ := exists_isLongestMatch text
  have ofCut (loc : Loc) : cut.fault? loc = none ∧ (cut.tokens loc).map Token.word = words := by
    obtain ⟨tokens, areWords, lexed⟩ := hasWords loc
    rw [tokensFrom_text isLongest] at lexed
    obtain ⟨rfl, noFault⟩ := Prod.mk.inj lexed
    exact ⟨noFault, areWords⟩
  obtain ⟨body, gap, -, isGap, goesOn⟩ := cut.exists_tokensFrom_append isLongest (ofCut .start).1
  obtain ⟨first, second, rfl, -, isGap⟩ := isGap.exists_split after
  have behind := (hasAtMost_of_areBlank (areBlank_append.1 blank).2).skip isGap
  rw [List.append_assoc] at behind
  cases behind with
  | inl noWords =>
    refine .inl fun loc => ⟨cut.tokens loc, (ofCut loc).2, ?_⟩
    obtain ⟨tokens, areNone, lexed⟩ := noWords (loc.advance body)
    obtain rfl := List.map_eq_nil_iff.1 areNone
    rw [goesOn _ _ blank.startsBlank, lexed, List.append_nil]
  | inr hasStray =>
    refine .inr fun loc => ?_
    rw [goesOn _ _ blank.startsBlank]
    exact hasStray _

/-- Blanks around a text change nothing, or one of them is stray. -/
theorem HasWords.pad (hasWords : HasWords text words) (blankBefore : AreBlank before)
    (blankAfter : AreBlank after) : HasAtMost (before ++ (text ++ after)) words :=
  (hasWords.append_blanks blankAfter).blanks blankBefore

end JamLang.Lexer
