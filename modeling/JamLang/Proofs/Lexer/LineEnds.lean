import JamLang.Proofs.Lexer.Appending
import JamLang.Proofs.Text.LineEnd

/-!
# Tokens and the ends of lines

A carriage return that stands directly before a line feed is in a gap, or behind everything that is
read.  If it is left out, every gap is a gap as before, and what was read as a token is read again:
the one character behind it may only have changed from the carriage return to the line feed, and
neither goes on a token (`IsLexeme.of_alike`).  As the line feed starts a new line in either case, no
token and no fault changes its location (`tokens_withoutReturns`).
-/

namespace JamLang.Lexer

open Text (LongestRun dropReturns dropReturns_append dropReturns_cons dropReturns_cons_of_ne
  dropReturns_return dropReturns_append_of_not_mem exists_dropReturns_append head?_dropReturns)

variable {c : Char} {kind : TokenKind} {loc : Loc} {lexeme gap body text rest other : List Char}
  {cut : Cut}

/-! ## What may stand behind a token -/

/-- The other text starts with the same character as the text, or with a blank, or it is empty. -/
def StartsAlike (rest other : List Char) : Prop :=
  other.head? = rest.head? ∨ Text.StartsBlank other

/-- A symbol reaches no more than one character into what follows, and into no blank. -/
theorem prefix_of_symbol_of_alike {symbol : List Char}
    (isSymbol : (String.ofList symbol, kind) ∈ Vocabulary.symbols) (notEmpty : text ≠ [])
    (alike : StartsAlike rest other) (leads : symbol <+: text ++ other) :
    symbol <+: text ++ rest := by
  cases alike with
  | inr blank => exact (prefix_of_symbol isSymbol leads blank).trans (List.prefix_append text rest)
  | inl sameHead =>
    cases other with
    | nil =>
      rw [List.append_nil] at leads
      exact leads.trans (List.prefix_append text rest)
    | cons d other =>
      obtain ⟨left, rfl⟩ := List.head?_eq_some_iff.1 sameHead.symm
      have atMostTwo := (length_of_mem_symbols isSymbol).2
      have positive := List.length_pos_iff.2 notEmpty
      have within : symbol <+: text ++ [d] := by
        refine List.prefix_of_prefix_length_le leads ⟨other, by simp⟩ ?_
        rw [List.length_append, List.length_singleton]
        omega
      exact within.trans ⟨left, by simp⟩

/-- A run stays the longest one if what follows starts alike, or with a blank that ends it. -/
theorem longestRun_of_alike {test : Char → Bool} {run : List Char}
    (fails : ∀ c, Text.isBlank c = true → test c = false) (alike : StartsAlike rest other)
    (isRun : LongestRun test run rest) : LongestRun test run other := by
  refine ⟨isRun.passes, fun c isFirst => ?_⟩
  cases alike with
  | inl sameHead => exact isRun.stops c (sameHead ▸ isFirst)
  | inr blank => exact fails c (blank c isFirst)

theorem IsLexeme.of_alike (isLexeme : IsLexeme kind lexeme rest) (alike : StartsAlike rest other) :
    IsLexeme kind lexeme other := by
  cases isLexeme with
  | word isLetter isRun hasKind =>
    exact .word isLetter (longestRun_of_alike (fun _ => not_isWordChar_of_isBlank) alike isRun)
      hasKind
  | number isDigit isRun =>
    exact .number isDigit (longestRun_of_alike (fun _ => not_isDigit_of_isBlank) alike isRun)
  | @symbol c more _ _ notLetter notDigit isLongest =>
    refine .symbol notLetter notDigit ⟨isLongest.isSymbol, ⟨other, rfl⟩, ?_⟩
    -- A longer symbol in front of the other text would be one in front of this text as well.
    intro symbol symbolKind isSymbol leads
    rw [← List.cons_append] at leads
    exact isLongest.longest symbol symbolKind isSymbol
      (prefix_of_symbol_of_alike isSymbol (List.cons_ne_nil c more) alike leads)

theorem IsIllegal.of_alike (isIllegal : IsIllegal c rest) (alike : StartsAlike rest other) :
    IsIllegal c other where
  notLetter := isIllegal.notLetter
  notDigit := isIllegal.notDigit
  noSymbol symbol kind isSymbol leads := by
    have leads : symbol <+: [c] ++ other := leads
    exact isIllegal.noSymbol symbol kind isSymbol
      (prefix_of_symbol_of_alike isSymbol (List.cons_ne_nil c []) alike leads)

theorem not_startsGap_of_alike {more : List Char} (alike : StartsAlike rest other)
    (stops : ¬ StartsGap (c :: (more ++ rest))) : ¬ StartsGap (c :: (more ++ other)) := by
  obtain ⟨notSpace, notComment⟩ := not_startsGap_cons.1 stops
  refine not_startsGap_cons.2 ⟨notSpace, fun isSlash => ?_⟩
  cases more with
  | cons d more => exact notComment isSlash
  | nil =>
    cases alike with
    | inl sameHead =>
      rw [List.nil_append, sameHead]
      exact notComment isSlash
    | inr blank =>
      -- The marks that would make a comment of the slash are no blanks.
      constructor <;> intro starts <;> exact absurd (blank _ starts) (by decide)

/-! ## Carriage returns in gaps and behind tokens -/

theorem startsAlike_dropReturns (rest : List Char) : StartsAlike rest (dropReturns rest) := by
  cases head?_dropReturns rest with
  | inl sameHead => exact .inl sameHead
  | inr starts =>
    refine .inr fun c isFirst => ?_
    obtain rfl := Option.some.inj (starts.symm.trans isFirst)
    decide

theorem not_holdsEndMark_dropReturns (isOpen : ¬ HoldsEndMark body) :
    ¬ HoldsEndMark (dropReturns body) := by
  induction body with
  | nil => exact isOpen
  | cons c body ih =>
    obtain ⟨notMark, staysOpen⟩ := not_holdsEndMark_cons.1 isOpen
    by_cases isReturn : c = '\r' ∧ body.head? = some '\n'
    · obtain ⟨rfl, starts⟩ := isReturn
      rw [dropReturns_return starts]
      exact ih staysOpen
    · rw [dropReturns_cons (not_and.1 isReturn)]
      refine not_holdsEndMark_cons.2 ⟨?_, ih staysOpen⟩
      rintro ⟨isStar, starts⟩
      -- No slash moves up behind the star: what moves up is a line feed.
      cases head?_dropReturns body with
      | inl sameHead => exact notMark ⟨isStar, sameHead ▸ starts⟩
      | inr isFeed => exact absurd (isFeed.symm.trans starts) (by decide)

/-- A line still ends where it ended. -/
theorem stops_dropReturns (stops : ∀ c ∈ (gap ++ rest).head?, isInLine c = false) :
    ∀ c ∈ (dropReturns gap ++ dropReturns rest).head?, isInLine c = false := by
  have ofHead {text : List Char} (stops : ∀ c ∈ text.head?, isInLine c = false) :
      ∀ c ∈ (dropReturns text).head?, isInLine c = false := by
    intro c isFirst
    cases head?_dropReturns text with
    | inl sameHead => exact stops c (sameHead ▸ isFirst)
    | inr isFeed =>
      obtain rfl := Option.some.inj (isFeed.symm.trans isFirst)
      decide
  cases gap with
  | nil => exact ofHead stops
  | cons d gap =>
    obtain rfl : d = '\n' := by simpa [isInLine] using stops d rfl
    rw [dropReturns_cons_of_ne (by decide)]
    intro c isFirst
    obtain rfl := Option.some.inj isFirst
    decide

theorem IsGap.dropReturns (isGap : IsGap gap rest) :
    IsGap (dropReturns gap) (dropReturns rest) := by
  induction isGap with
  | nil => exact .nil
  | @blank c gap rest isSpace _ ih =>
    by_cases isReturn : c = '\r' ∧ gap.head? = some '\n'
    · obtain ⟨rfl, starts⟩ := isReturn
      rwa [dropReturns_return starts]
    · rw [dropReturns_cons (not_and.1 isReturn)]
      exact .blank isSpace ih
  | @lineComment body gap rest isLine _ ih =>
    -- The line may lose the carriage return at its end, which is a part of the comment.
    obtain ⟨kept, split, passes⟩ := exists_dropReturns_append isLine.passes gap
    rw [dropReturns_cons_of_ne (by decide), dropReturns_cons_of_ne (by decide), split]
    exact .lineComment ⟨passes, stops_dropReturns isLine.stops⟩ ih
  | @blockComment body gap rest isOpen _ ih =>
    rw [dropReturns_cons_of_ne (by decide), dropReturns_cons_of_ne (by decide),
      dropReturns_append (by simp), dropReturns_cons_of_ne (by decide),
      dropReturns_cons_of_ne (by decide)]
    exact .blockComment (not_holdsEndMark_dropReturns isOpen) ih

theorem StartsUnclosed.dropReturns (unclosed : StartsUnclosed text) :
    StartsUnclosed (dropReturns text) := by
  obtain ⟨body, rfl, isOpen⟩ := unclosed
  rw [dropReturns_cons_of_ne (by decide), dropReturns_cons_of_ne (by decide)]
  exact ⟨_, rfl, not_holdsEndMark_dropReturns isOpen⟩

/-! ## Cuts -/

namespace Cut

/-- The cut with carriage returns left out of its gaps, and of what is not cut. -/
def dropReturns : Cut → Cut
  | finished gap => finished (Text.dropReturns gap)
  | illegal gap c rest => illegal (Text.dropReturns gap) c (Text.dropReturns rest)
  | unclosed gap rest => unclosed (Text.dropReturns gap) (Text.dropReturns rest)
  | token gap kind lexeme following =>
    token (Text.dropReturns gap) kind lexeme following.dropReturns

theorem tokens_dropReturns (cut : Cut) (loc : Loc) : cut.dropReturns.tokens loc = cut.tokens loc := by
  induction cut generalizing loc with
  | finished | illegal | unclosed => rfl
  | token gap kind lexeme following ih =>
    rw [dropReturns, tokens, Loc.advance_dropReturns, ih, tokens]

theorem fault?_dropReturns (cut : Cut) (loc : Loc) : cut.dropReturns.fault? loc = cut.fault? loc := by
  induction cut generalizing loc with
  | finished => rfl
  | illegal | unclosed => rw [dropReturns, fault?, Loc.advance_dropReturns, fault?]
  | token gap kind lexeme following ih =>
    rw [dropReturns, fault?, Loc.advance_dropReturns, ih, fault?]

/-- The first character behind a gap is neither of the two that end a line. -/
theorem ne_of_not_startsGap (stops : ¬ StartsGap (c :: rest)) : c ≠ '\n' ∧ c ≠ '\r' := by
  obtain ⟨notSpace, -⟩ := not_startsGap_cons.1 stops
  constructor <;> rintro rfl <;> exact absurd notSpace (by decide)

theorem text_dropReturns (isLongest : cut.IsLongestMatch) :
    cut.dropReturns.text = Text.dropReturns cut.text := by
  induction cut with
  | finished gap => rfl
  | illegal gap c rest =>
    obtain ⟨-, stops, -⟩ := isLongest
    obtain ⟨notFeed, notReturn⟩ := ne_of_not_startsGap stops
    rw [text, dropReturns_append (by simpa using notFeed), dropReturns_cons_of_ne notReturn]
    rfl
  | unclosed gap rest =>
    obtain ⟨-, body, rfl, -⟩ := isLongest
    rw [text, dropReturns_append (by simp)]
    rfl
  | token gap kind lexeme following ih =>
    obtain ⟨-, stops, isLexeme, isLongest⟩ := isLongest
    have noReturn : '\r' ∉ lexeme := isLexeme.isUnbroken.not_mem (by decide)
    obtain ⟨c, more, rfl⟩ := isLexeme.exists_cons
    obtain ⟨notFeed, -⟩ := ne_of_not_startsGap stops
    rw [text, dropReturns_append (by simpa using notFeed),
      dropReturns_append_of_not_mem noReturn, ← ih isLongest]
    rfl

theorem IsLongestMatch.dropReturns (isLongest : cut.IsLongestMatch) :
    cut.dropReturns.IsLongestMatch := by
  induction cut with
  | finished gap => exact IsGap.dropReturns isLongest
  | illegal gap c rest =>
    obtain ⟨isGap, stops, isIllegal⟩ := isLongest
    have alike := startsAlike_dropReturns rest
    have sameRest : Text.dropReturns (c :: rest) = c :: Text.dropReturns rest :=
      dropReturns_cons_of_ne (ne_of_not_startsGap stops).2 rest
    have stops : ¬ StartsGap (c :: ([] ++ rest)) := stops
    exact ⟨sameRest ▸ isGap.dropReturns, not_startsGap_of_alike alike stops,
      isIllegal.of_alike alike⟩
  | unclosed gap rest =>
    obtain ⟨isGap, unclosed⟩ := isLongest
    exact ⟨isGap.dropReturns, unclosed.dropReturns⟩
  | token gap kind lexeme following ih =>
    obtain ⟨isGap, stops, isLexeme, isLongest⟩ := isLongest
    have alike := startsAlike_dropReturns following.text
    have noReturn : '\r' ∉ lexeme := isLexeme.isUnbroken.not_mem (by decide)
    -- What stands behind the gap and behind the lexeme is the text of the cut that follows.
    have isGap' := isGap.dropReturns
    rw [dropReturns_append_of_not_mem noReturn, ← text_dropReturns isLongest] at isGap'
    rw [← text_dropReturns isLongest] at alike
    obtain ⟨c, more, rfl⟩ := isLexeme.exists_cons
    exact ⟨isGap', not_startsGap_of_alike alike stops, isLexeme.of_alike alike, ih isLongest⟩

end Cut

/-! ## Whole texts -/

/-- Lexing comes to the same tokens and to the same fault. -/
theorem tokens_withoutReturns (source : String) :
    tokens (Text.withoutReturns source) = tokens source := by
  obtain ⟨cut, isText, isLongest, lexed⟩ := exists_tokens_eq source
  have shorter : (Text.withoutReturns source).toList = cut.dropReturns.text := by
    rw [Text.withoutReturns, String.toList_ofList, ← isText, Cut.text_dropReturns isLongest]
  rw [lexed, tokens, Reader.ofString, shorter, tokensFrom_text isLongest.dropReturns,
    cut.tokens_dropReturns, cut.fault?_dropReturns]

end JamLang.Lexer
