import JamLang.Proofs.Lexer.Gaps
import JamLang.Proofs.Lexer.Lexemes

/-!
# Texts that spell words

A word of a text is what a token is apart from its location: a kind and a text.  A text spells some
words if these are the tokens that the lexer takes off it, wherever the text stands.  As the lexer
takes the longest word, number or symbol, this also depends on what comes next, so it is asked for
only where a separator or the end comes next (`StartsApart`).  Texts that are put together with
separators between them then spell their words one after the other.
-/

namespace JamLang

/-- What a token is apart from its location. -/
abbrev Word := TokenKind × String

/-- The kind and the text of a token. -/
def Token.word (token : Token) : Word :=
  (token.kind, token.text)

namespace Lexer

open Text (LongestRun)

variable {loc : Loc} {c : Char} {text first second rest lexeme : List Char} {kind : TokenKind}
  {words more : List Word}

/-! ## Separators -/

/-- Characters that never go on with what stands before them. -/
def separators : List Char :=
  [' ', '\t', '\r', '\n', '\x0c', '(', ')', ',', ';']

/-- A separator comes first, or nothing. -/
def StartsApart (text : List Char) : Prop :=
  ∀ c ∈ text.head?, c ∈ separators

theorem startsApart_nil : StartsApart [] := by
  simp [StartsApart]

theorem startsApart_cons (isSeparator : c ∈ separators) : StartsApart (c :: text) := by
  rintro _ ⟨⟩
  exact isSeparator

theorem StartsApart.append (before : StartsApart first) (after : StartsApart second) :
    StartsApart (first ++ second) := by
  cases first with
  | nil => exact after
  | cons c first => exact before

theorem not_isWordChar_of_separator : ∀ c ∈ separators, isWordChar c = false := by
  have isOther : ∀ c ∈ separators, c.toNat < 0x80 ∧
      (c.isAlpha || c.isDigit || c == '_' || c == '?') = false := by simp [separators]
  intro c isSeparator
  obtain ⟨isAscii, notWordChar⟩ := isOther c isSeparator
  rwa [isWordChar, Text.isLetter_of_isAscii isAscii, Text.isNumeric_of_isAscii isAscii]

theorem not_isDigit_of_separator : ∀ c ∈ separators, c.isDigit = false := by
  simp [separators]

/-- A run of characters ends where a separator stands that fails the test. -/
theorem longestRun_of_startsApart {test : Char → Bool} {run : List Char}
    (passes : ∀ c ∈ run, test c = true) (fails : ∀ c ∈ separators, test c = false)
    (apart : StartsApart rest) : LongestRun test run rest :=
  ⟨passes, fun c isFirst => fails c (apart c isFirst)⟩

/-! ## The first character of a token -/

theorem not_isSpace_of_isLetter (isLetter : Text.isLetter c = true) : isSpace c = false := by
  have isOther : ∀ c ∈ [' ', '\t', '\r', '\n', '\x0c'], c.toNat < 0x80 ∧ c.isAlpha = false := by
    simp
  rw [Bool.eq_false_iff]
  intro isSpace
  obtain ⟨isAscii, notAlpha⟩ := isOther c (by simpa [Lexer.isSpace] using isSpace)
  rw [Text.isLetter_of_isAscii isAscii, notAlpha] at isLetter
  exact absurd isLetter (by decide)

theorem not_isSpace_of_isDigit (isDigit : c.isDigit = true) : isSpace c = false := by
  have isOther : ∀ c ∈ [' ', '\t', '\r', '\n', '\x0c'], c.isDigit = false := by simp
  rw [Bool.eq_false_iff]
  intro isSpace
  rw [isOther c (by simpa [Lexer.isSpace] using isSpace)] at isDigit
  exact absurd isDigit (by decide)

/-- No symbol starts like a word, a number or a gap, and only the operator for division starts like
a comment. -/
theorem head_of_symbol (isSymbol : (String.ofList (c :: text), kind) ∈ Vocabulary.symbols) :
    Text.isLetter c = false ∧ c.isDigit = false ∧ isSpace c = false ∧ (c = '/' → text = []) := by
  have starts : ∀ entry ∈ Vocabulary.symbols, entry.1.toList.head?.all (fun c =>
      c.toNat < 0x80 && !c.isAlpha && !c.isDigit && !isSpace c) = true := by decide
  have slash : ∀ entry ∈ Vocabulary.symbols, entry.1.toList.head? = some '/' →
      entry.1.toList.tail = [] := by decide
  have isOther := starts _ isSymbol
  simp only [String.toList_ofList, List.head?_cons, Option.all_some, Bool.and_eq_true,
    decide_eq_true_eq, Bool.not_eq_true'] at isOther
  obtain ⟨⟨⟨isAscii, notAlpha⟩, notDigit⟩, notSpace⟩ := isOther
  refine ⟨(Text.isLetter_of_isAscii isAscii).trans notAlpha, notDigit, notSpace, ?_⟩
  rintro rfl
  simpa using slash _ isSymbol

/-- No gap starts with a lexeme before a separator. -/
theorem IsLexeme.not_startsGap (isLexeme : IsLexeme kind lexeme rest) (apart : StartsApart rest) :
    ¬ StartsGap (lexeme ++ rest) := by
  cases isLexeme with
  | word isLetter =>
    refine not_startsGap_cons.2 ⟨not_isSpace_of_isLetter isLetter, ?_⟩
    rintro rfl
    rw [Text.isLetter_of_isAscii (by decide)] at isLetter
    exact absurd isLetter (by decide)
  | number isDigit =>
    refine not_startsGap_cons.2 ⟨not_isSpace_of_isDigit isDigit, ?_⟩
    rintro rfl
    exact absurd isDigit (by decide)
  | symbol _ _ isLongest =>
    obtain ⟨-, -, notSpace, ifSlash⟩ := head_of_symbol isLongest.isSymbol
    refine not_startsGap_cons.2 ⟨notSpace, fun isSlash => ?_⟩
    -- The slash is the only symbol that could be taken for a comment.
    obtain rfl := ifSlash isSlash
    exact ⟨fun starts => absurd (apart _ starts) (by decide),
      fun starts => absurd (apart _ starts) (by decide)⟩

/-! ## Texts and the words they spell -/

/-- Wherever the text stands before a separator or the end, the lexer takes the words off it. -/
def Spells (text : List Char) (words : List Word) : Prop :=
  ∀ loc rest, StartsApart rest → ∃ tokens after, tokens.map Token.word = words ∧
    tokensFrom ⟨loc, text ++ rest⟩ =
      (tokens ++ (tokensFrom ⟨after, rest⟩).1, (tokensFrom ⟨after, rest⟩).2)

theorem spells_nil : Spells [] [] :=
  fun loc _ _ => ⟨[], loc, rfl, rfl⟩

/-- Texts spell their words one after the other if a separator stands between them. -/
theorem Spells.append (spells : Spells first words) (apart : StartsApart second)
    (spells' : Spells second more) : Spells (first ++ second) (words ++ more) := by
  intro loc rest apart'
  obtain ⟨tokens, middle, isWords, lexed⟩ := spells loc (second ++ rest) (apart.append apart')
  obtain ⟨tokens', after, isMore, lexed'⟩ := spells' middle rest apart'
  refine ⟨tokens ++ tokens', after, by rw [List.map_append, isWords, isMore], ?_⟩
  rw [List.append_assoc, lexed, lexed', List.append_assoc]

/-- A gap before a text changes nothing. -/
theorem tokensFrom_gap {gap : List Char} (isGap : IsGap gap rest) (loc : Loc) :
    tokensFrom ⟨loc, gap ++ rest⟩ = tokensFrom ⟨loc.advance gap, rest⟩ := by
  have skips := skipGap_append isGap loc
  cases skipped : skipGap (loc.advance gap) rest with
  | error fault =>
    have read : nextToken ⟨loc, gap ++ rest⟩ = .fault fault (Reader.toEnd ⟨loc, gap ++ rest⟩) := by
      simp only [nextToken, skips, skipped]
    have read' : nextToken ⟨loc.advance gap, rest⟩ =
        .fault fault (Reader.toEnd ⟨loc.advance gap, rest⟩) := by
      simp only [nextToken, skipped]
    rw [tokensFrom_of_fault read, tokensFrom_of_fault read']
  | ok after =>
    obtain ⟨afterLoc, left⟩ := after
    have same : nextToken ⟨loc, gap ++ rest⟩ = nextToken ⟨loc.advance gap, rest⟩ := by
      simp only [nextToken, skips, skipped]
      cases left <;> rfl
    cases read : nextToken ⟨loc.advance gap, rest⟩ with
    | token => rw [tokensFrom_of_token (same.trans read), tokensFrom_of_token read]
    | finished => rw [tokensFrom_of_finished (same.trans read), tokensFrom_of_finished read]
    | fault => rw [tokensFrom_of_fault (same.trans read), tokensFrom_of_fault read]

theorem Spells.space (spells : Spells text words) : Spells (' ' :: text) words := by
  intro loc rest apart
  obtain ⟨tokens, after, isWords, lexed⟩ := spells (loc.next ' ') rest apart
  have isGap : IsGap [' '] (text ++ rest) := .blank (by decide) .nil
  have skipped := tokensFrom_gap isGap loc
  exact ⟨tokens, after, isWords, skipped.trans lexed⟩

/-- The lexer takes a lexeme off a text and goes on with what is left of it. -/
theorem tokensFrom_lexeme (stops : ¬ StartsGap (lexeme ++ rest))
    (isLexeme : IsLexeme kind lexeme rest) (loc : Loc) :
    tokensFrom ⟨loc, lexeme ++ rest⟩ =
      (⟨kind, String.ofList lexeme, loc⟩ :: (tokensFrom ⟨loc.advance lexeme, rest⟩).1,
        (tokensFrom ⟨loc.advance lexeme, rest⟩).2) := by
  obtain ⟨c, more, rfl⟩ := isLexeme.exists_cons
  have skipped := skipGap_of_not_startsGap stops loc
  rw [List.cons_append] at skipped
  apply tokensFrom_of_token
  simp only [nextToken, List.cons_append, skipped, readToken_of_isLexeme isLexeme]

theorem Spells.cons {left : List Char}
    (stops : ∀ rest, StartsApart rest → ¬ StartsGap (lexeme ++ (left ++ rest)))
    (isLexeme : ∀ rest, StartsApart rest → IsLexeme kind lexeme (left ++ rest))
    (spells : Spells left words) :
    Spells (lexeme ++ left) ((kind, String.ofList lexeme) :: words) := by
  intro loc rest apart
  obtain ⟨tokens, after, isWords, lexed⟩ := spells (loc.advance lexeme) rest apart
  have taken := tokensFrom_lexeme (stops rest apart) (isLexeme rest apart) loc
  refine ⟨⟨kind, String.ofList lexeme, loc⟩ :: tokens, after, ?_, ?_⟩
  · rw [List.map_cons, isWords]
    rfl
  · rw [List.append_assoc, taken, lexed]
    rfl

/-- A text that is one lexeme before every separator spells one word. -/
theorem spells_lexeme (isLexeme : ∀ rest, StartsApart rest → IsLexeme kind lexeme rest) :
    Spells lexeme [(kind, String.ofList lexeme)] := by
  have spells := Spells.cons (fun rest apart => (isLexeme rest apart).not_startsGap apart) isLexeme
    spells_nil
  rwa [List.append_nil] at spells

/-! ## Words and numbers -/

/-- The text is a letter and characters that go on a word. -/
def isWord : List Char → Bool
  | [] => false
  | c :: rest => Text.isLetter c && rest.all isWordChar

theorem isLexeme_word {word : String} (isWord : isWord word.toList = true)
    (apart : StartsApart rest) : IsLexeme (Vocabulary.wordKind word) word.toList rest := by
  have same : String.ofList word.toList = word := String.ofList_toList
  generalize word.toList = letters at isWord same
  subst same
  cases letters with
  | nil => exact absurd isWord (by decide)
  | cons c text =>
    obtain ⟨isLetter, run⟩ := Bool.and_eq_true_iff.1 isWord
    rw [List.all_eq_true] at run
    exact .word isLetter (longestRun_of_startsApart run not_isWordChar_of_separator apart)
      (Vocabulary.hasKind_iff.2 rfl)

theorem spells_word {word : String} (isWord : isWord word.toList = true) :
    Spells word.toList [(Vocabulary.wordKind word, word)] := by
  have spells := spells_lexeme fun _ apart => isLexeme_word isWord apart
  rwa [String.ofList_toList] at spells

/-- Only words are read as identifiers. -/
theorem isWord_of_readToken {token : Token} {after : Reader}
    (read : readToken loc c rest = .token token after) (isIdentifier : token.kind = .identifier) :
    isWord token.text.toList = true ∧ Vocabulary.wordKind token.text = .identifier := by
  unfold readToken at read
  split at read
  · next isLetter =>
    obtain ⟨rfl, -⟩ := Scan.token.inj read
    exact ⟨by simp [isWord, isLetter], isIdentifier⟩
  · split at read
    · obtain ⟨rfl, -⟩ := Scan.token.inj read
      exact absurd isIdentifier (by simp)
    · split at read
      · next kind symbol found =>
        obtain ⟨rfl, -⟩ := Scan.token.inj read
        have noIdentifier : ∀ entry ∈ Vocabulary.symbols, entry.2 ≠ .identifier := by decide
        exact absurd isIdentifier (noIdentifier _ (mem_symbols_of_symbol? found))
      · simp at read

/-- A reserved word is a word of its own kind. -/
theorem spells_reserved {word : String} {kind : TokenKind}
    (isReserved : (word, kind) ∈ Vocabulary.keywords ++ Vocabulary.literals) :
    Spells word.toList [(kind, word)] := by
  have reserved : ∀ entry ∈ Vocabulary.keywords ++ Vocabulary.literals,
      isWord entry.1.toList = true ∧ Vocabulary.wordKind entry.1 = entry.2 := by decide
  obtain ⟨isWord, isKind⟩ := reserved _ isReserved
  have spells := spells_word isWord
  rwa [isKind] at spells

theorem spells_primitive {name : String} (isPrimitive : name ∈ Vocabulary.primitives) :
    Spells name.toList [(.primitive, name)] := by
  have reserved : ∀ name ∈ Vocabulary.primitives,
      isWord name.toList = true ∧ Vocabulary.wordKind name = .primitive := by decide +kernel
  obtain ⟨isWord, isKind⟩ := reserved _ isPrimitive
  have spells := spells_word isWord
  rwa [isKind] at spells

theorem spells_number {digits : List Char} (notEmpty : digits ≠ [])
    (areDigits : ∀ c ∈ digits, c.isDigit = true) :
    Spells digits [(.integer, String.ofList digits)] := by
  obtain ⟨c, text, rfl⟩ := List.exists_cons_of_ne_nil notEmpty
  obtain ⟨isDigit, run⟩ := List.forall_mem_cons.1 areDigits
  exact spells_lexeme fun rest apart =>
    .number isDigit (longestRun_of_startsApart run not_isDigit_of_separator apart)

/-! ## Symbols -/

/-- A symbol stays the longest one before a separator, which only ever starts a symbol. -/
theorem isLongestSymbol_append {symbol : List Char}
    (isSymbol : (String.ofList symbol, kind) ∈ Vocabulary.symbols) (apart : StartsApart rest) :
    IsLongestSymbol symbol kind (symbol ++ rest) := by
  have onlyFirst : ∀ entry ∈ Vocabulary.symbols,
      entry.1.toList.tail.all (fun c => c ∉ separators) = true := by decide
  refine ⟨isSymbol, List.prefix_append symbol rest, fun other otherKind isOther starts => ?_⟩
  rcases Nat.lt_or_ge symbol.length other.length with longer | shorter
  · obtain ⟨more, rfl⟩ := List.prefix_of_prefix_length_le (List.prefix_append symbol rest) starts
      (Nat.le_of_lt longer)
    obtain ⟨c, symbol, rfl⟩ := List.exists_cons_of_length_pos (length_of_mem_symbols isSymbol).1
    cases more with
    | nil => simp at longer
    | cons d more =>
      obtain ⟨left, rfl⟩ := (List.prefix_append_right_inj _).1 starts
      have notSeparator := List.all_eq_true.1 (onlyFirst _ isOther) d (by simp)
      exact absurd (apart d rfl) (of_decide_eq_true notSeparator)
  · exact shorter

theorem spells_symbol {symbol : String} {kind : TokenKind}
    (isSymbol : (symbol, kind) ∈ Vocabulary.symbols) : Spells symbol.toList [(kind, symbol)] := by
  have same : String.ofList symbol.toList = symbol := String.ofList_toList
  generalize symbol.toList = letters at same
  subst same
  obtain ⟨c, text, rfl⟩ := List.exists_cons_of_length_pos (length_of_mem_symbols isSymbol).1
  obtain ⟨notLetter, notDigit, -, -⟩ := head_of_symbol isSymbol
  exact spells_lexeme fun rest apart =>
    .symbol notLetter notDigit (isLongestSymbol_append isSymbol apart)

/-- Whatever is a lexeme spells its word before every separator. -/
theorem IsLexeme.spells (isLexeme : IsLexeme kind lexeme rest) :
    Spells lexeme [(kind, String.ofList lexeme)] := by
  cases isLexeme with
  | @word c run _ kind isLetter isRun hasKind =>
    have isWord : isWord (String.ofList (c :: run)).toList = true := by
      simpa [Lexer.isWord, isLetter] using isRun.passes
    have spells := spells_word isWord
    rwa [String.toList_ofList, Vocabulary.hasKind_iff.1 hasKind] at spells
  | number isDigit isRun =>
    exact spells_number (List.cons_ne_nil _ _) (List.forall_mem_cons.2 ⟨isDigit, isRun.passes⟩)
  | symbol _ _ isLongest =>
    have spells := spells_symbol isLongest.isSymbol
    rwa [String.toList_ofList] at spells

/-- The symbols of one character that start no longer symbol, no gap, no word and no number. -/
def marks : List (Char × TokenKind) :=
  [('(', .leftParen), (')', .rightParen), (',', .comma), (';', .semicolon)]

/-- A mark is the longest symbol whatever comes next. -/
theorem isLongestSymbol_mark (isMark : (c, kind) ∈ marks) (rest : List Char) :
    IsLongestSymbol [c] kind (c :: rest) := by
  have areSymbols : ∀ mark ∈ marks, (String.ofList [mark.1], mark.2) ∈ Vocabulary.symbols := by
    decide
  have noLonger : ∀ mark ∈ marks, ∀ entry ∈ Vocabulary.symbols,
      entry.1.toList.head? = some mark.1 → entry.1.toList.length = 1 := by decide
  refine ⟨areSymbols _ isMark, ⟨rest, rfl⟩, fun other otherKind isOther starts => ?_⟩
  obtain ⟨d, other, rfl⟩ := List.exists_cons_of_length_pos (length_of_mem_symbols isOther).1
  obtain ⟨left, same⟩ := starts
  obtain ⟨rfl, -⟩ := List.cons.inj same
  simpa using noLonger _ isMark _ isOther (by simp)

theorem Spells.mark {kind : TokenKind} (isMark : (c, kind) ∈ marks) (spells : Spells text words) :
    Spells (c :: text) ((kind, String.singleton c) :: words) := by
  have notSlash : ∀ mark ∈ marks, mark.1 ≠ '/' := by decide
  obtain ⟨notLetter, notDigit, notSpace, -⟩ :=
    head_of_symbol (isLongestSymbol_mark isMark []).isSymbol
  have stops (text : List Char) : ¬ StartsGap (c :: text) :=
    not_startsGap_cons.2 ⟨notSpace, fun isSlash => absurd isSlash (notSlash _ isMark)⟩
  have isLexeme (text : List Char) : IsLexeme kind [c] text :=
    .symbol notLetter notDigit (isLongestSymbol_mark isMark text)
  rw [String.singleton_eq_ofList]
  exact Spells.cons (fun rest _ => stops (text ++ rest)) (fun rest _ => isLexeme (text ++ rest))
    spells

/-- Parentheses around a text stand around its words. -/
theorem Spells.inParens (spells : Spells text words) :
    Spells ('(' :: (text ++ [')'])) ((.leftParen, "(") :: (words ++ [(.rightParen, ")")])) :=
  (spells.append (startsApart_cons (by decide)) (spells_nil.mark (by decide))).mark (by decide)

/-- A space separates texts. -/
theorem Spells.spaced (spells : Spells first words) (spells' : Spells second more) :
    Spells (first ++ ' ' :: second) (words ++ more) :=
  spells.append (startsApart_cons (by decide)) spells'.space

/-! ## Whole texts -/

theorem tokenize_eq_ok_iff {source : String} {tokens : List Token} :
    tokenize source = .ok tokens ↔ Lexer.tokens source = (tokens, none) := by
  rw [tokenize]
  split
  · next lexed => simp [lexed]
  · next lexed => simp [lexed]

theorem tokenize_eq_error_iff {source : String} {fault : LexicalFault} :
    tokenize source = .error fault ↔ (Lexer.tokens source).2 = some fault := by
  rw [tokenize]
  split
  · next lexed => simp [lexed]
  · next lexed => simp [lexed]

theorem tokensFrom_nil (loc : Loc) : tokensFrom ⟨loc, []⟩ = ([], none) := by
  have read : nextToken ⟨loc, []⟩ = .finished ⟨loc, []⟩ := by
    simp only [nextToken, skipGap]
  exact tokensFrom_of_finished read

/-- Wherever the text stands, the lexer takes these words off it and comes to its end. -/
def HasWords (text : List Char) (words : List Word) : Prop :=
  ∀ loc, ∃ tokens, tokens.map Token.word = words ∧ tokensFrom ⟨loc, text⟩ = (tokens, none)

theorem Spells.hasWords (spells : Spells text words) : HasWords text words := by
  intro loc
  obtain ⟨tokens, after, areWords, lexed⟩ := spells loc [] startsApart_nil
  rw [List.append_nil, tokensFrom_nil, List.append_nil] at lexed
  exact ⟨tokens, areWords, lexed⟩

/-- A text that spells some words has their tokens. -/
theorem tokens_of_spells {text : String} {words : List Word} (spells : Spells text.toList words) :
    ∃ tokens, Lexer.tokens text = (tokens, none) ∧ tokens.map Token.word = words := by
  obtain ⟨tokens, areWords, lexed⟩ := spells.hasWords .start
  exact ⟨tokens, lexed, areWords⟩

/-- A text that spells something is not empty. -/
theorem Spells.ne_nil (spells : Spells text words) (notEmpty : words ≠ []) : text ≠ [] := by
  rintro rfl
  obtain ⟨tokens, rfl, lexed⟩ := spells.hasWords .start
  obtain ⟨rfl, -⟩ := Prod.mk.inj ((tokensFrom_nil .start).symm.trans lexed)
  exact notEmpty List.map_nil

end Lexer

end JamLang
