import JamLang.Proofs.Cursor.Scanner
import JamLang.Proofs.Lexer.LongestMatch

/-!
# Cursors inside of their text

A cursor inside of its text faces what is left of it.  There every step sees and reads the first
characters of what is left, so each loop does what the lexer does with it, and leaves the cursor
inside of the text again.  Hence no step of a scanner that starts with a text is ever taken outside
of it, and the only faults are those of the lexer (`scans_ofString`).
-/

namespace JamLang

open Lexer (isSpace isWordChar isInLine)

/-- A reader that has come to the same place as another one, by reading what is between them. -/
theorem Reader.toEnd_eq_of_append (reader : Reader) {after : Reader} (between : List Char)
    (split : reader.rest = between ++ after.rest) (moved : after.loc = reader.loc.advance between) :
    after.toEnd = reader.toEnd := by
  rw [toEnd, toEnd, moved, split, Loc.advance_append]

namespace Cursor

variable {test : Char → Bool} {start loc : Loc} {c : Char} {text rest : List Char}
  {reader : Reader}

/-! ## Steps inside of a text -/

/-- The cursor in a text where a reader of it has come. -/
def facing (text : List Char) (reader : Reader) : Cursor :=
  { source := text, position := text.length - reader.rest.length, loc := reader.loc }

theorem ofString_eq_facing (source : String) :
    ofString source = facing source.toList (.ofString source) := by
  rw [ofString, facing, Reader.ofString, Int.sub_self]

theorem position_facing (before : List Char) (loc : Loc) (rest : List Char) :
    (facing (before ++ rest) ⟨loc, rest⟩).position = before.length := by
  dsimp only [facing]
  rw [List.length_append]
  omega

theorem reader_facing (reader : Reader) (within : reader.rest <:+ text) :
    (facing text reader).reader = reader := by
  obtain ⟨before, rfl⟩ := within
  rw [Cursor.reader, position_facing, Int.toNat_natCast]
  exact congrArg (Reader.mk reader.loc) List.drop_left

theorem moveTo_facing (within : reader.rest <:+ text) (after : Reader) :
    (facing text reader).moveTo after = facing text after := by
  rw [moveTo, reader_facing reader within]
  dsimp only [facing]
  congr 1
  omega

theorem loc_facing (text : List Char) (reader : Reader) : (facing text reader).loc = reader.loc :=
  rfl

/-- Nothing in front of the text is to be passed. -/
theorem afterUnseen_facing {α : Type} (within : reader.rest <:+ text)
    (step : List Char → Cursor → Except CursorFault α × Cursor) :
    (facing text reader).afterUnseen step = step [] (facing text reader) := by
  have isInside : 0 ≤ (facing text reader).position := by
    obtain ⟨before, rfl⟩ := within
    rw [position_facing]
    exact Int.natCast_nonneg before.length
  rw [afterUnseen, passUnseen]
  simp only [if_pos isInside]

theorem atEnd_facing (text : List Char) (reader : Reader) :
    (facing text reader).atEnd = reader.rest.isEmpty := by
  cases rest : reader.rest with
  | nil => simp [atEnd, facing, rest]
  | cons c more =>
    simp only [atEnd, facing, rest, List.length_cons, List.isEmpty_cons, decide_eq_false_iff_not]
    omega

theorem peek_facing (loc : Loc) (within : rest <:+ text) (offset : Nat) :
    (facing text ⟨loc, rest⟩).peek offset = rest[offset]? := by
  obtain ⟨before, rfl⟩ := within
  have isInside : (0 : Int) ≤ before.length + offset := Int.natCast_nonneg (before.length + offset)
  have index : ((before.length : Int) + offset).toNat = before.length + offset := by omega
  dsimp only [peek]
  rw [position_facing, if_pos isInside, index, facing,
    List.getElem?_append_right (Nat.le_add_right _ _), Nat.add_sub_cancel_left]

theorem peek_zero_facing (loc : Loc) (within : c :: rest <:+ text) :
    (facing text ⟨loc, c :: rest⟩).peek 0 = some c :=
  peek_facing loc within 0

theorem peek_one_facing (loc : Loc) (within : c :: rest <:+ text) :
    (facing text ⟨loc, c :: rest⟩).peek 1 = rest.head? :=
  (peek_facing loc within 1).trans List.head?_eq_getElem?.symm

theorem next_facing (loc : Loc) (within : c :: rest <:+ text) :
    (facing text ⟨loc, c :: rest⟩).next = (.ok c, facing text ⟨loc.next c, rest⟩) := by
  obtain ⟨before, rfl⟩ := within
  have read : (before ++ c :: rest)[before.length]? = some c := by
    simp
  have notAtEnd : ¬ ((before ++ c :: rest).length : Int) ≤ before.length := by
    rw [List.length_append, List.length_cons]
    omega
  have moved : facing (before ++ c :: rest) ⟨loc.next c, rest⟩ =
      ⟨before ++ c :: rest, before.length + 1, loc.next c⟩ := by
    dsimp only [facing]
    rw [List.length_append, List.length_cons]
    congr 1
    omega
  dsimp only [next]
  rw [position_facing, moved]
  simp only [facing, if_neg notAtEnd, Int.natCast_nonneg, if_true, Int.toNat_natCast, read]

/-! ## Loops inside of a text -/

theorem scanWhile_facing (test : Char → Bool) (loc : Loc) (within : rest <:+ text) :
    (facing text ⟨loc, rest⟩).scanWhile test =
      (.ok (rest.takeWhile test), facing text (Reader.dropWhile test ⟨loc, rest⟩)) := by
  induction rest generalizing loc with
  | nil =>
    rw [scanWhile_eq, atEnd_facing]
    rfl
  | cons c rest ih =>
    rw [scanWhile_eq, atEnd_facing, if_neg (by simp), peek_zero_facing _ within,
      Option.all_some]
    by_cases passes : test c = true
    · rw [if_pos passes, next_facing _ within, proceed,
        ih _ ((List.suffix_cons c rest).trans within)]
      simp [proceed, Reader.dropWhile, passes]
    · simp [Reader.dropWhile, passes]

theorem scanBody_facing (start loc : Loc) (within : rest <:+ text) :
    (facing text ⟨loc, rest⟩).scanBody start =
      match Lexer.afterComment? loc rest with
      | some after => (.ok (), facing text after)
      | none => (.error (.lexical (.unterminatedComment start)),
          facing text (Reader.toEnd ⟨loc, rest⟩)) := by
  -- The cases are those of the search for the end mark: no text, the mark, and any other character.
  fun_induction Lexer.afterComment? loc rest with
  | case1 loc =>
    rw [scanBody_eq, atEnd_facing]
    rfl
  | case2 loc rest =>
    rw [scanBody_eq, atEnd_facing, if_neg (by simp), peek_zero_facing _ within,
      peek_one_facing _ within, if_pos ⟨rfl, rfl⟩, next_facing _ within, proceed,
      next_facing _ ((List.suffix_cons '*' _).trans within), proceed]
  | case3 loc c rest noMark ih =>
    have notMark : ¬ (some c = some '*' ∧ rest.head? = some '/') := by
      rintro ⟨isStar, isSlash⟩
      obtain ⟨more, rfl⟩ := List.head?_eq_some_iff.1 isSlash
      exact noMark more (Option.some.inj isStar) rfl
    rw [scanBody_eq, atEnd_facing, if_neg (by simp), peek_zero_facing _ within,
      peek_one_facing _ within, if_neg notMark, next_facing _ within, proceed,
      ih ((List.suffix_cons c rest).trans within)]
    rfl

theorem scanBlock_facing (loc : Loc) {c d : Char} (within : c :: d :: rest <:+ text) :
    (facing text ⟨loc, c :: d :: rest⟩).scanBlock =
      match Lexer.afterComment? ((loc.next c).next d) rest with
      | some after => (.ok (), facing text after)
      | none => (.error (.lexical (.unterminatedComment loc)),
          facing text (Reader.toEnd ⟨loc, c :: d :: rest⟩)) := by
  have within' := (List.suffix_cons c _).trans within
  rw [scanBlock, next_facing _ within, proceed, next_facing _ within', proceed,
    scanBody_facing _ _ ((List.suffix_cons d rest).trans within')]
  rfl

/-- One turn of the loop, with what the cursor sees. -/
theorem scanGap_facing_cons (loc : Loc) (within : c :: rest <:+ text) :
    (facing text ⟨loc, c :: rest⟩).scanGap =
      if isSpace c then (facing text ⟨loc.next c, rest⟩).scanGap
      else if c = '/' ∧ rest.head? = some '/' then
        (facing text (Reader.dropWhile isInLine ⟨loc, c :: rest⟩)).scanGap
      else if c = '/' ∧ rest.head? = some '*' then
        proceed (facing text ⟨loc, c :: rest⟩).scanBlock fun _ after => after.scanGap
      else (.ok (), facing text ⟨loc, c :: rest⟩) := by
  rw [scanGap_eq, atEnd_facing, if_pos (by simp), peek_zero_facing _ within,
    peek_one_facing _ within, next_facing _ within, scanWhile_facing _ _ within]
  simp only [Option.all_some, Option.some.injEq, proceed]

theorem scanGap_facing (loc : Loc) (within : rest <:+ text) :
    (facing text ⟨loc, rest⟩).scanGap =
      match Lexer.skipGap loc rest with
      | .ok after => (.ok (), facing text after)
      | .error fault => (.error (.lexical fault), facing text (Reader.toEnd ⟨loc, rest⟩)) := by
  fun_induction Lexer.skipGap loc rest with
  | case1 loc =>
    rw [scanGap_eq, atEnd_facing]
    rfl
  | case2 loc rest ih =>
    -- The scanner reads the two slashes as a part of the line that they open.
    have dropped : Reader.dropWhile isInLine ⟨loc, '/' :: '/' :: rest⟩ =
        ⟨loc.advance ('/' :: '/' :: rest.takeWhile isInLine), rest.dropWhile isInLine⟩ := rfl
    have within' : rest.dropWhile isInLine <:+ text :=
      (List.dropWhile_suffix isInLine).trans ((List.suffix_append ['/', '/'] rest).trans within)
    have sameEnd : Reader.toEnd ⟨loc.advance ('/' :: '/' :: rest.takeWhile isInLine),
        rest.dropWhile isInLine⟩ = Reader.toEnd ⟨loc, '/' :: '/' :: rest⟩ :=
      Reader.toEnd_eq_of_append ⟨loc, _⟩ ('/' :: '/' :: rest.takeWhile isInLine) (by simp) rfl
    rw [scanGap_facing_cons _ within, if_neg (by decide), if_pos ⟨rfl, rfl⟩, dropped, ih within',
      sameEnd]
  | case3 loc rest after found ih =>
    obtain ⟨body, rfl, -, moved⟩ := Lexer.exists_of_afterComment? found
    have split : '/' :: '*' :: (body ++ '*' :: '/' :: after.rest) =
        ('/' :: '*' :: body ++ ['*', '/']) ++ after.rest := by simp
    have within' : after.rest <:+ text :=
      (List.suffix_append _ _).trans (split ▸ within)
    have sameEnd := Reader.toEnd_eq_of_append ⟨loc, _⟩ _ split moved
    rw [scanGap_facing_cons _ within, if_neg (by decide), if_neg (by simp), if_pos ⟨rfl, rfl⟩,
      scanBlock_facing _ within, found, proceed, ih within', sameEnd]
  | case4 loc rest notFound =>
    rw [scanGap_facing_cons _ within, if_neg (by decide), if_neg (by simp), if_pos ⟨rfl, rfl⟩,
      scanBlock_facing _ within, notFound, proceed]
  | case5 loc c rest _ _ isBlank ih =>
    rw [scanGap_facing_cons _ within, if_pos isBlank, ih ((List.suffix_cons c rest).trans within)]
    rfl
  | case6 loc c rest noLine noBlock notBlank =>
    -- A slash here is not followed by the mark of a comment.
    have notOpened (mark : Char) (noMark : ∀ more, c = '/' → rest = mark :: more → False) :
        ¬ (c = '/' ∧ rest.head? = some mark) := by
      rintro ⟨isSlash, isMark⟩
      obtain ⟨more, rfl⟩ := List.head?_eq_some_iff.1 isMark
      exact noMark more isSlash rfl
    rw [scanGap_facing_cons _ within, if_neg notBlank, if_neg (notOpened '/' noLine),
      if_neg (notOpened '*' noBlock)]

/-! ## Tokens inside of a text -/

theorem seekSymbol_facing (loc : Loc) (within : c :: rest <:+ text) :
    (facing text ⟨loc, c :: rest⟩).seekSymbol [] none [0, 1] = Lexer.symbol? (c :: rest) := by
  have sees : (facing text ⟨loc, c :: rest⟩).peek ((0 : Nat) : Int) = some c :=
    peek_zero_facing loc within
  have seesNext : (facing text ⟨loc, c :: rest⟩).peek ((1 : Nat) : Int) = rest.head? :=
    peek_one_facing loc within
  cases rest with
  | nil =>
    simp only [seekSymbol, sees, seesNext, List.head?_nil, List.nil_append, Lexer.symbol?,
      List.findSome?_cons, List.findSome?_nil, List.take_succ_cons, List.take_nil]
    cases Vocabulary.symbolKind? (String.ofList [c]) <;> rfl
  | cons d rest =>
    simp only [seekSymbol, sees, seesNext, List.head?_cons, List.nil_append, Lexer.symbol?,
      List.cons_append, List.findSome?_cons, List.findSome?_nil, List.take_succ_cons,
      List.take_zero]
    cases Vocabulary.symbolKind? (String.ofList [c]) <;>
      cases Vocabulary.symbolKind? (String.ofList [c, d]) <;> rfl

theorem scanMany_facing (loc : Loc) {count : Nat} (within : rest <:+ text)
    (enough : count ≤ rest.length) :
    (facing text ⟨loc, rest⟩).scanMany count =
      (.ok (), facing text (Reader.drop ⟨loc, rest⟩ count)) := by
  induction count generalizing loc rest with
  | zero => rfl
  | succ count ih =>
    cases rest with
    | nil => simp at enough
    | cons c rest =>
      rw [scanMany, next_facing _ within, proceed,
        ih _ ((List.suffix_cons c rest).trans within) (Nat.le_of_succ_le_succ enough)]
      rfl

/-- What reading a token comes to, with the cursor where reading stopped. -/
def ofScan (text : List Char) : Lexer.Scan → Except CursorFault (Option Token) × Cursor
  | .token token after => (.ok (some token), facing text after)
  | .finished after => (.ok none, facing text after)
  | .fault fault after => (.error (.lexical fault), facing text after)

theorem scanLexeme_facing (loc : Loc) (within : c :: rest <:+ text) :
    (facing text ⟨loc, c :: rest⟩).scanLexeme = ofScan text (Lexer.readToken loc c rest) := by
  have sees := peek_zero_facing loc within
  unfold Lexer.readToken
  simp only [scanLexeme, sees, scanWhile_facing _ _ within, seekSymbol_facing _ within, proceed]
  split
  · next isLetter =>
    have isWordChar : isWordChar c = true := by simp [isWordChar, isLetter]
    simp only [Reader.dropWhile, List.takeWhile_cons_of_pos isWordChar,
      List.dropWhile_cons_of_pos isWordChar]
    rfl
  · split
    · next isDigit =>
      simp only [Reader.dropWhile, List.takeWhile_cons_of_pos isDigit,
        List.dropWhile_cons_of_pos isDigit]
      rfl
    · cases found : Lexer.symbol? (c :: rest) with
      | none => rfl
      | some entry =>
        obtain ⟨kind, symbol⟩ := entry
        -- The symbol stands in the text, so there are as many characters to read as it has.
        have starts := (Lexer.isLongestSymbol_of_symbol? found).starts
        dsimp only
        rw [scanMany_facing _ within starts.length_le, Reader.drop,
          ← List.prefix_iff_eq_take.1 starts]
        rfl

theorem scanToken_facing (reader : Reader) (within : reader.rest <:+ text) :
    (facing text reader).scanToken = ofScan text (Lexer.nextToken reader) := by
  obtain ⟨loc, rest⟩ := reader
  rw [scanToken, scanGap_facing loc within, Lexer.nextToken]
  have gapEnd := Lexer.gapEnd_skipGap loc rest
  generalize Lexer.skipGap loc rest = ending at gapEnd
  cases gapEnd with
  | unclosed => rfl
  | @stopped gap left split isGap stops =>
    have within' : left <:+ text := (split ▸ List.suffix_append gap left).trans within
    dsimp only [proceed]
    rw [atEnd_facing]
    cases left with
    | nil => rfl
    | cons c left =>
      rw [if_neg (by simp)]
      exact scanLexeme_facing _ within'

/-- Inside of a text, the scanner reads what a step over a whole token does. -/
theorem scanToken_eq_nextToken (within : reader.rest <:+ text) :
    (facing text reader).scanToken = (facing text reader).nextToken := by
  rw [scanToken_facing reader within, nextToken, afterUnseen_facing within,
    reader_facing reader within]
  simp only [moveTo_facing within]
  cases Lexer.nextToken reader <;> rfl

/-! ## All tokens of a text -/

theorem scanToken_text {cut : Lexer.Cut} (isLongest : cut.IsLongestMatch) (loc : Loc)
    (within : cut.text <:+ text) :
    (facing text ⟨loc, cut.text⟩).scanToken = ofScan text (cut.scan loc) := by
  rw [scanToken_facing ⟨loc, cut.text⟩ within, Lexer.nextToken_text isLongest]

/-- The scanner reads the tokens that the text is cut into. -/
theorem scans_text {cut : Lexer.Cut} (isLongest : cut.IsLongestMatch) (loc : Loc)
    (within : cut.text <:+ text) :
    Scans (facing text ⟨loc, cut.text⟩) (cut.tokens loc) ((cut.fault? loc).map .lexical) := by
  have scanned := scanToken_text isLongest loc within
  induction cut generalizing loc with
  | finished gap => exact .finished scanned
  | illegal gap c rest => exact .fault scanned
  | unclosed gap rest => exact .fault scanned
  | token gap kind lexeme following ih =>
    obtain ⟨-, -, -, isLongest⟩ := isLongest
    have within' : following.text <:+ text := by
      refine (List.suffix_append (gap ++ lexeme) following.text).trans ?_
      rwa [List.append_assoc]
    exact .token scanned (ih isLongest _ within' (scanToken_text isLongest _ within'))

/-- Reading a source one character at a time comes to its tokens and to no fault but theirs. -/
theorem scans_ofString (source : String) :
    Scans (ofString source) (Lexer.tokens source).1
      ((Lexer.tokens source).2.map .lexical) := by
  obtain ⟨cut, isText, isLongest, lexed⟩ := Lexer.exists_tokens_eq source
  rw [ofString_eq_facing, lexed, Reader.ofString, ← isText]
  exact scans_text isLongest .start (List.suffix_refl cut.text)

end Cursor

end JamLang
