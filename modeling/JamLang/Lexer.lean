import JamLang.Fault
import JamLang.Text.Letter
import JamLang.Text.Numeric

/-!
# From text to tokens

A text is read from a `Reader`: what is left of it, and the location where that starts.  Reading a
token first skips a gap, which is white space and comments of both forms, and then takes the
longest word, number or symbol that stands there.  Every token shortens what is left
(`length_lt_of_nextToken`), so reading tokens until the end or a fault is total.
-/

namespace JamLang

/-- What is left of a text, and where it starts. -/
structure Reader where
  loc : Loc
  rest : List Char
  deriving DecidableEq, Repr

namespace Reader

/-- The reader of a whole text. -/
def ofString (source : String) : Reader :=
  ⟨.start, source.toList⟩

/-- The reader after `count` more characters. -/
def drop (reader : Reader) (count : Nat) : Reader :=
  ⟨reader.loc.advance (reader.rest.take count), reader.rest.drop count⟩

/-- The reader before the first character that fails the test. -/
def dropWhile (test : Char → Bool) (reader : Reader) : Reader :=
  ⟨reader.loc.advance (reader.rest.takeWhile test), reader.rest.dropWhile test⟩

/-- The reader at the end of the text. -/
def toEnd (reader : Reader) : Reader :=
  ⟨reader.loc.advance reader.rest, []⟩

end Reader

namespace Lexer

/-! ## Characters -/

/-- White space between tokens. -/
def isSpace (c : Char) : Bool :=
  c ∈ [' ', '\t', '\r', '\n', '\x0c']

/-- A character that goes on a word. -/
def isWordChar (c : Char) : Bool :=
  Text.isLetter c || Text.isNumeric c || c == '_' || c == '?'

/-- A character that does not end a line comment. -/
def isInLine (c : Char) : Bool :=
  c != '\n'

/-! ## Gaps -/

/-- The reader after the first end mark of a block comment, if there is one. -/
def afterComment? (loc : Loc) : List Char → Option Reader
  | [] => none
  | '*' :: '/' :: rest => some ⟨(loc.next '*').next '/', rest⟩
  | c :: rest => afterComment? (loc.next c) rest

theorem length_le_of_afterComment? {loc : Loc} {text : List Char} {after : Reader}
    (found : afterComment? loc text = some after) : after.rest.length ≤ text.length := by
  fun_induction afterComment? loc text with
  | case1 => simp at found
  | case2 =>
    obtain rfl := Option.some.inj found
    simp only [List.length_cons]
    omega
  | case3 _ _ _ _ ih =>
    have := ih found
    simp only [List.length_cons]
    omega

theorem length_dropWhile_isInLine_le (text : List Char) :
    (text.dropWhile isInLine).length ≤ text.length :=
  (List.dropWhile_sublist isInLine).length_le

/-- Skips white space and comments up to the first character of a token or the end of the text. -/
def skipGap (loc : Loc) : List Char → Except LexicalFault Reader
  | [] => .ok ⟨loc, []⟩
  | '/' :: '/' :: rest =>
    skipGap (loc.advance ('/' :: '/' :: rest.takeWhile isInLine)) (rest.dropWhile isInLine)
  | '/' :: '*' :: rest =>
    match _found : afterComment? ((loc.next '/').next '*') rest with
    | some after => skipGap after.loc after.rest
    | none => .error (.unterminatedComment loc)
  | c :: rest => if isSpace c then skipGap (loc.next c) rest else .ok ⟨loc, c :: rest⟩
termination_by text => text.length
decreasing_by
  · have := length_dropWhile_isInLine_le rest
    simp only [List.length_cons]
    omega
  · have := length_le_of_afterComment? _found
    simp only [List.length_cons]
    omega
  · simp

theorem length_le_of_skipGap {loc : Loc} {text : List Char} {after : Reader}
    (skipped : skipGap loc text = .ok after) : after.rest.length ≤ text.length := by
  fun_induction skipGap loc text with
  | case1 =>
    obtain rfl := Except.ok.inj skipped
    simp
  | case2 loc rest ih =>
    have := ih skipped
    have := length_dropWhile_isInLine_le rest
    simp only [List.length_cons]
    omega
  | case3 loc rest after found ih =>
    have := ih skipped
    have := length_le_of_afterComment? found
    simp only [List.length_cons]
    omega
  | case4 => simp at skipped
  | case5 loc c rest _ _ _ ih =>
    have := ih skipped
    simp only [List.length_cons]
    omega
  | case6 =>
    obtain rfl := Except.ok.inj skipped
    simp

/-! ## Tokens -/

/-- What reading one token comes to; the reader is where reading stopped. -/
inductive Scan where
  | token (token : Token) (after : Reader)
  | finished (after : Reader)
  | fault (fault : LexicalFault) (after : Reader)
  deriving DecidableEq, Repr

/-- The reader where reading stopped. -/
def Scan.after : Scan → Reader
  | .token _ after | .finished after | .fault _ after => after

/-- The longest symbol that the text starts with, and its kind. -/
def symbol? (text : List Char) : Option (TokenKind × List Char) :=
  [2, 1].findSome? fun count =>
    (Vocabulary.symbolKind? (String.ofList (text.take count))).map (·, text.take count)

/-- Takes the token that starts with the character `c`. -/
def readToken (loc : Loc) (c : Char) (rest : List Char) : Scan :=
  if Text.isLetter c then
    let word := c :: rest.takeWhile isWordChar
    .token ⟨Vocabulary.wordKind (String.ofList word), String.ofList word, loc⟩
      ⟨loc.advance word, rest.dropWhile isWordChar⟩
  else if c.isDigit then
    let number := c :: rest.takeWhile Char.isDigit
    .token ⟨.integer, String.ofList number, loc⟩
      ⟨loc.advance number, rest.dropWhile Char.isDigit⟩
  else
    match symbol? (c :: rest) with
    | some (kind, text) =>
      .token ⟨kind, String.ofList text, loc⟩ ⟨loc.advance text, (c :: rest).drop text.length⟩
    | none => .fault (.illegalCharacter c loc) ⟨loc, c :: rest⟩

/-- Skips a gap and reads the token after it. -/
def nextToken (reader : Reader) : Scan :=
  match skipGap reader.loc reader.rest with
  | .error fault => .fault fault reader.toEnd
  | .ok ⟨loc, []⟩ => .finished ⟨loc, []⟩
  | .ok ⟨loc, c :: rest⟩ => readToken loc c rest

/-- A symbol that is found is one of the vocabulary. -/
theorem mem_symbols_of_symbol? {text symbol : List Char} {kind : TokenKind}
    (found : symbol? text = some (kind, symbol)) :
    (String.ofList symbol, kind) ∈ Vocabulary.symbols := by
  obtain ⟨count, -, isSymbol⟩ := List.exists_of_findSome?_eq_some found
  obtain ⟨_, isKind, same⟩ := Option.map_eq_some_iff.1 isSymbol
  obtain ⟨rfl, rfl⟩ := Prod.mk.inj same
  rw [Vocabulary.symbolKind?, List.lookup_eq_some_iff] at isKind
  obtain ⟨before, after, split, -⟩ := isKind
  simp [split]

theorem ne_nil_of_symbol? {text symbol : List Char} {kind : TokenKind}
    (found : symbol? text = some (kind, symbol)) : symbol ≠ [] := by
  have noEmpty : ∀ entry ∈ Vocabulary.symbols, entry.1 ≠ "" := by decide
  rintro rfl
  exact noEmpty _ (mem_symbols_of_symbol? found) String.ofList_nil

theorem length_lt_of_readToken {loc : Loc} {c : Char} {rest : List Char} {token : Token}
    {after : Reader} (read : readToken loc c rest = .token token after) :
    after.rest.length < (c :: rest).length := by
  unfold readToken at read
  split at read
  · obtain ⟨-, rfl⟩ := Scan.token.inj read
    have := (List.dropWhile_sublist isWordChar (l := rest)).length_le
    simp only [List.length_cons]
    omega
  · split at read
    · obtain ⟨-, rfl⟩ := Scan.token.inj read
      have := (List.dropWhile_sublist Char.isDigit (l := rest)).length_le
      simp only [List.length_cons]
      omega
    · split at read
      · next symbol found =>
        obtain ⟨-, rfl⟩ := Scan.token.inj read
        have := List.length_pos_iff.2 (ne_nil_of_symbol? found)
        simp only [List.length_drop, List.length_cons]
        omega
      · simp at read

/-- A token is read where the gap before it ends. -/
theorem readToken_of_nextToken {reader after : Reader} {token : Token}
    (read : nextToken reader = .token token after) :
    ∃ loc c rest, skipGap reader.loc reader.rest = .ok ⟨loc, c :: rest⟩ ∧
      readToken loc c rest = .token token after := by
  unfold nextToken at read
  split at read
  · simp at read
  · simp at read
  · next loc c rest skipped => exact ⟨loc, c, rest, skipped, read⟩

/-- Every token shortens what is left of the text. -/
theorem length_lt_of_nextToken {reader after : Reader} {token : Token}
    (read : nextToken reader = .token token after) :
    after.rest.length < reader.rest.length := by
  obtain ⟨loc, c, rest, skipped, read⟩ := readToken_of_nextToken read
  exact Nat.lt_of_lt_of_le (length_lt_of_readToken read) (length_le_of_skipGap skipped)

/-! ## Whole texts -/

/-- The tokens up to the end or the first fault, and that fault. -/
def tokensFrom (reader : Reader) : List Token × Option LexicalFault :=
  match _read : nextToken reader with
  | .token token after =>
    let (tokens, fault) := tokensFrom after
    (token :: tokens, fault)
  | .finished _ => ([], none)
  | .fault fault _ => ([], some fault)
termination_by reader.rest.length
decreasing_by exact length_lt_of_nextToken _read

theorem tokensFrom_of_token {reader after : Reader} {token : Token}
    (read : nextToken reader = .token token after) :
    tokensFrom reader = (token :: (tokensFrom after).1, (tokensFrom after).2) := by
  rw [tokensFrom]
  split
  · next read' =>
    obtain ⟨rfl, rfl⟩ := Scan.token.inj (read.symm.trans read')
    rfl
  · next read' => exact absurd (read.symm.trans read') (by simp)
  · next read' => exact absurd (read.symm.trans read') (by simp)

theorem tokensFrom_of_finished {reader after : Reader} (read : nextToken reader = .finished after) :
    tokensFrom reader = ([], none) := by
  rw [tokensFrom]
  split
  · next read' => exact absurd (read.symm.trans read') (by simp)
  · rfl
  · next read' => exact absurd (read.symm.trans read') (by simp)

theorem tokensFrom_of_fault {reader after : Reader} {fault : LexicalFault}
    (read : nextToken reader = .fault fault after) : tokensFrom reader = ([], some fault) := by
  rw [tokensFrom]
  split
  · next read' => exact absurd (read.symm.trans read') (by simp)
  · next read' => exact absurd (read.symm.trans read') (by simp)
  · next read' =>
    obtain ⟨rfl, -⟩ := Scan.fault.inj (read.symm.trans read')
    rfl

/-- There are at most as many tokens as characters. -/
theorem length_tokensFrom_le (reader : Reader) :
    (tokensFrom reader).1.length ≤ reader.rest.length := by
  fun_induction tokensFrom reader with
  | case1 reader token after read tokens fault same ih =>
    have shorter := length_lt_of_nextToken read
    rw [same] at ih
    exact Nat.lt_of_le_of_lt ih shorter
  | case2 => exact Nat.zero_le _
  | case3 => exact Nat.zero_le _

/-- The tokens of a source up to its end or its first fault, and that fault. -/
def tokens (source : String) : List Token × Option LexicalFault :=
  tokensFrom (.ofString source)

/-- The tokens of a source without a fault. -/
def tokenize (source : String) : Except LexicalFault (List Token) :=
  match tokens source with
  | (tokens, none) => .ok tokens
  | (_, some fault) => .error fault

end Lexer

end JamLang
