import JamLang.Command
import JamLang.Proofs.Lexer.Appending
import JamLang.Proofs.Lexer.Tokens
import JamLang.Proofs.Text.Numeral
import Mathlib.Data.List.Forall2

/-!
# Reading a token list back

A token list is split at its line feeds into the lines of its tokens, a line at its tabs into three
fields, and the first field at its colon into line and column.  No field has one of these characters
in it: numerals are made of digits, the lexer only gives kinds of the vocabulary, and the text of a
token has no blank in it, whatever letters it is made of (`Lexer.IsLexeme.isUnbroken`).  So the
tokens of a text are known from the list that is printed of them.
-/

namespace JamLang

variable {token other : Token} {tokens tokens' : List Token} {line : List Char} {source : String}
  {files : FileSystem}

/-! ## Lines -/

/-- The three fields of the line are those of the token. -/
def IsLineOf (line : List Char) (token : Token) : Prop :=
  ∃ place, line.splitOn '\t' = [place, token.kind.name.toList, token.text.toList] ∧
    place.splitOn ':' =
      [(Text.numeral token.loc.line).toList, (Text.numeral token.loc.column).toList]

theorem IsLineOf.unique (isLine : IsLineOf line token) (isLine' : IsLineOf line other) :
    token = other := by
  obtain ⟨place, atTabs, atColon⟩ := isLine
  obtain ⟨place', atTabs', atColon'⟩ := isLine'
  have sameFields := atTabs.symm.trans atTabs'
  simp only [List.cons.injEq, String.toList_inj, TokenKind.name_inj, and_true] at sameFields
  obtain ⟨rfl, sameKind, sameText⟩ := sameFields
  have samePlace := atColon.symm.trans atColon'
  simp only [List.cons.injEq, String.toList_inj, Text.numeral_inj, and_true] at samePlace
  obtain ⟨sameLine, sameColumn⟩ := samePlace
  obtain ⟨kind, text, line, column⟩ := token
  obtain ⟨kind', text', line', column'⟩ := other
  subst sameKind sameText sameLine sameColumn
  rfl

theorem not_mem_numeral {c : Char} (notSign : c ≠ '-') (notDigit : c.isDigit = false) (value : Int) :
    c ∉ (Text.numeral value).toList := by
  intro isPart
  cases Text.sign_or_isDigit_of_mem_numeral c isPart with
  | inl isSign => exact notSign isSign
  | inr isDigit => simp [notDigit] at isDigit

/-- A token of the vocabulary, whose text has no blank in it. -/
structure Token.IsListable (token : Token) : Prop where
  isListed : token.kind.name ∈ TokenKind.listedNames
  isUnbroken : Text.IsUnbroken token.text.toList

theorem Token.IsListable.not_mem_name (isListable : token.IsListable) :
    '\t' ∉ token.kind.name.toList ∧ '\n' ∉ token.kind.name.toList := by
  have noBlank : ∀ name ∈ TokenKind.listedNames, '\t' ∉ name.toList ∧ '\n' ∉ name.toList := by
    decide
  exact noBlank _ isListable.isListed

theorem toList_dumpLine (token : Token) :
    token.dumpLine.toList =
      ((Text.numeral token.loc.line).toList ++ ':' :: (Text.numeral token.loc.column).toList) ++
        '\t' :: (token.kind.name.toList ++ '\t' :: token.text.toList) := by
  simp [Token.dumpLine]

theorem isLineOf_dumpLine (isListable : token.IsListable) :
    IsLineOf token.dumpLine.toList token := by
  have noColon := not_mem_numeral (c := ':') (by decide) rfl
  have noTab := not_mem_numeral (c := '\t') (by decide) rfl
  have inText : '\t' ∉ token.text.toList := isListable.isUnbroken.not_mem (by decide)
  refine ⟨(Text.numeral token.loc.line).toList ++ ':' :: (Text.numeral token.loc.column).toList,
    ?_, ?_⟩
  · rw [toList_dumpLine, List.splitOn_append_cons_self_of_not_mem (by simp [noTab]),
      List.splitOn_append_cons_self_of_not_mem isListable.not_mem_name.1,
      List.splitOn_eq_singleton inText]
  · rw [List.splitOn_append_cons_self_of_not_mem (noColon _), List.splitOn_eq_singleton (noColon _)]

theorem lineFeed_not_mem_dumpLine (isListable : token.IsListable) :
    '\n' ∉ token.dumpLine.toList := by
  have inNumeral := not_mem_numeral (c := '\n') (by decide) rfl
  have inText : '\n' ∉ token.text.toList := isListable.isUnbroken.not_mem (by decide)
  simp [toList_dumpLine, inNumeral, isListable.not_mem_name, inText]

/-! ## Lists -/

theorem tab_mem_dumpTokens : '\t' ∈ (dumpTokens (token :: tokens)).toList := by
  cases tokens <;> simp [dumpTokens, Token.dumpLine]

theorem splitOn_dumpTokens (areListable : ∀ token ∈ tokens, token.IsListable)
    (notEmpty : tokens ≠ []) :
    (dumpTokens tokens).toList.splitOn '\n' = tokens.map (·.dumpLine.toList) := by
  have oneLine : ∀ line ∈ tokens.map (·.dumpLine.toList), '\n' ∉ line := by
    rw [List.forall_mem_map]
    exact fun token isToken => lineFeed_not_mem_dumpLine (areListable token isToken)
  have joined : (dumpTokens tokens).toList = ['\n'].intercalate (tokens.map (·.dumpLine.toList)) := by
    rw [dumpTokens, String.toList_intercalate, List.map_map]
    rfl
  rw [joined, List.splitOn_intercalate '\n' oneLine (by simpa using notEmpty)]

theorem areLinesOf_dumpTokens (areListable : ∀ token ∈ tokens, token.IsListable) :
    List.Forall₂ IsLineOf (tokens.map (·.dumpLine.toList)) tokens := by
  rw [List.forall₂_map_left_iff, List.forall₂_same]
  exact fun token isToken => isLineOf_dumpLine (areListable token isToken)

theorem dumpTokens_inj (areListable : ∀ token ∈ tokens, token.IsListable)
    (areListable' : ∀ token ∈ tokens', token.IsListable)
    (same : dumpTokens tokens = dumpTokens tokens') : tokens = tokens' := by
  -- Without tokens nothing is printed, and with tokens at least the tabs of the first line are.
  cases tokens with
  | nil =>
    cases tokens' with
    | nil => rfl
    | cons => exact absurd (same ▸ tab_mem_dumpTokens) List.not_mem_nil
  | cons token tokens =>
    cases tokens' with
    | nil => exact absurd (same ▸ tab_mem_dumpTokens) List.not_mem_nil
    | cons token' tokens' =>
      have lines := splitOn_dumpTokens areListable (List.cons_ne_nil token tokens)
      have lines' := splitOn_dumpTokens areListable' (List.cons_ne_nil token' tokens')
      have areLines := areLinesOf_dumpTokens areListable
      rw [← lines, same, lines'] at areLines
      exact List.right_unique_forall₂' (fun _ _ _ isLine isLine' => isLine.unique isLine') areLines
        (areLinesOf_dumpTokens areListable')

/-! ## What is printed -/

theorem isListable_of_tokenize (lexed : Lexer.tokenize source = .ok tokens) :
    ∀ token ∈ tokens, token.IsListable := by
  rw [Lexer.tokenize_eq_ok_iff] at lexed
  intro token isToken
  have isToken : token ∈ (Lexer.tokens source).1 := by rwa [lexed]
  obtain ⟨_, _, -, -, isLexeme⟩ := Lexer.standsIn_of_mem_tokens isToken
  exact ⟨isLexeme.isListed, isLexeme.isUnbroken⟩

/-- What the command prints if it is to show the tokens of a text. -/
def printedTokens (files : FileSystem) (source : String) : String :=
  (Command.run { source, isText := true, tokens := true } files).printed

theorem printedTokens_of_tokenize (lexed : Lexer.tokenize source = .ok tokens) :
    printedTokens files source = dumpTokens tokens ++ "\n" := by
  simp [printedTokens, Command.run, Request.prepare, Request.sourceText, Request.output, lexed,
    Request.target?, Request.shown]

/-- Two texts that have tokens are printed alike only if they have the same tokens, with kinds, texts
and locations.  If there are tokens, each has one line, in their order, and nothing is behind the
last of these lines. -/
theorem printedTokens_lossless (files : FileSystem) (first second : String)
    (tokens tokens' : List Token) (lexed : Lexer.tokenize first = .ok tokens)
    (lexed' : Lexer.tokenize second = .ok tokens') :
    (printedTokens files first = printedTokens files second ↔ tokens = tokens') ∧
      (tokens ≠ [] →
        ∃ lines, (printedTokens files first).toList.splitOn '\n' = lines ++ [[]] ∧
          List.Forall₂ IsLineOf lines tokens) := by
  have areListable := isListable_of_tokenize lexed
  rw [printedTokens_of_tokenize lexed, printedTokens_of_tokenize lexed']
  constructor
  · constructor
    · intro same
      have sameList : dumpTokens tokens = dumpTokens tokens' := by simpa using same
      exact dumpTokens_inj areListable (isListable_of_tokenize lexed') sameList
    · rintro rfl
      rfl
  · intro notEmpty
    refine ⟨_, ?_, areLinesOf_dumpTokens areListable⟩
    rw [String.toList_append, ← splitOn_dumpTokens areListable notEmpty]
    exact List.splitOn_append_cons_self _ []

/-- A line feed between two tokens moves the second, which is seen in its line. -/
theorem printedTokens_lossless_lineFeed :
    let files : FileSystem := { entries := [] }
    let name : Token := ⟨.identifier, "x", ⟨1, 1⟩⟩
    let below : Token := ⟨.operator, "+", ⟨2, 1⟩⟩
    let behind : Token := ⟨.operator, "+", ⟨1, 3⟩⟩
    Lexer.tokenize "x\n+" = .ok [name, below] ∧ Lexer.tokenize "x +" = .ok [name, behind] ∧
      printedTokens files "x\n+" ≠ printedTokens files "x +" ∧
      ∃ lines, (printedTokens files "x\n+").toList.splitOn '\n' = lines ++ [[]] ∧
        List.Forall₂ IsLineOf lines [name, below] := by
  intro files name below behind
  have lexed : Lexer.tokenize "x\n+" = .ok [name, below] :=
    Lexer.tokenize_eq_ok_iff.2 (by decide +kernel)
  have lexed' : Lexer.tokenize "x +" = .ok [name, behind] :=
    Lexer.tokenize_eq_ok_iff.2 (by decide +kernel)
  have different : [name, below] ≠ [name, behind] := by decide
  obtain ⟨alike, areLines⟩ := printedTokens_lossless files _ _ _ _ lexed lexed'
  exact ⟨lexed, lexed', mt alike.1 different, areLines (List.cons_ne_nil name [below])⟩

end JamLang
