import JamLang.Proofs.Cursor.Facing
import JamLang.Proofs.Program.NodeTable
import JamLang.Proofs.Results
import JamLang.Proofs.Source.Printing
import JamLang.Proofs.Tree.Rendering

/-!
# What parsing a source may come to

A source has a tree, or it has a fault of the text or of the grammar, or an integer in it has too
many digits.  The last of these happens exactly if the first integer with too many digits stands
where an integer may stand, so it does not depend on what follows it.  All other faults are of no
concern to those who only parse sources: no character is read outside of the text, no token is
asked for a value it does not have, no leaf is made of a word or a sign, no operator that was seen
is missing when it is read, and the bound on the depth of the descent is large enough.

A tree that was parsed can be shown in every format.
-/

namespace JamLang

open Grammar Dialogue Node

/-- The token is an integer of more digits than may be read. -/
def Token.IsOverlong (token : Token) : Prop :=
  token.kind = .integer ∧ Text.digitLimit < token.text.length

variable {source : String} {tokens : List Token} {tree : Node}

/-! ## Integers of a source -/

theorem readInteger_of_standsIn {loc : Loc} {text : List Char} {token : Token}
    (stands : Lexer.StandsIn loc text token) (isInteger : token.kind = .integer) :
    Text.readInteger token.text =
      if Text.digitLimit < token.text.length then .error (.tooManyDigits token.text.length)
      else .ok (Nat.ofDigitChars 10 token.text.toList 0) := by
  obtain ⟨before, rest, -, -, isLexeme⟩ := stands
  rw [isInteger] at isLexeme
  have reads := readInteger_of_isLexeme isLexeme
  rwa [String.ofList_toList, String.length_toList] at reads

theorem readInteger_eq_error_iff {loc : Loc} {text : List Char} {token : Token}
    (stands : Lexer.StandsIn loc text token) {fault : Text.NumeralFault} :
    token.kind = .integer ∧ Text.readInteger token.text = .error fault ↔
      token.IsOverlong ∧ fault = .tooManyDigits token.text.length := by
  constructor
  · rintro ⟨isInteger, fails⟩
    rw [readInteger_of_standsIn stands isInteger] at fails
    split at fails
    · next tooLong => exact ⟨⟨isInteger, tooLong⟩, (Except.error.inj fails).symm⟩
    · simp at fails
  · rintro ⟨⟨isInteger, tooLong⟩, rfl⟩
    exact ⟨isInteger, by rw [readInteger_of_standsIn stands isInteger, if_pos tooLong]⟩

theorem readable_iff_of_standsIn {loc : Loc} {text : List Char}
    (stand : ∀ token ∈ tokens, Lexer.StandsIn loc text token) :
    Readable tokens ↔ ∀ token ∈ tokens, ¬ token.IsOverlong := by
  constructor
  · rintro readable token isToken overlong
    obtain ⟨value, isRead⟩ := readable token isToken overlong.1
    have fails := ((readInteger_eq_error_iff (stand token isToken)).2 ⟨overlong, rfl⟩).2
    exact absurd (isRead.symm.trans fails) (by simp)
  · intro notOverlong token isToken isInteger
    have notTooLong : ¬ Text.digitLimit < token.text.length := fun tooLong =>
      notOverlong token isToken ⟨isInteger, tooLong⟩
    exact ⟨_, by rw [readInteger_of_standsIn (stand token isToken) isInteger, if_neg notTooLong]⟩

theorem parse_numeral_iff_overlong {fault : Text.NumeralFault} :
    parse source = .error (.numeral fault) ↔
      ∃ before token rest, (Lexer.tokens source).1 = before ++ token :: rest ∧ token.IsOverlong ∧
        (∀ earlier ∈ before, ¬ earlier.IsOverlong) ∧
        StartsProgram (before ++ [{ token with text := "0" }]) ∧
        fault = .tooManyDigits token.text.length := by
  rw [parse_numeral_iff, parseTokens_numeral_iff]
  have stand : ∀ token ∈ (Lexer.tokens source).1, Lexer.StandsIn .start source.toList token :=
    fun token isToken => Lexer.standsIn_of_mem_tokens isToken
  constructor
  · rintro ⟨before, token, rest, split, readable, isInteger, fails, starts⟩
    rw [split, List.forall_mem_append, List.forall_mem_cons] at stand
    obtain ⟨standBefore, stands, -⟩ := stand
    obtain ⟨overlong, isFault⟩ := (readInteger_eq_error_iff stands).1 ⟨isInteger, fails⟩
    exact ⟨before, token, rest, split, overlong,
      (readable_iff_of_standsIn standBefore).1 readable, starts, isFault⟩
  · rintro ⟨before, token, rest, split, overlong, notOverlong, starts, isFault⟩
    rw [split, List.forall_mem_append, List.forall_mem_cons] at stand
    obtain ⟨standBefore, stands, -⟩ := stand
    obtain ⟨isInteger, fails⟩ := (readInteger_eq_error_iff stands).2 ⟨overlong, isFault⟩
    exact ⟨before, token, rest, split, (readable_iff_of_standsIn standBefore).2 notOverlong,
      isInteger, fails, starts⟩

/-! ## All outcomes -/

/-- What a source may come to. -/
inductive Outcome : Except Fault Node → Prop where
  | parsed (tree : Node) : Outcome (.ok tree)
  | lexical (fault : LexicalFault) : Outcome (.error (.lexical fault))
  | grammar (fault : SyntaxFault) : Outcome (.error (.grammar fault))
  | overlong (count : Nat) : Outcome (.error (.numeral (.tooManyDigits count)))

theorem outcome_parse (source : String) : Outcome (parse source) := by
  have ofTokens : parse source = parseTokens (Lexer.tokens source).1 → Outcome (parse source) := by
    intro same
    cases parses : parse source with
    | ok tree => exact .parsed tree
    | error cause =>
      have fails := same.symm.trans parses
      rcases Parse.exists_of_parseTokens_error fails with ⟨fault, rfl⟩ | ⟨fault, rfl⟩
      · exact .grammar fault
      · obtain ⟨_, _, _, _, _, _, _, rfl⟩ := parse_numeral_iff_overlong.1 parses
        exact .overlong _
  rcases lexed : Lexer.tokens source with ⟨tokens, fault⟩
  rw [lexed] at ofTokens
  -- A fault of the text only shows if the parser gets that far.
  cases fault with
  | none => exact ofTokens (parse_of_tokens lexed)
  | some fault =>
    rcases parse_of_tokens_fault lexed with ⟨-, same⟩ | ⟨-, comesFirst⟩
    · exact ofTokens same
    · rw [comesFirst]
      exact .lexical fault

/-! ## Formats -/

/-- The nodes of a tree stand in its source, where its tokens stand. -/
theorem isWritable_loc_of_parse (parses : parse source = .ok tree)
    (fits : Text.IsWritable source.length) : ∀ part ∈ tree.nodes, part.loc.IsWritable := by
  intro part isPart
  obtain ⟨token, same, stands⟩ := standsIn_of_parse parses part isPart
  obtain ⟨fromLine, toLine, fromColumn, toColumn⟩ := stands.bounds
  rw [String.length_toList] at toLine toColumn
  rw [same]
  exact ⟨Text.isWritable_of_le (by omega) toLine fits,
    Text.isWritable_of_le (by omega) toColumn fits⟩

/-- A tree that was parsed can be shown in every format.  A document writes lines and columns as
integers, so its source must not have more characters than may be counted with so many digits. -/
theorem exists_formatChosen (parses : parse source = .ok tree) (format : Format)
    (fits : format = .json → Text.IsWritable source.length) :
    ∃ text, formatChosen format.choice tree = .ok text := by
  have formed := wellFormed_of_parse parses
  have shown : ∃ text, format.render tree = .ok text := by
    cases format with
    | source =>
      obtain ⟨text, words, prints⟩ : IsPrinted tree := isPrintedAs_of_wellFormed formed
      exact ⟨text, prints.source⟩
    | outline => exact exists_outline tree formed.isWritable
    | json =>
      have areWritable : ∀ part ∈ tree.nodes, part.IsWritable := fun part isPart =>
        ⟨formed.isWritable part isPart, isWritable_loc_of_parse parses (fits rfl) part isPart⟩
      obtain ⟨text, isText⟩ := isWritable_document tree areWritable 0
      exact ⟨text, by rw [Format.render, Json.render, isText]; rfl⟩
  obtain ⟨text, isText⟩ := shown
  exact ⟨text, by rw [formatChosen_choice, isText]; rfl⟩

theorem render_json_error {fault : PrintFault} (fails : Format.json.render tree = .error fault) :
    ∃ cause, fault = .numeral cause := by
  obtain ⟨cause, -, rfl⟩ := mapError_eq_error.1 fails
  exact ⟨cause, rfl⟩

/-- A tree that was parsed is not shown only if what is asked for is no format, or if an integer of
its document is too long. -/
theorem exists_of_formatChosen_error {choice : FormatChoice} {fault : FormatFault}
    (parses : parse source = .ok tree) (fails : formatChosen choice tree = .error fault) :
    (Format.ofChoice? choice = none ∧ fault = .unknownFormat choice) ∨
      ∃ cause, fault = .print (.numeral cause) := by
  unfold formatChosen at fails
  split at fails
  · next format isFormat =>
    obtain ⟨cause, renders, rfl⟩ := mapError_eq_error.1 fails
    by_cases isJson : format = .json
    · subst isJson
      obtain ⟨cause, rfl⟩ := render_json_error renders
      exact .inr ⟨cause, rfl⟩
    · -- Every parsed tree has a source text and an outline.
      obtain ⟨text, isText⟩ := exists_formatChosen parses format fun same => absurd same isJson
      rw [formatChosen_choice, renders] at isText
      cases isText
  · next unknown =>
    obtain rfl := Except.error.inj fails
    exact .inl ⟨unknown, rfl⟩

/-- A source is parsed, or has a fault of the text or of the grammar, or an overlong integer; the
last if and only if its first overlong integer stands where an integer may stand.  Its tokens are
read without a step outside of the text, and what was parsed can be shown in every format. -/
theorem parse_outcomes (source : String) :
    Outcome (parse source) ∧
      (Cursor.ofString source).Scans (Lexer.tokens source).1
        ((Lexer.tokens source).2.map .lexical) ∧
      (∀ fault, parse source = .error (.numeral fault) ↔
        ∃ before token rest, (Lexer.tokens source).1 = before ++ token :: rest ∧
          token.IsOverlong ∧ (∀ earlier ∈ before, ¬ earlier.IsOverlong) ∧
          StartsProgram (before ++ [{ token with text := "0" }]) ∧
          fault = .tooManyDigits token.text.length) ∧
      ∀ tree, parse source = .ok tree → ∀ format : Format,
        (format = .json → Text.IsWritable source.length) →
        ∃ text, formatChosen format.choice tree = .ok text :=
  ⟨outcome_parse source, Cursor.scans_ofString source, fun _ => parse_numeral_iff_overlong,
    fun _ parses format fits => exists_formatChosen parses format fits⟩

/-- A variable is parsed and has a document. -/
theorem parse_outcomes_variable :
    parse "x" = .ok (.var "x" ⟨1, 1⟩) ∧ Text.IsWritable "x".length ∧
      ∃ text, formatChosen Format.json.choice (.var "x" ⟨1, 1⟩) = .ok text := by
  have lexed : Lexer.tokens "x" = ([⟨.identifier, "x", ⟨1, 1⟩⟩], none) := by decide +kernel
  have parses : parse "x" = .ok (.var "x" ⟨1, 1⟩) := (parse_of_tokens lexed).trans rfl
  have fits : Text.IsWritable "x".length := by
    unfold Text.IsWritable
    decide
  exact ⟨parses, fits, (parse_outcomes "x").2.2.2 _ parses .json fun _ => fits⟩

end JamLang
