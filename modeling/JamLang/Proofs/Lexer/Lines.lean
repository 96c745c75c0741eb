import JamLang.Proofs.Lexer.Appending

/-!
# Lexing line by line

A line feed separates what stands before it from what stands behind it, because no token, no symbol
and no line comment reaches across it.  So a text that has tokens can be taken off in front of a
line feed, and the text behind it is lexed as if it stood alone, only further down: which tokens a
text has does not depend on where it starts (`tokensFrom_down`).  A character that starts no token
stops the lexer whatever follows the line (`Cut.tokensFrom_append_illegal`).  Only a comment that is
not closed yet may be closed by a later line.
-/

namespace JamLang

/-- The token, as many lines further down. -/
def Token.down (token : Token) (lines : Nat) : Token :=
  { token with loc := token.loc.down lines }

/-- The same fault, as many lines further down. -/
def LexicalFault.down (fault : LexicalFault) (lines : Nat) : LexicalFault :=
  match fault with
  | .illegalCharacter c loc => .illegalCharacter c (loc.down lines)
  | .unterminatedComment loc => .unterminatedComment (loc.down lines)

namespace Lexer

variable {c : Char} {loc stop : Loc} {text rest : List Char}

/-! ## Texts further down -/

theorem Cut.tokens_down (cut : Cut) (loc : Loc) (lines : Nat) :
    cut.tokens (loc.down lines) = (cut.tokens loc).map (·.down lines) := by
  induction cut generalizing loc with
  | finished | illegal | unclosed => rfl
  | token gap kind lexeme following ih =>
    rw [Cut.tokens, Cut.tokens, Loc.advance_down, Loc.advance_down, ih]
    rfl

theorem Cut.fault?_down (cut : Cut) (loc : Loc) (lines : Nat) :
    cut.fault? (loc.down lines) = (cut.fault? loc).map (·.down lines) := by
  induction cut generalizing loc with
  | finished => rfl
  | illegal | unclosed =>
    rw [Cut.fault?, Loc.advance_down]
    rfl
  | token gap kind lexeme following ih =>
    rw [Cut.fault?, Cut.fault?, Loc.advance_down, Loc.advance_down, ih]

/-- A text that starts further down has its tokens and its fault further down. -/
theorem tokensFrom_down (loc : Loc) (lines : Nat) (text : List Char) :
    tokensFrom ⟨loc.down lines, text⟩ =
      ((tokensFrom ⟨loc, text⟩).1.map (·.down lines),
        (tokensFrom ⟨loc, text⟩).2.map (·.down lines)) := by
  obtain ⟨cut, rfl, isLongest⟩ := exists_isLongestMatch text
  rw [tokensFrom_text isLongest, tokensFrom_text isLongest, cut.tokens_down, cut.fault?_down]

/-! ## A line behind a text -/

/-- A character that starts no token starts none either if more follows behind a blank. -/
theorem Cut.tokensFrom_append_illegal {cut : Cut} (isLongest : cut.IsLongestMatch)
    (fails : cut.fault? loc = some (.illegalCharacter c stop)) (starts : Text.StartsBlank rest) :
    tokensFrom ⟨loc, cut.text ++ rest⟩ = (cut.tokens loc, cut.fault? loc) := by
  induction cut generalizing loc with
  | finished | unclosed => simp [Cut.fault?] at fails
  | illegal gap d tail =>
    obtain ⟨isGap, stops, isIllegal⟩ := isLongest
    have notEmpty : d :: tail ≠ [] := List.cons_ne_nil d tail
    let longer : Cut := .illegal gap d (tail ++ rest)
    have isLonger : longer.IsLongestMatch :=
      ⟨isGap.append notEmpty rest, not_startsGap_append stops notEmpty starts,
        isIllegal.append starts⟩
    have same : (Cut.illegal gap d tail).text ++ rest = longer.text := by simp [longer, Cut.text]
    rw [same, tokensFrom_text isLonger]
    rfl
  | token gap kind lexeme following ih =>
    rw [Cut.tokensFrom_append_token isLongest starts, ih isLongest.2.2.2 fails]
    rfl

/-- Behind a text that has tokens, the next line is lexed as if it stood alone, further down. -/
theorem tokens_append_line {first : String} {tokens : List Token}
    (lexed : Lexer.tokens first = (tokens, none)) (second : String) :
    Lexer.tokens (first ++ "\n" ++ second) =
      (tokens ++ (Lexer.tokens second).1.map (·.down (1 + first.toList.count '\n')),
        (Lexer.tokens second).2.map (·.down (1 + first.toList.count '\n'))) := by
  have same : (first ++ "\n" ++ second).toList = first.toList ++ '\n' :: second.toList := by simp
  have goesOn := tokensFrom_append_line lexed second.toList
  rw [Loc.next_advance_start, tokensFrom_down] at goesOn
  rw [Lexer.tokens, Reader.ofString, same, goesOn]
  rfl

/-- Whatever follows in the next line, an illegal character is found before. -/
theorem tokens_append_line_illegal {first second : String}
    (fails : (Lexer.tokens first).2 = some (.illegalCharacter c stop)) :
    Lexer.tokens (first ++ "\n" ++ second) = Lexer.tokens first := by
  have same : (first ++ "\n" ++ second).toList = first.toList ++ '\n' :: second.toList := by simp
  have starts : Text.StartsBlank ('\n' :: second.toList) := by
    rintro _ ⟨⟩
    decide
  obtain ⟨cut, isText, isLongest, lexed⟩ := exists_tokens_eq first
  rw [lexed] at fails ⊢
  rw [Lexer.tokens, Reader.ofString, same, ← isText]
  exact Cut.tokensFrom_append_illegal isLongest fails starts

end Lexer

end JamLang
