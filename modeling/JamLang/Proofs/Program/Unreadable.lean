import JamLang.Proofs.Descent.Integers
import JamLang.Proofs.Program.LazyLexing

/-!
# Integers that cannot be read

An integer whose text cannot be read is a fault of its own, apart from the faults of the grammar.
Parsing ends with that fault exactly if the first such integer stands where an integer may stand
(`parseTokens_numeral_iff`).  If it does not, the token itself is refused, or one before it; so
whatever has a tree has none of them (`readable_of_parseTokens`).
-/

namespace JamLang

open Grammar Dialogue

variable {tokens : List Token} {fault : Text.NumeralFault}

namespace Dialogue

/-- A fault of an integer names the last token read, and an integer may stand there. -/
theorem exists_of_ending_numeral {after : View}
    (ends : ending tokens = (.error (.numeral fault), after)) :
    ∃ consumed token rest, tokens = consumed ++ token :: rest ∧ token.kind = .integer ∧
      Text.readInteger token.text = .error fault ∧ StartsProgram (consumed ++ [token]) ∧
      after = ⟨rest, false⟩ := by
  have outcome : Phrases.Outcome (Derives .expression) tokens
      ((expression (4 * tokens.length + 5)).on ⟨tokens, false⟩) :=
    (recognisesAll _).expression (Nat.le_refl _) tokens (Nat.le_refl _)
  rw [ending, program, bind_eq_bind, on_bind] at ends
  generalize (expression (4 * tokens.length + 5)).on ⟨tokens, false⟩ = found at ends outcome
  cases outcome with
  | @accepted consumed rest tree looked split derives =>
    -- Behind an expression nothing is read but one token, which is not made a leaf.
    cases rest <;> simp at ends
  | refused | cutShort => simp at ends
  | unreadable split isInteger fails viable =>
    simp only [Prod.mk.injEq, Except.error.injEq, Fault.numeral.injEq] at ends
    obtain ⟨rfl, rfl⟩ := ends
    exact ⟨_, _, _, split, isInteger, fails, startsProgram_of_viable viable, rfl⟩

theorem stops_of_ending {before rest : List Token} {token : Token} {result : Except Fault Node}
    {after : View} (isInteger : token.kind = .integer)
    (fails : Text.readInteger token.text = .error fault)
    (ends : ending (before ++ token :: rest) = (result, after)) :
    (∃ left, after.rest = left ++ token :: rest) ∨
      after = ⟨rest, false⟩ ∧ ∃ cause, result = .error cause :=
  stops_of_unreadable (readsIntegers_program _) isInteger fails ends

end Dialogue

theorem exists_of_not_readable (notReadable : ¬ Readable tokens) :
    ∃ before token rest fault, tokens = before ++ token :: rest ∧ token.kind = .integer ∧
      Text.readInteger token.text = .error fault := by
  simp only [Readable, Classical.not_forall, not_exists] at notReadable
  obtain ⟨token, isToken, isInteger, fails⟩ := notReadable
  obtain ⟨before, rest, split⟩ := List.append_of_mem isToken
  cases read : Text.readInteger token.text with
  | ok value => exact absurd read (fails value)
  | error fault => exact ⟨before, token, rest, fault, split, isInteger, read⟩

/-- Whatever has a tree has no integer that cannot be read. -/
theorem readable_of_parseTokens {tree : Node} (parses : parseTokens tokens = .ok tree) :
    Readable tokens := by
  apply Classical.byContradiction
  intro notReadable
  obtain ⟨before, token, rest, fault, rfl, isInteger, fails⟩ := exists_of_not_readable notReadable
  rw [Parse.parseTokens_eq] at parses
  have programEnd := programEnd_ending (before ++ token :: rest)
  generalize ends : ending (before ++ token :: rest) = ending at parses programEnd
  cases programEnd with
  | accepted derives =>
    -- A program is read to its end, but the parser stops at the integer at the latest.
    rcases stops_of_ending isInteger fails ends with ⟨left, isLeft⟩ | ⟨-, cause, isError⟩
    · simp at isLeft
    · simp at isError
  | refused | cutShort | unreadable => simp at parses

/-- Where an integer that cannot be read may stand, any other integer may stand too. -/
theorem startsProgram_zero {before : List Token} {token : Token} (readable : Readable before)
    (isInteger : token.kind = .integer) (fails : Text.readInteger token.text = .error fault)
    (starts : StartsProgram (before ++ [token])) :
    StartsProgram (before ++ [{ token with text := "0" }]) := by
  obtain ⟨rest, tree, derives⟩ := starts
  have same : before.map readableTwin = before :=
    (List.map_congr_left fun earlier isEarlier =>
      readableTwin_of_readable (readable earlier isEarlier)).trans before.map_id
  have isZero : readableTwin token = { token with text := "0" } := by
    simp [readableTwin, isInteger, fails]
  have twins := derives_map kind_readableTwin (fun _ => text_readableTwin) derives
  rw [List.map_append, List.map_append, same, List.map_singleton, isZero] at twins
  exact ⟨_, twins⟩

theorem ending_of_startsProgram {before rest : List Token} {token : Token}
    (readable : Readable before) (isInteger : token.kind = .integer)
    (fails : Text.readInteger token.text = .error fault)
    (starts : StartsProgram (before ++ [{ token with text := "0" }])) :
    ending (before ++ token :: rest) = (.error (.numeral fault), ⟨rest, false⟩) := by
  have readable' : Readable (before ++ [{ token with text := "0" }]) := by
    have isRead : Text.readInteger "0" = .ok 0 := rfl
    refine readable_append.2 ⟨readable, ?_⟩
    simp [Readable, isRead]
  obtain ⟨other, readably, tree, derives⟩ := starts.readably readable'
  have accepts := ending_of_derives derives readably
  rw [List.append_assoc] at accepts
  -- The two lists differ from the integer on, where the parser learns what it is; they are
  -- compared with one bound that is enough for both.
  let zero : Token := { token with text := "0" }
  let bound := 4 * (before ++ token :: rest).length + 4 * (before ++ zero :: other).length + 5
  have enough : 4 * (before ++ token :: rest).length + 5 ≤ bound := by omega
  have enough' : 4 * (before ++ zero :: other).length + 5 ≤ bound := by omega
  rw [← on_program enough]
  rw [List.singleton_append, ← on_program enough'] at accepts
  cases integerEnd_of_readsIntegers (readsIntegers_program bound) before false with
  | left result left looked ends =>
    -- The integer would be left or refused with zero in its place as well.
    rw [ends zero other isInteger] at accepts
    simp at accepts
  | refused cause ends =>
    rw [ends zero other isInteger] at accepts
    simp at accepts
  | taken next ends =>
    rw [ends token rest isInteger, leaf_of_unreadable isInteger fails]
    rfl

/-- Parsing fails because of an integer exactly if the first integer that cannot be read stands
where an integer may stand. -/
theorem parseTokens_numeral_iff :
    parseTokens tokens = .error (.numeral fault) ↔
      ∃ before token rest, tokens = before ++ token :: rest ∧ Readable before ∧
        token.kind = .integer ∧ Text.readInteger token.text = .error fault ∧
        StartsProgram (before ++ [{ token with text := "0" }]) := by
  rw [Parse.parseTokens_eq]
  constructor
  · intro isNumeral
    obtain ⟨before, token, rest, rfl, isInteger, fails, starts, isAfter⟩ :=
      exists_of_ending_numeral (Prod.ext isNumeral rfl)
    have readable : Readable before := by
      apply Classical.byContradiction
      intro notReadable
      obtain ⟨first, earlier, more, _, rfl, isInteger', fails'⟩ :=
        exists_of_not_readable notReadable
      -- The parser would have stopped there, with more tokens left than there are.
      have ends : ending (first ++ earlier :: (more ++ token :: rest)) =
          (.error (.numeral fault), ⟨rest, false⟩) := by
        rw [← List.cons_append, ← List.append_assoc]
        exact Prod.ext isNumeral isAfter
      rcases stops_of_ending isInteger' fails' ends with ⟨left, isLeft⟩ | ⟨isLeft, -⟩
      · have tooLong := congrArg List.length isLeft
        simp only [List.length_append, List.length_cons] at tooLong
        omega
      · have tooLong := congrArg (fun view => view.rest.length) isLeft
        simp only [List.length_append, List.length_cons] at tooLong
        omega
    exact ⟨before, token, rest, rfl, readable, isInteger, fails,
      startsProgram_zero readable isInteger fails starts⟩
  · rintro ⟨before, token, rest, rfl, readable, isInteger, fails, starts⟩
    rw [ending_of_startsProgram readable isInteger fails starts]

/-- A text fails because of an integer if its tokens do: a fault of the text comes behind all of
them. -/
theorem parse_numeral_iff {source : String} :
    parse source = .error (.numeral fault) ↔
      parseTokens (Lexer.tokens source).1 = .error (.numeral fault) := by
  rcases lexed : Lexer.tokens source with ⟨tokens, lexical⟩
  cases lexical with
  | none => rw [parse_of_tokens lexed]
  | some lexical =>
    rcases parse_of_tokens_fault lexed with ⟨-, same⟩ | ⟨atEnd, comesFirst⟩
    · rw [same]
    · constructor
      · intro fails
        exact absurd (comesFirst.symm.trans fails) (by simp)
      · intro fails
        obtain ⟨_, isGrammar, -⟩ := not_isOfToken_of_ending atEnd fails
        exact absurd isGrammar (by simp)

end JamLang
