import JamLang.Proofs.Lexer.LongestMatch
import JamLang.Proofs.Text.Offset

/-!
# Where tokens stand

A token says truly where it stands: at its location there is an offset of the text, and there stands
the text of the token.  The same holds of the report on a character that starts no token, and of the
report on a comment that is never closed.  The tokens stand one behind the other without overlap,
and the fault stands behind all of them (`standInOrder_tokens`).
-/

namespace JamLang

/-- The text of the token stands at the offset of the text, and the token has the location of the
offset. -/
structure Token.StandsAt (text : List Char) (offset : Nat) (token : Token) : Prop where
  loc : token.loc = Loc.ofOffset text offset
  notEmpty : token.text ≠ ""
  stands : token.text.toList <+: text.drop offset

/-- The cause of the fault stands at the offset of the text, and the fault has the location of the
offset. -/
inductive LexicalFault.StandsAt (text : List Char) (offset : Nat) : LexicalFault → Prop where
  | illegalCharacter {c : Char} (stands : text[offset]? = some c) :
      StandsAt text offset (.illegalCharacter c (.ofOffset text offset))
  | unterminatedComment (stands : Lexer.StartsUnclosed (text.drop offset)) :
      StandsAt text offset (.unterminatedComment (.ofOffset text offset))

theorem LexicalFault.StandsAt.loc_diagnostic {text : List Char} {offset : Nat}
    {fault : LexicalFault} (stands : fault.StandsAt text offset) :
    fault.diagnostic.loc = .ofOffset text offset := by
  cases stands with
  | illegalCharacter | unterminatedComment => rfl

namespace Lexer

variable {text before : List Char} {start : Nat} {tokens : List Token} {token : Token}
  {fault? : Option LexicalFault} {fault : LexicalFault}

/-- From the offset `start` on, the tokens stand in the text one behind the other without overlap,
and the fault, if there is one, stands behind them. -/
inductive StandInOrder (text : List Char) :
    (start : Nat) → List Token → Option LexicalFault → Prop where
  | finished {start : Nat} : StandInOrder text start [] none
  | fault {start offset : Nat} {fault : LexicalFault} (isBehind : start ≤ offset)
      (stands : fault.StandsAt text offset) : StandInOrder text start [] (some fault)
  | token {start offset : Nat} {token : Token} {tokens : List Token}
      {fault? : Option LexicalFault} (isBehind : start ≤ offset)
      (stands : token.StandsAt text offset)
      (following : StandInOrder text (offset + token.text.length) tokens fault?) :
      StandInOrder text start (token :: tokens) fault?

theorem StandInOrder.exists_offset (inOrder : StandInOrder text start tokens fault?)
    (isToken : token ∈ tokens) : ∃ offset, token.StandsAt text offset := by
  induction inOrder with
  | finished | fault => cases isToken
  | token isBehind stands following ih =>
    cases List.mem_cons.1 isToken with
    | inl isFirst => exact ⟨_, isFirst ▸ stands⟩
    | inr isLater => exact ih isLater

theorem StandInOrder.exists_offset_fault
    (inOrder : StandInOrder text start tokens (some fault)) :
    ∃ offset, fault.StandsAt text offset := by
  generalize isFault : some fault = fault? at inOrder
  induction inOrder with
  | finished => cases isFault
  | fault isBehind stands =>
    obtain rfl := Option.some.inj isFault
    exact ⟨_, stands⟩
  | token isBehind stands following ih => exact ih isFault

/-- The tokens of a cut stand where they were cut off. -/
theorem Cut.standInOrder {cut : Cut} (isLongest : cut.IsLongestMatch) (before : List Char) :
    StandInOrder (before ++ cut.text) before.length (cut.tokens (Loc.start.advance before))
      (cut.fault? (Loc.start.advance before)) := by
  induction cut generalizing before with
  | finished gap => exact .finished
  | illegal gap c rest =>
    have split : before ++ (Cut.illegal gap c rest).text = (before ++ gap) ++ c :: rest := by
      simp [Cut.text]
    have isBehind : before.length ≤ (before ++ gap).length := by simp
    rw [Cut.tokens, Cut.fault?, split, ← Loc.advance_append,
      Loc.advance_eq_ofOffset (before ++ gap) (c :: rest)]
    exact .fault isBehind (.illegalCharacter (by simp))
  | unclosed gap rest =>
    have split : before ++ (Cut.unclosed gap rest).text = (before ++ gap) ++ rest := by
      simp [Cut.text]
    have isBehind : before.length ≤ (before ++ gap).length := by simp
    rw [Cut.tokens, Cut.fault?, split, ← Loc.advance_append,
      Loc.advance_eq_ofOffset (before ++ gap) rest]
    refine .fault isBehind (.unterminatedComment ?_)
    rw [List.drop_left]
    exact isLongest.2
  | token gap kind lexeme following ih =>
    obtain ⟨-, -, isLexeme, isLongest⟩ := isLongest
    have split : before ++ (Cut.token gap kind lexeme following).text =
        (before ++ gap) ++ (lexeme ++ following.text) := by simp [Cut.text]
    have isBehind : before.length ≤ (before ++ gap).length := by simp
    -- What follows was cut off behind the lexeme, which is as long as the text of the token.
    have later := ih isLongest ((before ++ gap) ++ lexeme)
    rw [List.append_assoc, List.length_append, ← String.length_ofList (l := lexeme),
      Loc.advance_append, Loc.advance_append] at later
    rw [Cut.tokens, Cut.fault?, split]
    refine .token isBehind ⟨?_, ?_, ?_⟩ later
    · rw [← Loc.advance_append]
      exact Loc.advance_eq_ofOffset _ _
    · obtain ⟨c, more, rfl⟩ := isLexeme.exists_cons
      simp
    · rw [List.drop_left, String.toList_ofList]
      exact List.prefix_append lexeme following.text

theorem standInOrder_tokens (source : String) :
    StandInOrder source.toList 0 (Lexer.tokens source).1 (Lexer.tokens source).2 := by
  obtain ⟨cut, isText, isLongest, lexed⟩ := exists_tokens_eq source
  rw [lexed, ← isText]
  exact cut.standInOrder isLongest []

end Lexer

end JamLang
