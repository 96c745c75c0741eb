import JamLang.Proofs.Descent.Bound
import JamLang.Proofs.Descent.Completeness
import JamLang.Proofs.Dialogue.Stream

/-!
# How the parsing of a program ends

What a list of tokens comes to, when it is parsed as a whole program, is its `ending`: the answer
and the view that is left.  The ending does not depend on the bound on the depth of calls, if that
is large enough, and it is what parsing comes to with every stream of these tokens.
-/

namespace JamLang

open Grammar

/-- What the fault says about the tokens before the offending one is true: they can go on to a
program with whatever it asks for, or they are a program as they are. -/
def SyntaxFault.IsTrueAfter (tokens : List Token) : SyntaxFault → Prop
  | .unexpected _ expected => Phrases.Repairable (Derives .expression) tokens expected
  | .trailing _ => IsProgram tokens

theorem startsProgram_of_viable {tokens : List Token}
    (viable : Phrases.Viable (Derives .expression) tokens) : StartsProgram tokens := by
  obtain ⟨rest, tree, derives⟩ := viable
  exact ⟨rest, tree, derives⟩

theorem SyntaxFault.IsTrueAfter.startsProgram {tokens : List Token} {fault : SyntaxFault}
    (isTrue : fault.IsTrueAfter tokens) : StartsProgram tokens := by
  cases fault with
  | unexpected found expected => exact startsProgram_of_viable isTrue.viable
  | trailing found => exact ⟨[], (List.append_nil tokens).symm ▸ isTrue⟩

end JamLang

namespace JamLang.Dialogue

open Grammar

variable {tokens : List Token} {tree : Node} {bound : Nat} {looked : Bool}

/-! ## Endings -/

/-- How the routine for programs may end, and what it leaves. -/
inductive ProgramEnd (tokens : List Token) : Except Fault Node × View → Prop where
  /-- The tokens are a program, and all were read. -/
  | accepted {tree : Node} (derives : Derives .expression tokens tree) :
      ProgramEnd tokens (.ok tree, ⟨[], true⟩)
  /-- The last token read is the one that was found, and the fault is right about those before. -/
  | refused {consumed rest : List Token} {token : Token} {fault : SyntaxFault}
      (split : tokens = consumed ++ token :: rest) (isFound : fault.diagnostic.found = some token)
      (isTrue : fault.IsTrueAfter consumed) :
      ProgramEnd tokens (.error (.grammar fault), ⟨rest, false⟩)
  /-- All tokens were read, and the fault is right about them. -/
  | cutShort {fault : SyntaxFault} (isFound : fault.diagnostic.found = none)
      (isTrue : fault.IsTrueAfter tokens) :
      ProgramEnd tokens (.error (.grammar fault), ⟨[], true⟩)
  /-- The last token read is an integer that cannot be read. -/
  | unreadable {consumed rest : List Token} {token : Token} {fault : Text.NumeralFault}
      (split : tokens = consumed ++ token :: rest) (isInteger : token.kind = .integer)
      (fails : Text.readInteger token.text = .error fault) :
      ProgramEnd tokens (.error (.numeral fault), ⟨rest, false⟩)

/-- The routine for programs only ends in these ways. -/
theorem programEnd_on (enough : 4 * tokens.length + 5 ≤ bound) :
    ProgramEnd tokens ((program bound).on ⟨tokens, looked⟩) := by
  have outcome : Phrases.Outcome (Derives .expression) tokens
      ((expression bound).on ⟨tokens, looked⟩) :=
    (recognisesAll bound).expression enough tokens (Nat.le_refl _)
  simp only [program, bind_eq_bind]
  rw [on_bind]
  generalize (expression bound).on ⟨tokens, looked⟩ = ending at outcome
  cases outcome with
  | @accepted consumed rest tree looked' split derives =>
    cases rest with
    | nil =>
      rw [List.append_nil] at split
      exact .accepted (split ▸ derives)
    | cons token rest =>
      -- The tokens before the one that trails are a program as they are.
      exact .refused split rfl ⟨tree, derives⟩
  | refused split repairable => exact .refused split rfl repairable
  | cutShort repairable => exact .cutShort rfl repairable
  | unreadable split isInteger fails viable => exact .unreadable split isInteger fails

/-- A program whose integers can be read is accepted. -/
theorem on_program_of_derives (derives : Derives .expression tokens tree)
    (readable : Readable tokens) (enough : 4 * tokens.length + 5 ≤ bound) :
    (program bound).on ⟨tokens, looked⟩ = (.ok tree, ⟨[], true⟩) := by
  have finds : FindsExpression tokens tree := finds_of_derives derives readable
  have stops : StartsNoneOf [.operator, .leftParen] [] := by simp [StartsNoneOf]
  have yields : (expression bound).Yields ⟨tokens ++ [], looked⟩ tree [] :=
    finds.yields stops enough
  rw [List.append_nil] at yields
  obtain ⟨looked', ends⟩ := yields
  simp only [program, bind_eq_bind]
  rw [on_bind_ok ends]
  rfl

theorem ProgramEnd.ne_tooDeep {ending : Except Fault Node × View}
    (programEnd : ProgramEnd tokens ending) : ending.1 ≠ .error .tooDeep := by
  cases programEnd <;> simp

/-! ## The ending of a list of tokens -/

/-- What the routine for programs answers on a list of tokens, and what it leaves. -/
def ending (tokens : List Token) : Except Fault Node × View :=
  (program (4 * tokens.length + 5)).on ⟨tokens, false⟩

/-- The bound that an ending is reached with suffices. -/
theorem suffices_program : Suffices (4 * · + 5) program where
  approximates := approximates_program
  ne_tooDeep _ := (programEnd_on (Nat.le_refl _)).ne_tooDeep

/-- The ending does not depend on the bound. -/
theorem on_program (enough : 4 * tokens.length + 5 ≤ bound) :
    (program bound).on ⟨tokens, false⟩ = ending tokens :=
  suffices_program.on_of_le enough

theorem programEnd_ending (tokens : List Token) : ProgramEnd tokens (ending tokens) :=
  programEnd_on (Nat.le_refl _)

theorem ending_of_derives (derives : Derives .expression tokens tree)
    (readable : Readable tokens) : ending tokens = (.ok tree, ⟨[], true⟩) :=
  on_program_of_derives derives readable (Nat.le_refl _)

/-- An ending that does not depend on what follows the last token read is the ending of all tokens
that start in the same way. -/
theorem ending_append_of_not_looked {consumed rest : List Token} {result : Except Fault Node}
    (ends : ending (consumed ++ rest) = (result, ⟨rest, false⟩)) (other : List Token) :
    ending (consumed ++ other) = (result, ⟨other, false⟩) :=
  suffices_program.on_append_of_not_looked ends other

/-- A token that is refused cannot be saved: no program starts with the tokens up to it. -/
theorem not_startsProgram_of_refused {consumed rest : List Token} {fault : Fault}
    (readable : Readable consumed)
    (ends : ending (consumed ++ rest) = (.error fault, ⟨rest, false⟩)) :
    ¬ StartsProgram consumed := by
  intro starts
  -- A program that starts in this way may be taken to be readable, and then it is accepted; but the
  -- routine has not looked beyond the token that it refuses, so it refuses it here too.
  obtain ⟨other, readably, tree, derives⟩ := starts.readably readable
  have accepts := ending_of_derives derives readably
  rw [ending_append_of_not_looked ends other] at accepts
  simp at accepts

end JamLang.Dialogue

/-! ## Programs with a stream -/

namespace JamLang.Parse

open JamLang.Stream (Stands)

/-- Parsing a stream comes to the ending of its tokens, unless a fault of the text takes the place
of the end. -/
theorem run_program {stream : Stream} {tokens : List Token} {fault : Option LexicalFault}
    (stands : Stands fault stream ⟨tokens, false⟩) :
    (∃ after, program.run stream = ((Dialogue.ending tokens).1, after) ∧
        Stands fault after (Dialogue.ending tokens).2) ∨
      ∃ cause after, fault = some cause ∧ (Dialogue.ending tokens).2 = ⟨[], true⟩ ∧
        program.run stream = (.error (.lexical cause), after) := by
  obtain ⟨-, contents⟩ := stands.isFresh
  have fits : tokens.length ≤ stream.size := by
    have fits := stream.supply.length_contents_le
    rw [contents] at fits
    exact Nat.le_add_right_of_le fits
  have enough : 4 * tokens.length + 5 ≤ depthBound stream := by
    rw [depthBound]
    omega
  have runs := run_ofDialogue (Dialogue.program (depthBound stream)) stands
  rw [Dialogue.on_program enough] at runs
  rwa [program, run_bounded]

/-- Parsing a list of tokens comes to their ending, and leaves a list. -/
theorem run_program_ofTokens (tokens : List Token) :
    ∃ after, program.run (.ofTokens tokens) = ((Dialogue.ending tokens).1, after) ∧
      Stands none after (Dialogue.ending tokens).2 ∧ after.supply.IsList := by
  have enough : 4 * tokens.length + 5 ≤ depthBound (.ofTokens tokens) := by
    rw [depthBound_ofTokens]
    omega
  have runs := run_ofDialogue_ofTokens (Dialogue.program (depthBound (.ofTokens tokens))) tokens
  rw [Dialogue.on_program enough] at runs
  rwa [program, run_bounded]

theorem parseTokens_eq (tokens : List Token) :
    parseTokens tokens = (Dialogue.ending tokens).1 := by
  obtain ⟨after, runs, -⟩ := run_program_ofTokens tokens
  exact congrArg Prod.fst runs

/-- Tokens that have no tree are no program, or an integer among them cannot be read. -/
theorem exists_of_parseTokens_error {tokens : List Token} {cause : Fault}
    (fails : parseTokens tokens = .error cause) :
    (∃ fault, cause = .grammar fault) ∨ ∃ fault, cause = .numeral fault := by
  rw [parseTokens_eq] at fails
  have programEnd := Dialogue.programEnd_ending tokens
  generalize Dialogue.ending tokens = ending at fails programEnd
  cases programEnd with
  | accepted => simp at fails
  | refused | cutShort => exact .inl ⟨_, (Except.error.inj fails).symm⟩
  | unreadable => exact .inr ⟨_, (Except.error.inj fails).symm⟩

end JamLang.Parse
