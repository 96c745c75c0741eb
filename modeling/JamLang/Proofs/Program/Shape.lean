import JamLang.Proofs.Lexer.Tokens
import JamLang.Proofs.Program.Acceptance
import JamLang.Proofs.Program.Unreadable
import JamLang.Proofs.Source.WellFormed
import JamLang.Proofs.Text.Numeral

/-!
# The shape of parsed trees

The grammar gives every node the number and the kinds of parts that it has to have, whatever the
texts of its tokens are.  If the texts are those of a lexed source, the names of a tree are names,
and its integers are natural numbers that may be written again.  So a tree that was parsed is well
formed.
-/

namespace JamLang

open Grammar Node

/-! ## Tokens of a source -/

/-- The text of the token is a name or a natural number, if its kind says so. -/
structure Token.IsFormed (token : Token) : Prop where
  ofIdentifier : token.kind = .identifier → IsVariableName token.text
  ofPrimitive : token.kind = .primitive → token.text ∈ Vocabulary.primitives
  ofInteger : token.kind = .integer → ∃ value : Nat, Text.readInteger token.text = .ok value ∧
    (Nat.toDigits 10 value).length ≤ Text.digitLimit

theorem readInteger_of_isLexeme {lexeme rest : List Char}
    (isLexeme : Lexer.IsLexeme .integer lexeme rest) :
    Text.readInteger (String.ofList lexeme) =
      if Text.digitLimit < lexeme.length then .error (.tooManyDigits lexeme.length)
      else .ok (Nat.ofDigitChars 10 lexeme 0) :=
  Text.readInteger_digits isLexeme.digits.1 isLexeme.digits.2

/-- Of the tokens of a source only the integers may be at fault. -/
theorem Lexer.StandsIn.isFormed {loc : Loc} {text : List Char} {token : Token}
    (stands : StandsIn loc text token)
    (readable : token.kind = .integer → ∃ value, Text.readInteger token.text = .ok value) :
    token.IsFormed := by
  obtain ⟨before, rest, -, -, isLexeme⟩ := stands
  have sameText : String.ofList token.text.toList = token.text := String.ofList_toList
  constructor
  · intro isIdentifier
    rw [isIdentifier] at isLexeme
    obtain ⟨isWord, isName⟩ := isLexeme.isWord_of_identifier
    exact sameText ▸ ⟨by simpa using isWord, isName⟩
  · intro isPrimitive
    rw [isPrimitive] at isLexeme
    exact sameText ▸ isLexeme.mem_primitives
  · intro isInteger
    obtain ⟨value, isRead⟩ := readable isInteger
    rw [isInteger] at isLexeme
    have reads := readInteger_of_isLexeme isLexeme
    rw [sameText] at reads
    split at reads
    · exact absurd (isRead.symm.trans reads) (by simp)
    · next fits =>
      -- Leading zeros are not written again, so the number has at most as many digits as its text.
      have shorter := Text.length_toDigits_ofDigitChars_le isLexeme.digits.1 isLexeme.digits.2
      exact ⟨_, reads, Nat.le_trans shorter (Nat.not_lt.1 fits)⟩

def AllFormed (tokens : List Token) : Prop :=
  ∀ token ∈ tokens, token.IsFormed

section

variable {token : Token} {tokens first second : List Token}

theorem AllFormed.head (formed : AllFormed (token :: tokens)) : token.IsFormed :=
  formed token (.head _)

theorem AllFormed.of_cons (formed : AllFormed (token :: tokens)) : AllFormed tokens :=
  (List.forall_mem_cons.1 formed).2

theorem AllFormed.left (formed : AllFormed (first ++ second)) : AllFormed first :=
  (List.forall_mem_append.1 formed).1

theorem AllFormed.right (formed : AllFormed (first ++ second)) : AllFormed second :=
  (List.forall_mem_append.1 formed).2

end

/-! ## Trees of well-formed tokens -/

/-- What is well formed about the meaning of a phrase, for each kind of phrases. -/
def Formed : (symbol : Nonterminal) → symbol.Meaning → Prop
  | .expression, tree | .term, tree | .factor, tree => WellFormed .expression tree
  | .definition, tree => WellFormed .definition tree
  | .operations, operations => ∀ operation ∈ operations,
    operation.1.text ∈ Vocabulary.binaryOperators ∧ WellFormed .expression operation.2
  | .arguments, trees | .argumentList, trees => ∀ tree ∈ trees, WellFormed .expression tree
  | .variables, trees | .variableList, trees => ∀ tree ∈ trees, IsVariable tree
  | .definitions, trees => trees ≠ [] ∧ ∀ tree ∈ trees, WellFormed .definition tree

theorem wellFormed_applyOperations {first : Node} {operations : List (Token × Node)}
    (firstFormed : WellFormed .expression first) (formed : Formed .operations operations) :
    WellFormed .expression (applyOperations first operations) := by
  induction operations generalizing first with
  | nil => exact firstFormed
  | cons operation operations ih =>
    obtain ⟨⟨isBinary, rightFormed⟩, formed⟩ := List.forall_mem_cons.1 formed
    exact ih (.binary isBinary firstFormed rightFormed) formed

theorem formed_of_derives {symbol : Nonterminal} {tokens : List Token} {meaning : symbol.Meaning}
    (derives : Derives symbol tokens meaning) (formed : AllFormed tokens) :
    Formed symbol meaning := by
  induction derives with
  | conditional _ _ _ _ _ _ ihCondition ihConsequence ihOtherwise =>
    exact .conditional (ihCondition formed.of_cons.left)
      (ihConsequence formed.of_cons.right.of_cons.left)
      (ihOtherwise formed.of_cons.right.of_cons.right.of_cons)
  | letIn _ _ _ _ ihDefinitions ihBody =>
    obtain ⟨notEmpty, definitionsFormed⟩ := ihDefinitions formed.of_cons.left
    exact .letIn notEmpty definitionsFormed (ihBody formed.of_cons.right.of_cons)
  | mapTo _ _ _ _ ihVariables ihBody =>
    exact .mapTo (ihVariables formed.of_cons.left) (ihBody formed.of_cons.right.of_cons)
  | operation _ _ ihFirst ihOperations =>
    exact wellFormed_applyOperations (ihFirst formed.left) (ihOperations formed.right)
  | moreOperations _ isBinary _ _ ihRight ihOperations =>
    exact List.forall_mem_cons.2
      ⟨⟨isBinary, ihRight formed.of_cons.left⟩, ihOperations formed.of_cons.right⟩
  | unary _ isUnary _ ihOperand => exact .unary isUnary (ihOperand formed.of_cons)
  | integer isInteger =>
    obtain ⟨value, isRead, fits⟩ := formed.head.ofInteger isInteger
    rw [Formed, integerOf, isRead]
    exact .integer fits
  | boolean => exact .boolean
  | null => exact .null
  | uncalled _ ihFactor => exact ihFactor formed
  | call _ _ _ _ ihCallee ihArguments =>
    exact .call (ihCallee formed.left) (ihArguments formed.right.of_cons.left)
  | group _ _ _ ihInner => exact ihInner formed.of_cons.left
  | primitive isPrimitive => exact .primitive (formed.head.ofPrimitive isPrimitive)
  | identifier isIdentifier => exact .var (formed.head.ofIdentifier isIdentifier)
  | noOperations | noArguments | noVariables => exact fun _ isPart => absurd isPart List.not_mem_nil
  | someArguments _ ihList | someVariables _ ihList => exact ihList formed
  | lastArgument _ ihTree => exact List.forall_mem_singleton.2 (ihTree formed)
  | moreArguments _ _ _ ihFirst ihRest =>
    exact List.forall_mem_cons.2 ⟨ihFirst formed.left, ihRest formed.right.of_cons⟩
  | lastVariable isIdentifier =>
    exact List.forall_mem_singleton.2 ⟨_, _, rfl, formed.head.ofIdentifier isIdentifier⟩
  | moreVariables isIdentifier _ _ ihRest =>
    exact List.forall_mem_cons.2
      ⟨⟨_, _, rfl, formed.head.ofIdentifier isIdentifier⟩, ihRest formed.of_cons.of_cons⟩
  | lastDefinition _ ihTree =>
    exact ⟨List.cons_ne_nil _ _, List.forall_mem_singleton.2 (ihTree formed)⟩
  | moreDefinitions _ _ ihFirst ihRest =>
    exact ⟨List.cons_ne_nil _ _,
      List.forall_mem_cons.2 ⟨ihFirst formed.left, (ihRest formed.right).2⟩⟩
  | definition isIdentifier _ _ _ ihRight =>
    exact .definition (formed.head.ofIdentifier isIdentifier)
      (ihRight formed.of_cons.of_cons.left)

theorem allFormed_of_parseTokens {source : String} {tokens : List Token} {tree : Node}
    (lexed : Lexer.tokens source = (tokens, none)) (parses : parseTokens tokens = .ok tree) :
    AllFormed tokens := by
  intro token isToken
  have stands : Lexer.StandsIn .start source.toList token :=
    Lexer.standsIn_of_mem_tokens (by rwa [lexed])
  exact stands.isFormed (readable_of_parseTokens parses token isToken)

theorem wellFormed_of_parse {source : String} {tree : Node} (parses : parse source = .ok tree) :
    WellFormed .expression tree := by
  obtain ⟨tokens, lexed, parses⟩ := tokens_of_parse parses
  exact formed_of_derives (derives_of_parseTokens parses) (allFormed_of_parseTokens lexed parses)

end JamLang
