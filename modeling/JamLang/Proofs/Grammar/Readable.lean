import JamLang.Proofs.Grammar.Basic

/-!
# Integers that may be read

The grammar asks for an integer where the parser reads one, and reading it may fail: its text may
be too long, or no numeral at all.  Lists of tokens without such integers are called readable.

Whether tokens are a program does not depend on the texts of their integers.  So every program has
a readable twin, which differs from it in nothing but the integers that cannot be read.
-/

namespace JamLang.Grammar

/-! ## Readable tokens -/

/-- Every integer among the tokens is written as one that may be read. -/
def Readable (tokens : List Token) : Prop :=
  ∀ token ∈ tokens, token.kind = .integer → ∃ value, Text.readInteger token.text = .ok value

theorem readable_cons {token : Token} {tokens : List Token} :
    Readable (token :: tokens) ↔
      (token.kind = .integer → ∃ value, Text.readInteger token.text = .ok value) ∧
        Readable tokens :=
  List.forall_mem_cons

theorem readable_append {first second : List Token} :
    Readable (first ++ second) ↔ Readable first ∧ Readable second :=
  List.forall_mem_append

theorem Readable.of_cons {token : Token} {tokens : List Token} (readable : Readable (token :: tokens)) :
    Readable tokens :=
  (readable_cons.1 readable).2

theorem Readable.left {first second : List Token} (readable : Readable (first ++ second)) :
    Readable first :=
  (readable_append.1 readable).1

theorem Readable.right {first second : List Token} (readable : Readable (first ++ second)) :
    Readable second :=
  (readable_append.1 readable).2

/-! ## The readable twin of a program -/

/-- Tokens of the same kinds, whose operators have the same texts, make the same phrases. -/
theorem derives_map {change : Token → Token} (keepsKind : ∀ token, (change token).kind = token.kind)
    (keepsOperator : ∀ token, token.kind = .operator → (change token).text = token.text)
    {symbol : Nonterminal} {tokens : List Token} {meaning : symbol.Meaning}
    (derives : Derives symbol tokens meaning) :
    ∃ meaning', Derives symbol (tokens.map change) meaning' := by
  have keeps {token : Token} {kind : TokenKind} (isKind : token.kind = kind) :
      (change token).kind = kind := (keepsKind token).trans isKind
  induction derives with
  | conditional isIf _ isThen _ isElse _ ihCondition ihConsequence ihOtherwise =>
    obtain ⟨_, condition⟩ := ihCondition
    obtain ⟨_, consequence⟩ := ihConsequence
    obtain ⟨_, otherwise⟩ := ihOtherwise
    have derives := Derives.conditional (keeps isIf) condition (keeps isThen) consequence
      (keeps isElse) otherwise
    exact ⟨_, by simpa using derives⟩
  | letIn isLet _ isIn _ ihDefinitions ihBody =>
    obtain ⟨_, definitions⟩ := ihDefinitions
    obtain ⟨_, body⟩ := ihBody
    have derives := Derives.letIn (keeps isLet) definitions (keeps isIn) body
    exact ⟨_, by simpa using derives⟩
  | mapTo isMap _ isTo _ ihVariables ihBody =>
    obtain ⟨_, names⟩ := ihVariables
    obtain ⟨_, body⟩ := ihBody
    have derives := Derives.mapTo (keeps isMap) names (keeps isTo) body
    exact ⟨_, by simpa using derives⟩
  | operation _ _ ihFirst ihOperations =>
    obtain ⟨_, first⟩ := ihFirst
    obtain ⟨_, operations⟩ := ihOperations
    exact ⟨_, by simpa using Derives.operation first operations⟩
  | noOperations => exact ⟨_, .noOperations⟩
  | moreOperations isOperator isBinary _ _ ihRight ihOperations =>
    obtain ⟨_, right⟩ := ihRight
    obtain ⟨_, operations⟩ := ihOperations
    have isBinary := (keepsOperator _ isOperator).symm ▸ isBinary
    have derives := Derives.moreOperations (keeps isOperator) isBinary right operations
    exact ⟨_, by simpa using derives⟩
  | unary isOperator isUnary _ ihOperand =>
    obtain ⟨_, operand⟩ := ihOperand
    exact ⟨_, .unary (keeps isOperator) ((keepsOperator _ isOperator).symm ▸ isUnary) operand⟩
  | integer isInteger => exact ⟨_, .integer (keeps isInteger)⟩
  | boolean isBoolean => exact ⟨_, .boolean (keeps isBoolean)⟩
  | null isNull => exact ⟨_, .null (keeps isNull)⟩
  | uncalled _ ihFactor =>
    obtain ⟨_, factor⟩ := ihFactor
    exact ⟨_, .uncalled factor⟩
  | call _ isOpening _ isClosing ihCallee ihArguments =>
    obtain ⟨_, callee⟩ := ihCallee
    obtain ⟨_, arguments⟩ := ihArguments
    have derives := Derives.call callee (keeps isOpening) arguments (keeps isClosing)
    exact ⟨_, by simpa using derives⟩
  | group isOpening _ isClosing ihInner =>
    obtain ⟨_, inner⟩ := ihInner
    exact ⟨_, by simpa using Derives.group (keeps isOpening) inner (keeps isClosing)⟩
  | primitive isPrimitive => exact ⟨_, .primitive (keeps isPrimitive)⟩
  | identifier isIdentifier => exact ⟨_, .identifier (keeps isIdentifier)⟩
  | noArguments => exact ⟨_, .noArguments⟩
  | someArguments _ ihList =>
    obtain ⟨_, list⟩ := ihList
    exact ⟨_, .someArguments list⟩
  | lastArgument _ ihTree =>
    obtain ⟨_, tree⟩ := ihTree
    exact ⟨_, .lastArgument tree⟩
  | moreArguments _ isComma _ ihFirst ihRest =>
    obtain ⟨_, first⟩ := ihFirst
    obtain ⟨_, rest⟩ := ihRest
    exact ⟨_, by simpa using Derives.moreArguments first (keeps isComma) rest⟩
  | noVariables => exact ⟨_, .noVariables⟩
  | someVariables _ ihList =>
    obtain ⟨_, list⟩ := ihList
    exact ⟨_, .someVariables list⟩
  | lastVariable isIdentifier => exact ⟨_, .lastVariable (keeps isIdentifier)⟩
  | moreVariables isIdentifier isComma _ ihRest =>
    obtain ⟨_, rest⟩ := ihRest
    exact ⟨_, .moreVariables (keeps isIdentifier) (keeps isComma) rest⟩
  | lastDefinition _ ihTree =>
    obtain ⟨_, tree⟩ := ihTree
    exact ⟨_, .lastDefinition tree⟩
  | moreDefinitions _ _ ihFirst ihRest =>
    obtain ⟨_, first⟩ := ihFirst
    obtain ⟨_, rest⟩ := ihRest
    exact ⟨_, by simpa using Derives.moreDefinitions first rest⟩
  | definition isIdentifier isBind _ isSemicolon ihRight =>
    obtain ⟨_, right⟩ := ihRight
    have derives := Derives.definition (keeps isIdentifier) (keeps isBind) right (keeps isSemicolon)
    exact ⟨_, by simpa using derives⟩

/-- The token, with another text if it is an integer that cannot be read. -/
def readableTwin (token : Token) : Token :=
  match token.kind, Text.readInteger token.text with
  | .integer, .error _ => { token with text := "0" }
  | _, _ => token

theorem kind_readableTwin (token : Token) : (readableTwin token).kind = token.kind := by
  unfold readableTwin
  split <;> rfl

theorem text_readableTwin {token : Token} (isOperator : token.kind = .operator) :
    (readableTwin token).text = token.text := by
  simp [readableTwin, isOperator]

theorem readableTwin_of_readable {token : Token}
    (readable : token.kind = .integer → ∃ value, Text.readInteger token.text = .ok value) :
    readableTwin token = token := by
  unfold readableTwin
  split
  next isInteger fails =>
    obtain ⟨value, isRead⟩ := readable isInteger
    exact absurd (isRead.symm.trans fails) (by simp)
  next => rfl

theorem readable_twins (tokens : List Token) : Readable (tokens.map readableTwin) := by
  intro twin isTwin isInteger
  obtain ⟨token, -, rfl⟩ := List.mem_map.1 isTwin
  rw [kind_readableTwin] at isInteger
  cases read : Text.readInteger token.text with
  | ok value => exact ⟨value, by simp [readableTwin, isInteger, read]⟩
  | error fault =>
    have zero : Text.readInteger "0" = .ok 0 := rfl
    exact ⟨0, by simpa [readableTwin, isInteger, read] using zero⟩

/-- What readable tokens can go on to, they can go on to readably. -/
theorem StartsProgram.readably {tokens : List Token} (starts : StartsProgram tokens)
    (readable : Readable tokens) : ∃ rest, Readable (tokens ++ rest) ∧ IsProgram (tokens ++ rest) := by
  obtain ⟨rest, tree, derives⟩ := starts
  -- The twin of the whole leaves the readable tokens alone, and mends what follows them.
  have same : tokens.map readableTwin = tokens :=
    (List.map_congr_left fun token isToken =>
      readableTwin_of_readable (readable token isToken)).trans tokens.map_id
  have twin := derives_map kind_readableTwin (fun _ => text_readableTwin) derives
  rw [List.map_append, same] at twin
  exact ⟨_, readable_append.2 ⟨readable, readable_twins rest⟩, twin⟩

end JamLang.Grammar
