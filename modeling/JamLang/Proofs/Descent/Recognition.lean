import JamLang.Parse.Descent
import JamLang.Proofs.Dialogue.Recognition
import JamLang.Proofs.Grammar.Basic

/-!
# The routines of the grammar recognise its phrases

Each routine of the descent recognises the phrases of a nonterminal, or what is left of them when
the lead has been read.  In particular a fault always names a token, or the end, that comes where
the tokens before it could still go on to a phrase, and it asks for tokens that they can go on
with.

The bound on the depth of calls has to grow with the number of tokens that are left: each cycle of
calls reads a token, and no cycle has more than four calls.  `RecognisesAll` says how much each
routine needs; the induction is on the bound.
-/

namespace JamLang.Dialogue

open Grammar Phrases

/-! ## What may start a phrase -/

/-- An expression that is a single term. -/
theorem derives_expression_of_term {tokens : List Token} {tree : Node}
    (derives : Derives .term tokens tree) : Derives .expression tokens tree := by
  simpa [applyOperations] using Derives.operation derives .noOperations

/-- A token of a kind, which completes what asks for one. -/
def sample (kind : TokenKind) : Token :=
  ⟨kind, "x", .unknown⟩

/-- Some variable is a term, and so fills any gap in a program. -/
theorem derives_sample : Derives .term [sample .identifier] (.var "x" .unknown) :=
  .uncalled (.identifier rfl)

/-- Every token that may start an operand does start a term. -/
theorem repairable_term : Repairable (Derives .term) [] .operand := by
  refine ⟨⟨⟨.identifier, "", .unknown⟩, .inr (.inr (.inl rfl))⟩, fun token admitted => ?_⟩
  rcases admitted with isConstant | isPrimitive | isIdentifier | isOpening
  · simp only [TokenKind.constants, List.mem_cons, List.not_mem_nil, or_false] at isConstant
    rcases isConstant with isInteger | isBoolean | isNull
    · exact ⟨[], _, .integer isInteger⟩
    · exact ⟨[], _, .boolean isBoolean⟩
    · exact ⟨[], _, .null isNull⟩
  · exact ⟨[], _, .uncalled (.primitive isPrimitive)⟩
  · exact ⟨[], _, .uncalled (.identifier isIdentifier)⟩
  · exact ⟨[sample .identifier, sample .rightParen], _,
      .uncalled (.group isOpening (derives_expression_of_term derives_sample) rfl)⟩

/-- The token starts a factor. -/
def StartsFactor (token : Token) : Prop :=
  token.kind = .leftParen ∨ token.kind = .primitive ∨ token.kind = .identifier

/-! ## At the end of the tokens, or before a token that starts no factor -/

theorem factor_of_not_starts {lead : Token} (starts : ¬ StartsFactor lead) (bound : Nat) :
    factor (bound + 1) (some lead) = unexpected (some lead) .operand := by
  simp only [StartsFactor, not_or] at starts
  simp [factor, starts]

theorem term_none {bound : Nat} (enough : 3 ≤ bound) :
    term bound none = unexpected none .operand := by
  obtain ⟨bound, rfl⟩ := Nat.exists_eq_add_of_le' enough
  simp [term, application, factor]

theorem moreVariables_none {bound : Nat} (enough : 1 ≤ bound) :
    moreVariables bound none = unexpected none .variable := by
  obtain ⟨bound, rfl⟩ := Nat.exists_eq_add_of_le' enough
  simp [moreVariables]

theorem moreDefinitions_none {bound : Nat} (enough : 2 ≤ bound) :
    moreDefinitions bound none = unexpected none .variable := by
  obtain ⟨bound, rfl⟩ := Nat.exists_eq_add_of_le' enough
  simp [moreDefinitions, definition]

/-! ## What is left of a phrase -/

/-- What an expression goes on with after its first term. -/
def operationsAfter (left : Node) : Phrases Node :=
  fun tokens tree =>
    ∃ operations, Derives .operations tokens operations ∧ tree = applyOperations left operations

/-- What a term goes on with after its factor: nothing, or the arguments of a call. -/
def callOf (callee : Node) : Phrases Node :=
  fun tokens tree =>
    tokens = [] ∧ tree = callee ∨
      ∃ opening arguments rest, tokens = opening :: rest ∧ opening.kind = .leftParen ∧
        endedBy .rightParen (Derives .arguments) rest arguments ∧ tree = .call callee arguments

/-- What a list with commas goes on with after its first item: its end, or the rest of it. -/
def listAfter (delimiter : TokenKind) (list : Phrases (List Node)) (first : Node) :
    Phrases (List Node) :=
  fun tokens trees =>
    (∃ closing, tokens = [closing] ∧ closing.kind = delimiter ∧ trees = [first]) ∨
      ∃ comma second rest, tokens = comma :: second ∧ comma.kind = .comma ∧
        endedBy delimiter list second rest ∧ trees = first :: rest

/-- What a list of definitions goes on with after its first one. -/
def definitionsAfter (first : Node) : Phrases (List Node) :=
  fun tokens trees =>
    (∃ inWord, tokens = [inWord] ∧ inWord.kind = .inWord ∧ trees = [first]) ∨
      ∃ rest, endedBy .inWord (Derives .definitions) tokens rest ∧ trees = first :: rest

theorem repairable_definition : Repairable (Derives .definition) [] .variable := by
  refine ⟨⟨sample .identifier, rfl⟩, fun token isIdentifier => ?_⟩
  exact ⟨[sample .bind, sample .identifier, sample .semicolon], _,
    .definition isIdentifier rfl (derives_expression_of_term derives_sample) rfl⟩

theorem repairable_definitions :
    Repairable (endedBy .inWord (Derives .definitions)) [] .variable := by
  refine ⟨repairable_definition.1, fun token admitted => ?_⟩
  obtain ⟨rest, tree, derives⟩ := repairable_definition.2 token admitted
  exact ⟨rest ++ [sample .inWord], [tree], _, sample .inWord, (List.append_assoc ..).symm, rfl,
    .lastDefinition derives⟩

theorem repairable_argumentsAfter (first : Node) :
    Repairable (listAfter .rightParen (Derives .argumentList) first) [] .commaOrParen := by
  refine ⟨⟨sample .comma, .inl rfl⟩, fun token admitted => ?_⟩
  rcases admitted with isComma | isClosing
  · exact ⟨[sample .identifier, sample .rightParen], _, .inr ⟨token, _, _, rfl, isComma,
      ⟨[sample .identifier], sample .rightParen, rfl, rfl,
        .lastArgument (derives_expression_of_term derives_sample)⟩, rfl⟩⟩
  · exact ⟨[], _, .inl ⟨token, rfl, isClosing, rfl⟩⟩

theorem repairable_variablesAfter (first : Node) :
    Repairable (listAfter .toWord (Derives .variableList) first) [] .toOrComma := by
  refine ⟨⟨sample .comma, .inr rfl⟩, fun token admitted => ?_⟩
  rcases admitted with isTo | isComma
  · exact ⟨[], _, .inl ⟨token, rfl, isTo, rfl⟩⟩
  · exact ⟨[sample .identifier, sample .toWord], _, .inr ⟨token, _, _, rfl, isComma,
      ⟨[sample .identifier], sample .toWord, rfl, rfl, .lastVariable rfl⟩, rfl⟩⟩

theorem repairable_variableList :
    Repairable (endedBy .toWord (Derives .variableList)) [] .variable := by
  refine ⟨⟨sample .identifier, rfl⟩, fun token isIdentifier => ?_⟩
  exact ⟨[sample .toWord], _, [token], sample .toWord, rfl, rfl, .lastVariable isIdentifier⟩

theorem repairable_operationsAfter (left : Node) :
    Repairable (operationsAfter left) [] .binaryOperator := by
  refine ⟨⟨⟨.operator, "*", .unknown⟩, rfl, by decide⟩, fun sign admitted => ?_⟩
  have derives :=
    Derives.moreOperations admitted.1 admitted.2 derives_sample .noOperations
  exact ⟨[sample .identifier], _, _, derives, rfl⟩

theorem repairable_unary : Repairable (Derives .term) [] .unaryOperator := by
  refine ⟨⟨⟨.operator, "-", .unknown⟩, rfl, by decide⟩, fun sign admitted => ?_⟩
  exact ⟨[sample .identifier], _, .unary admitted.1 admitted.2 derives_sample⟩

/-! ## Variables -/

/-- What follows a variable is another one, or ends the list. -/
theorem recognises_variablesAfter {bound limit : Nat} {looked : Bool} (first : Node)
    (ih : ∀ {limit : Nat} (lead : Token), limit + 1 ≤ bound →
      Recognises limit false [lead] (moreVariables bound (some lead))
        (endedBy .toWord (Derives .variableList)))
    (enough : limit ≤ bound) :
    Recognises limit looked []
      (read.bind fun next => if kindOf next = some .toWord then pure [first]
        else if kindOf next = some .comma then
          read.bind fun lead => (moreVariables bound lead).bind fun rest => pure (first :: rest)
        else unexpected next .toOrComma) (listAfter .toWord (Derives .variableList) first) := by
  refine recognises_read (fun token left within => ?_)
    (outcome_unexpected_none (repairable_variablesAfter first))
  by_cases isTo : token.kind = .toWord
  · rw [if_pos (kindOf_some_eq isTo)]
    exact recognises_pure (.inl ⟨token, rfl, isTo, rfl⟩)
  · by_cases isComma : token.kind = .comma
    · rw [if_neg (kindOf_some_ne isTo), if_pos (kindOf_some_eq isComma)]
      have rest : Recognises left false []
          (read.bind fun lead => (moreVariables bound lead).bind fun rest => pure (first :: rest))
          (seq (endedBy .toWord (Derives .variableList)) fun rest => nothing (first :: rest)) := by
        refine recognises_read (fun lead left' within' => ?_) ?_
        · exact (ih lead (by omega)).bind fun _ _ => recognises_pure ⟨rfl, rfl⟩
        · simp only [moreVariables_none (show 1 ≤ bound by omega), unexpected_bind]
          exact outcome_unexpected_none
            (repairable_variableList.seq_left fun _ => ⟨[], _, rfl, rfl⟩)
      refine (rest.after [token]).mono fun tokens trees isPhrase => ?_
      obtain ⟨_, rfl, second, _, rest, rfl, isList, rfl, rfl⟩ := isPhrase
      exact .inr ⟨token, second, rest, by simp, isComma, isList, rfl⟩
    · rw [if_neg (kindOf_some_ne isTo), if_neg (kindOf_some_ne isComma)]
      exact recognises_unexpected (repairable_variablesAfter first)

/-- The routine for one variable or more recognises them, with the word `to`. -/
theorem recognises_moreVariables {bound limit : Nat} (lead : Token) (enough : limit + 1 ≤ bound) :
    Recognises limit false [lead] (moreVariables bound (some lead))
      (endedBy .toWord (Derives .variableList)) := by
  induction bound generalizing limit lead with
  | zero => omega
  | succ bound ih =>
    simp only [moreVariables, bind_eq_bind]
    by_cases isIdentifier : lead.kind = .identifier
    · rw [if_pos (kindOf_some_eq isIdentifier)]
      simp only [leaf, Node.leaf, isIdentifier, answer_ok_bind]
      refine ((recognises_variablesAfter (.var lead.text lead.loc) ih (by omega)).after [lead]).mono
        fun tokens trees isPhrase => ?_
      obtain ⟨_, rfl, goesOn⟩ := isPhrase
      rcases goesOn with ⟨toWord, rfl, isTo, rfl⟩ | ⟨comma, _, rest, rfl, isComma, isList, rfl⟩
      · exact ⟨[lead], toWord, rfl, isTo, .lastVariable isIdentifier⟩
      · obtain ⟨second, toWord, rfl, isTo, derivesRest⟩ := isList
        exact ⟨lead :: comma :: second, toWord, rfl, isTo,
          .moreVariables isIdentifier isComma derivesRest⟩
    · rw [if_neg (kindOf_some_ne isIdentifier)]
      exact recognises_unexpected repairable_variableList

/-- The routine for variables recognises them, with the word `to`. -/
theorem recognises_mapVariables {bound limit : Nat} {looked : Bool} (enough : limit + 1 ≤ bound) :
    Recognises limit looked [] (mapVariables bound) (endedBy .toWord (Derives .variables)) := by
  have someVariables : ∀ tokens trees, endedBy .toWord (Derives .variableList) tokens trees →
      endedBy .toWord (Derives .variables) tokens trees := by
    rintro _ trees ⟨first, toWord, rfl, isTo, derivesList⟩
    exact ⟨first, toWord, rfl, isTo, .someVariables derivesList⟩
  simp only [mapVariables, bind_eq_bind]
  refine recognises_read (fun token left within => ?_) ?_
  · by_cases isTo : token.kind = .toWord
    · rw [if_pos (kindOf_some_eq isTo)]
      exact recognises_pure ⟨[], token, rfl, isTo, .noVariables⟩
    · rw [if_neg (kindOf_some_ne isTo)]
      exact (recognises_moreVariables token (by omega)).mono someVariables
  · simp only [kindOf_none, reduceCtorEq, if_false,
      moreVariables_none (show 1 ≤ bound by omega)]
    exact outcome_unexpected_none (repairable_variableList.mono someVariables)

/-! ## One routine at a time -/

/-- Every routine recognises its phrases on as many tokens as the bound covers. -/
structure RecognisesAll (bound : Nat) : Prop where
  expression {limit : Nat} {looked : Bool} (enough : 4 * limit + 5 ≤ bound) :
    Recognises limit looked [] (expression bound) (Derives .expression)
  operations {limit : Nat} {looked : Bool} (left : Node) (enough : 4 * limit + 1 ≤ bound) :
    Recognises limit looked [] (operations bound left) (operationsAfter left)
  term {limit : Nat} (lead : Token) (enough : 4 * limit + 8 ≤ bound) :
    Recognises limit false [lead] (term bound (some lead)) (Derives .term)
  application {limit : Nat} (lead : Token) (enough : 4 * limit + 7 ≤ bound) :
    Recognises limit false [lead] (application bound (some lead)) (Derives .term)
  factor {limit : Nat} {lead : Token} (starts : StartsFactor lead)
    (enough : 4 * limit + 6 ≤ bound) :
    Recognises limit false [lead] (factor bound (some lead)) (Derives .factor)
  conditional {limit : Nat} {lead : Token} (isIf : lead.kind = .ifWord)
    (enough : 4 * limit + 6 ≤ bound) :
    Recognises limit false [lead] (conditional bound (some lead)) (Derives .expression)
  letIn {limit : Nat} {lead : Token} (isLet : lead.kind = .letWord)
    (enough : 4 * limit + 6 ≤ bound) :
    Recognises limit false [lead] (letIn bound (some lead)) (Derives .expression)
  mapTo {limit : Nat} {lead : Token} (isMap : lead.kind = .mapWord)
    (enough : 4 * limit + 6 ≤ bound) :
    Recognises limit false [lead] (mapTo bound (some lead)) (Derives .expression)
  arguments {limit : Nat} {looked : Bool} (enough : 4 * limit + 7 ≤ bound) :
    Recognises limit looked [] (arguments bound) (endedBy .rightParen (Derives .arguments))
  argumentList {limit : Nat} {looked : Bool} (enough : 4 * limit + 6 ≤ bound) :
    Recognises limit looked [] (moreExpressions bound .comma .rightParen)
      (endedBy .rightParen (Derives .argumentList))
  definitions {limit : Nat} (lead : Token) (enough : 4 * limit + 7 ≤ bound) :
    Recognises limit false [lead] (moreDefinitions bound (some lead))
      (endedBy .inWord (Derives .definitions))
  definition {limit : Nat} (lead : Token) (enough : 4 * limit + 6 ≤ bound) :
    Recognises limit false [lead] (definition bound (some lead)) (Derives .definition)

section Steps

variable {bound limit : Nat} {looked : Bool} {lead : Token}

theorem recognises_expression (ih : RecognisesAll bound) (enough : 4 * limit + 5 ≤ bound + 1) :
    Recognises limit looked [] (expression (bound + 1)) (Derives .expression) := by
  simp only [expression, bind_eq_bind]
  refine recognises_read (fun token left within => ?_) ?_
  · split
    next isIf => exact ih.conditional (Option.some.inj isIf) (by omega)
    next isLet => exact ih.letIn (Option.some.inj isLet) (by omega)
    next isMap => exact ih.mapTo (Option.some.inj isMap) (by omega)
    next =>
      have parts : Recognises left false [token]
          ((term bound (some token)).bind fun first => operations bound first)
          (seq (Derives .term) operationsAfter) :=
        (ih.term token (by omega)).bind fun first _ => ih.operations first (by omega)
      refine parts.mono fun tokens tree isPhrase => ?_
      obtain ⟨first, second, left, rfl, derivesFirst, _, derivesRest, rfl⟩ := isPhrase
      exact .operation derivesFirst derivesRest
  · have atEnd : term bound none = unexpected none .operand := term_none (by omega)
    simp only [kindOf_none, atEnd, unexpected_bind]
    exact outcome_unexpected_none
      (repairable_term.mono fun _ _ => derives_expression_of_term)

/-- A term whose lead is yet to be read. -/
theorem recognises_nextTerm {next : Node → Dialogue Node} {following : Node → Phrases Node}
    (ih : RecognisesAll bound) (enough : 4 * limit + 4 ≤ bound)
    (rest : ∀ tree looked, Recognises (limit - 1) looked [] (next tree) (following tree)) :
    Recognises limit looked [] (read.bind fun lead => (term bound lead).bind next)
      (seq (Derives .term) following) := by
  refine recognises_read (fun token left within => ?_) ?_
  · obtain rfl : limit - 1 = left := by omega
    exact (ih.term token (by omega)).bind rest
  · have atEnd : term bound none = unexpected none .operand := term_none (by omega)
    simp only [atEnd, unexpected_bind]
    exact outcome_unexpected_none (repairable_term.seq_left fun tree => (rest tree true).inhabited)

theorem recognises_operations (ih : RecognisesAll bound) (left : Node)
    (enough : 4 * limit + 1 ≤ bound + 1) :
    Recognises limit looked [] (operations (bound + 1) left) (operationsAfter left) := by
  simp only [operations, bind_eq_bind]
  refine recognises_whenNext (fun sign limit' within isOperator => ?_)
    (recognises_pure ⟨[], .noOperations, rfl⟩)
  by_cases isBinary : sign.text ∈ Vocabulary.binaryOperators
  · have isBinaryOperator : sign.isBinaryOperator = true := by
      simp [Token.isBinaryOperator, isOperator, isBinary]
    simp only [binaryOperator, Token.binaryOperator, isBinaryOperator, if_true, answer_ok_bind]
    have rest : Recognises limit' false []
        (read.bind fun lead => (term bound lead).bind fun right =>
          operations bound (.binary sign.text left right sign.loc))
        (seq (Derives .term) fun right => operationsAfter (.binary sign.text left right sign.loc)) :=
      recognises_nextTerm ih (by omega) fun right _ => ih.operations _ (by omega)
    refine (rest.after [sign]).mono fun tokens tree isPhrase => ?_
    obtain ⟨_, rfl, first, second, right, rfl, derivesRight, more, derivesMore, rfl⟩ := isPhrase
    have derives := Derives.moreOperations isOperator isBinary derivesRight derivesMore
    exact ⟨_, derives, rfl⟩
  · have notBinary : sign.isBinaryOperator = false := by
      simp [Token.isBinaryOperator, isBinary]
    simp only [binaryOperator, Token.binaryOperator, notBinary, Bool.false_eq_true, if_false,
      answer_error_bind]
    exact recognises_unexpected (repairable_operationsAfter left)

/-- A constant is a term, unless it is an integer that cannot be read. -/
theorem recognises_integer (isInteger : lead.kind = .integer) :
    Recognises limit false [lead] (leaf (some lead)) (Derives .term) := by
  have derives := Derives.integer isInteger
  intro rest _
  simp only [leaf, Node.leaf, isInteger, Node.constantLeaf, Token.literal, on_answer]
  cases read : Text.readInteger lead.text with
  | ok value =>
    simp only [integerOf, read] at derives
    exact .accepted rfl derives
  | error fault => exact .unreadable (List.nil_append _).symm isInteger read ⟨[], _, derives⟩

theorem recognises_term (ih : RecognisesAll bound) (lead : Token)
    (enough : 4 * limit + 8 ≤ bound + 1) :
    Recognises limit false [lead] (term (bound + 1) (some lead)) (Derives .term) := by
  simp only [term, bind_eq_bind]
  split
  next isOperator =>
    have isOperator : lead.kind = .operator := Option.some.inj isOperator
    by_cases isUnary : lead.text ∈ Vocabulary.unaryOperators
    · have isUnaryOperator : lead.isUnaryOperator = true := by
        simp [Token.isUnaryOperator, isOperator, isUnary]
      simp only [unaryOperator, Token.unaryOperator, isUnaryOperator, if_true, answer_ok_bind]
      have rest : Recognises limit false []
          (read.bind fun next => (term bound next).bind fun operand =>
            pure (Node.unary lead.text operand lead.loc))
          (seq (Derives .term) fun operand => nothing (Node.unary lead.text operand lead.loc)) :=
        recognises_nextTerm ih (by omega) fun _ _ => recognises_pure ⟨rfl, rfl⟩
      refine (rest.after [lead]).mono fun tokens tree isPhrase => ?_
      obtain ⟨_, rfl, first, _, operand, rfl, derivesOperand, rfl, rfl⟩ := isPhrase
      simpa using Derives.unary isOperator isUnary derivesOperand
    · have notUnary : lead.isUnaryOperator = false := by
        simp [Token.isUnaryOperator, isUnary]
      simp only [unaryOperator, Token.unaryOperator, notUnary, Bool.false_eq_true, if_false,
        answer_error_bind]
      exact recognises_unexpected repairable_unary
  next isInteger => exact recognises_integer (Option.some.inj isInteger)
  next isBoolean =>
    have isBoolean : lead.kind = .boolean := Option.some.inj isBoolean
    simp only [leaf, Node.leaf, isBoolean, Node.constantLeaf, Token.literal]
    exact recognises_pure (.boolean isBoolean)
  next isNull =>
    have isNull : lead.kind = .null := Option.some.inj isNull
    simp only [leaf, Node.leaf, isNull, Node.constantLeaf, Token.literal]
    exact recognises_pure (.null isNull)
  next => exact ih.application lead (by omega)

/-- What follows a factor is taken as a call, or left. -/
theorem recognises_callOf (ih : RecognisesAll bound) (callee : Node)
    (enough : 4 * limit + 3 ≤ bound) :
    Recognises limit looked []
      (peekKind.bind fun shown => if shown = some .leftParen then
        read.bind fun _ => (arguments bound).bind fun trees => pure (callee.call trees)
        else pure callee) (callOf callee) := by
  refine recognises_whenNext (fun opening left within isOpening => ?_)
    (recognises_pure (.inl ⟨rfl, rfl⟩))
  have called : Recognises left false []
      ((arguments bound).bind fun trees => pure (callee.call trees))
      (seq (endedBy .rightParen (Derives .arguments)) fun trees => nothing (callee.call trees)) :=
    (ih.arguments (by omega)).bind fun _ _ => recognises_pure ⟨rfl, rfl⟩
  refine (called.after [opening]).mono fun tokens tree isPhrase => ?_
  obtain ⟨_, rfl, first, _, trees, rfl, isArguments, rfl, rfl⟩ := isPhrase
  exact .inr ⟨opening, trees, first, by simp, isOpening, isArguments, rfl⟩

theorem recognises_application (ih : RecognisesAll bound) (lead : Token)
    (enough : 4 * limit + 7 ≤ bound + 1) :
    Recognises limit false [lead] (application (bound + 1) (some lead)) (Derives .term) := by
  simp only [application, bind_eq_bind]
  by_cases starts : StartsFactor lead
  · refine ((ih.factor starts (by omega)).bind fun callee _ =>
      recognises_callOf ih callee (by omega)).mono fun tokens tree isPhrase => ?_
    obtain ⟨first, _, callee, rfl, derivesCallee, isCall⟩ := isPhrase
    rcases isCall with ⟨rfl, rfl⟩ | ⟨opening, trees, _, rfl, isOpening, isArguments, rfl⟩
    · simpa using Derives.uncalled derivesCallee
    · obtain ⟨second, closing, rfl, isClosing, derivesArguments⟩ := isArguments
      exact .call derivesCallee isOpening derivesArguments isClosing
  · obtain ⟨bound, rfl⟩ : ∃ smaller, bound = smaller + 1 := ⟨bound - 1, by omega⟩
    rw [factor_of_not_starts starts, unexpected_bind]
    -- The lead is given on to the routine for factors, which refuses it.
    exact recognises_unexpected repairable_term

theorem recognises_factor (ih : RecognisesAll bound) (starts : StartsFactor lead)
    (enough : 4 * limit + 6 ≤ bound + 1) :
    Recognises limit false [lead] (factor (bound + 1) (some lead)) (Derives .factor) := by
  rcases starts with isOpening | isPrimitive | isIdentifier
  · simp only [factor, bind_eq_bind, kindOf_some, isOpening]
    have inner : Recognises limit false []
        ((expression bound).bind fun tree => (expect .rightParen .closingParen).bind fun _ =>
          pure tree)
        (seq (Derives .expression) fun tree => seq (one .rightParen) fun _ => nothing tree) :=
      (ih.expression (by omega)).bind fun _ _ =>
        (recognises_expect fun _ => .rfl).bind fun _ _ => recognises_pure ⟨rfl, rfl⟩
    refine (inner.after [lead]).mono fun tokens tree isPhrase => ?_
    obtain ⟨_, rfl, first, _, inner, rfl, derivesInner, _, _, closing, rfl, ⟨rfl, isClosing⟩,
      rfl, rfl⟩ := isPhrase
    exact .group isOpening derivesInner isClosing
  · simp only [factor, kindOf_some, isPrimitive, leaf, Node.leaf]
    exact recognises_pure (.primitive isPrimitive)
  · simp only [factor, kindOf_some, isIdentifier, leaf, Node.leaf]
    exact recognises_pure (.identifier isIdentifier)

theorem recognises_conditional (ih : RecognisesAll bound) (isIf : lead.kind = .ifWord)
    (enough : 4 * limit + 6 ≤ bound + 1) :
    Recognises limit false [lead] (conditional (bound + 1) (some lead)) (Derives .expression) := by
  simp only [conditional, bind_eq_bind]
  have expression {looked : Bool} :
      Recognises limit looked [] (expression bound) (Derives .expression) :=
    ih.expression (by omega)
  have parts : Recognises limit false []
      ((Dialogue.expression bound).bind fun condition =>
        (expect .thenWord .thenWord).bind fun _ =>
        (Dialogue.expression bound).bind fun consequence =>
        (expect .elseWord .elseWord).bind fun _ =>
        (Dialogue.expression bound).bind fun otherwise =>
        pure (Node.conditional condition consequence otherwise lead.loc))
      (seq (Derives .expression) fun condition => seq (one .thenWord) fun _ =>
        seq (Derives .expression) fun consequence => seq (one .elseWord) fun _ =>
        seq (Derives .expression) fun otherwise =>
        nothing (Node.conditional condition consequence otherwise lead.loc)) :=
    expression.bind fun _ _ => (recognises_expect fun _ => .rfl).bind fun _ _ =>
      expression.bind fun _ _ => (recognises_expect fun _ => .rfl).bind fun _ _ =>
      expression.bind fun _ _ => recognises_pure ⟨rfl, rfl⟩
  refine (parts.after [lead]).mono fun tokens tree isPhrase => ?_
  obtain ⟨_, rfl, first, _, condition, rfl, derivesCondition, _, _, thenWord, rfl, ⟨rfl, isThen⟩,
    second, _, consequence, rfl, derivesConsequence, _, _, elseWord, rfl, ⟨rfl, isElse⟩,
    third, _, otherwise, rfl, derivesOtherwise, rfl, rfl⟩ := isPhrase
  simpa using Derives.conditional isIf derivesCondition isThen derivesConsequence isElse
    derivesOtherwise

theorem recognises_letIn (ih : RecognisesAll bound) (isLet : lead.kind = .letWord)
    (enough : 4 * limit + 6 ≤ bound + 1) :
    Recognises limit false [lead] (letIn (bound + 1) (some lead)) (Derives .expression) := by
  simp only [letIn, bind_eq_bind]
  have parts : Recognises limit false []
      (read.bind fun first => (moreDefinitions bound first).bind fun defined =>
        (expression bound).bind fun body => pure (Node.letIn defined body lead.loc))
      (seq (endedBy .inWord (Derives .definitions)) fun defined =>
        seq (Derives .expression) fun body => nothing (Node.letIn defined body lead.loc)) := by
    -- The body has fewer tokens left than the definitions before it, but the bound covers them all.
    have body (limit' : Nat) (smaller : limit' ≤ limit) (defined : List Node) (looked : Bool) :
        Recognises limit' looked []
          ((expression bound).bind fun body => pure (Node.letIn defined body lead.loc))
          (seq (Derives .expression) fun body => nothing (Node.letIn defined body lead.loc)) :=
      (ih.expression (by omega)).bind fun _ _ => recognises_pure ⟨rfl, rfl⟩
    refine recognises_read (fun token left within => ?_) ?_
    · exact (ih.definitions token (by omega)).bind (body left (by omega))
    · have atEnd : moreDefinitions bound none = unexpected none .variable :=
        moreDefinitions_none (by omega)
      simp only [atEnd, unexpected_bind]
      exact outcome_unexpected_none
        (repairable_definitions.seq_left fun defined => (body 0 (by omega) defined true).inhabited)
  refine (parts.after [lead]).mono fun tokens tree isPhrase => ?_
  obtain ⟨_, rfl, _, _, defined, rfl, ⟨first, inWord, rfl, isIn, derivesDefinitions⟩,
    second, _, body, rfl, derivesBody, rfl, rfl⟩ := isPhrase
  simpa using Derives.letIn isLet derivesDefinitions isIn derivesBody

theorem recognises_mapTo (ih : RecognisesAll bound) (isMap : lead.kind = .mapWord)
    (enough : 4 * limit + 6 ≤ bound + 1) :
    Recognises limit false [lead] (mapTo (bound + 1) (some lead)) (Derives .expression) := by
  simp only [mapTo, bind_eq_bind]
  have parts : Recognises limit false []
      ((mapVariables bound).bind fun names => (expression bound).bind fun body =>
        pure (Node.mapTo names body lead.loc))
      (seq (endedBy .toWord (Derives .variables)) fun names =>
        seq (Derives .expression) fun body => nothing (Node.mapTo names body lead.loc)) :=
    (recognises_mapVariables (by omega)).bind fun _ _ =>
      (ih.expression (by omega)).bind fun _ _ => recognises_pure ⟨rfl, rfl⟩
  refine (parts.after [lead]).mono fun tokens tree isPhrase => ?_
  obtain ⟨_, rfl, _, _, names, rfl, ⟨first, toWord, rfl, isTo, derivesVariables⟩,
    second, _, body, rfl, derivesBody, rfl, rfl⟩ := isPhrase
  simpa using Derives.mapTo isMap derivesVariables isTo derivesBody

theorem recognises_arguments (ih : RecognisesAll bound) (enough : 4 * limit + 7 ≤ bound + 1) :
    Recognises limit looked [] (arguments (bound + 1))
      (endedBy .rightParen (Derives .arguments)) := by
  simp only [arguments, expressions, bind_eq_bind]
  refine recognises_whenNext (fun closing left within isClosing => ?_) ?_
  · exact recognises_pure ⟨[], closing, rfl, isClosing, .noArguments⟩
  · refine (ih.argumentList (by omega)).mono fun tokens trees isPhrase => ?_
    obtain ⟨first, closing, rfl, isClosing, derivesList⟩ := isPhrase
    exact ⟨first, closing, rfl, isClosing, .someArguments derivesList⟩

/-- What follows an argument is another one, or ends the list. -/
theorem recognises_argumentsAfter (ih : RecognisesAll bound) (first : Node)
    (enough : 4 * limit + 2 ≤ bound) :
    Recognises limit looked []
      (read.bind fun next => if kindOf next = some .comma then
        (moreExpressions bound .comma .rightParen).bind fun rest => pure (first :: rest)
        else if kindOf next = some .rightParen then pure [first]
        else unexpected next .commaOrParen) (listAfter .rightParen (Derives .argumentList) first) := by
  refine recognises_read (fun token left within => ?_)
    (outcome_unexpected_none (repairable_argumentsAfter first))
  by_cases isComma : token.kind = .comma
  · rw [if_pos (kindOf_some_eq isComma)]
    have rest : Recognises left false []
        ((moreExpressions bound .comma .rightParen).bind fun rest => pure (first :: rest))
        (seq (endedBy .rightParen (Derives .argumentList)) fun rest => nothing (first :: rest)) :=
      (ih.argumentList (by omega)).bind fun _ _ => recognises_pure ⟨rfl, rfl⟩
    refine (rest.after [token]).mono fun tokens trees isPhrase => ?_
    obtain ⟨_, rfl, second, _, rest, rfl, isList, rfl, rfl⟩ := isPhrase
    exact .inr ⟨token, second, rest, by simp, isComma, isList, rfl⟩
  · by_cases isClosing : token.kind = .rightParen
    · rw [if_neg (kindOf_some_ne isComma), if_pos (kindOf_some_eq isClosing)]
      exact recognises_pure (.inl ⟨token, rfl, isClosing, rfl⟩)
    · rw [if_neg (kindOf_some_ne isComma), if_neg (kindOf_some_ne isClosing)]
      exact recognises_unexpected (repairable_argumentsAfter first)

theorem recognises_argumentList (ih : RecognisesAll bound) (enough : 4 * limit + 6 ≤ bound + 1) :
    Recognises limit looked [] (moreExpressions (bound + 1) .comma .rightParen)
      (endedBy .rightParen (Derives .argumentList)) := by
  simp only [moreExpressions, bind_eq_bind]
  refine ((ih.expression (by omega)).bind fun first _ =>
    recognises_argumentsAfter ih first (by omega)).mono fun tokens trees isPhrase => ?_
  obtain ⟨_, _, first, rfl, derivesFirst, goesOn⟩ := isPhrase
  rcases goesOn with ⟨closing, rfl, isClosing, rfl⟩ | ⟨comma, _, rest, rfl, isComma, isList, rfl⟩
  · exact ⟨_, closing, rfl, isClosing, .lastArgument derivesFirst⟩
  · obtain ⟨second, closing, rfl, isClosing, derivesRest⟩ := isList
    exact ⟨_, closing, by simp, isClosing, .moreArguments derivesFirst isComma derivesRest⟩

theorem recognises_definition (ih : RecognisesAll bound) (lead : Token)
    (enough : 4 * limit + 6 ≤ bound + 1) :
    Recognises limit false [lead] (definition (bound + 1) (some lead)) (Derives .definition) := by
  obtain ⟨kind, name, loc⟩ := lead
  by_cases isIdentifier : kind = .identifier
  · subst isIdentifier
    simp only [definition, bind_eq_bind]
    have parts : Recognises limit false []
        ((expect .bind .bind).bind fun _ => (expression bound).bind fun right =>
          (expect .semicolon .semicolon).bind fun _ => pure (Node.definition name right loc))
        (seq (one .bind) fun _ => seq (Derives .expression) fun right =>
          seq (one .semicolon) fun _ => nothing (Node.definition name right loc)) :=
      (recognises_expect fun _ => .rfl).bind fun _ _ => (ih.expression (by omega)).bind fun _ _ =>
        (recognises_expect fun _ => .rfl).bind fun _ _ => recognises_pure ⟨rfl, rfl⟩
    refine (parts.after [⟨.identifier, name, loc⟩]).mono fun tokens tree isPhrase => ?_
    obtain ⟨_, rfl, _, _, bind, rfl, ⟨rfl, isBind⟩, second, _, right, rfl, derivesRight,
      _, _, semicolon, rfl, ⟨rfl, isSemicolon⟩, rfl, rfl⟩ := isPhrase
    have isIdentifier : (⟨.identifier, name, loc⟩ : Token).kind = .identifier := rfl
    simpa using Derives.definition isIdentifier isBind derivesRight isSemicolon
  · -- The routine matches on the token as a whole, so its kind has to be known.
    have refuses : definition (bound + 1) (some ⟨kind, name, loc⟩) =
        unexpected (some ⟨kind, name, loc⟩) .variable := by
      cases kind <;> first | rfl | exact absurd rfl isIdentifier
    rw [refuses]
    exact recognises_unexpected repairable_definition

/-- What follows a definition is another one, or ends the list. -/
theorem recognises_definitionsAfter (ih : RecognisesAll bound) (first : Node)
    (enough : 4 * limit + 3 ≤ bound) :
    Recognises limit looked []
      (read.bind fun next => if kindOf next = some .inWord then pure [first]
        else (moreDefinitions bound next).bind fun rest => pure (first :: rest))
      (definitionsAfter first) := by
  have goesOn : ∀ tokens trees, seq (endedBy .inWord (Derives .definitions))
      (fun rest => nothing (first :: rest)) tokens trees → definitionsAfter first tokens trees := by
    intro tokens trees isPhrase
    obtain ⟨_, _, rest, rfl, isList, rfl, rfl⟩ := isPhrase
    exact .inr ⟨rest, by simpa using isList, rfl⟩
  have atEnd : moreDefinitions bound none = unexpected none .variable :=
    moreDefinitions_none (by omega)
  refine recognises_read (fun token left within => ?_) ?_
  · by_cases isIn : token.kind = .inWord
    · rw [if_pos (kindOf_some_eq isIn)]
      exact recognises_pure (.inl ⟨token, rfl, isIn, rfl⟩)
    · rw [if_neg (kindOf_some_ne isIn)]
      -- Whatever is not the end of the list is left to the next definition, which may refuse it.
      have rest : Recognises left false [token]
          ((moreDefinitions bound (some token)).bind fun rest => pure (first :: rest))
          (seq (endedBy .inWord (Derives .definitions)) fun rest => nothing (first :: rest)) :=
        (ih.definitions token (by omega)).bind fun _ _ => recognises_pure ⟨rfl, rfl⟩
      exact rest.mono goesOn
  · simp only [kindOf_none, reduceCtorEq, if_false, atEnd, unexpected_bind]
    exact outcome_unexpected_none ((repairable_definitions.seq_left fun _ =>
      ⟨[], _, rfl, rfl⟩).mono goesOn)

theorem recognises_definitions (ih : RecognisesAll bound) (lead : Token)
    (enough : 4 * limit + 7 ≤ bound + 1) :
    Recognises limit false [lead] (moreDefinitions (bound + 1) (some lead))
      (endedBy .inWord (Derives .definitions)) := by
  simp only [moreDefinitions, bind_eq_bind]
  refine ((ih.definition lead (by omega)).bind fun first _ =>
    recognises_definitionsAfter ih first (by omega)).mono fun tokens trees isPhrase => ?_
  obtain ⟨_, _, first, rfl, derivesFirst, goesOn⟩ := isPhrase
  rcases goesOn with ⟨inWord, rfl, isIn, rfl⟩ | ⟨rest, isList, rfl⟩
  · exact ⟨_, inWord, rfl, isIn, .lastDefinition derivesFirst⟩
  · obtain ⟨second, inWord, rfl, isIn, derivesRest⟩ := isList
    exact ⟨_, inWord, by simp, isIn, .moreDefinitions derivesFirst derivesRest⟩

end Steps

/-- Every routine recognises its phrases. -/
theorem recognisesAll (bound : Nat) : RecognisesAll bound := by
  induction bound with
  -- Nothing is covered by no calls at all: every routine asks for some bound.
  | zero => constructor <;> intros <;> omega
  | succ bound ih =>
    exact {
      expression := recognises_expression ih
      operations := recognises_operations ih
      term := recognises_term ih
      application := recognises_application ih
      factor := recognises_factor ih
      conditional := recognises_conditional ih
      letIn := recognises_letIn ih
      mapTo := recognises_mapTo ih
      arguments := recognises_arguments ih
      argumentList := recognises_argumentList ih
      definitions := recognises_definitions ih
      definition := recognises_definition ih }

end JamLang.Dialogue
