import JamLang.Proofs.Descent.Recognition
import JamLang.Proofs.Grammar.Readable

/-!
# The routines of the grammar find its phrases

Where a phrase stands, followed by a token that does not go on with it, the routine for it takes
exactly that phrase and yields what it stands for.  The induction is on the derivation.  Since a
routine has only one answer, it follows that the tokens of a phrase determine what it stands for.

Only two kinds of tokens can go on with a phrase that is already complete: an operator goes on with
an expression, and an opening parenthesis turns a factor into a call.
-/

namespace JamLang.Dialogue

open Grammar

variable {α β : Type}

/-! ## Evaluating a routine that succeeds -/

/-- The routine yields a value and leaves the rest. -/
def Yields (routine : Dialogue α) (view : View) (value : α) (rest : List Token) : Prop :=
  ∃ looked, routine.on view = (.ok value, ⟨rest, looked⟩)

section Yields

variable {routine : Dialogue α} {view : View} {value : α} {result : β} {token : Token}
  {rest left : List Token} {looked : Bool}

theorem yields_pure : (pure value : Dialogue α).Yields ⟨rest, looked⟩ value rest :=
  ⟨looked, rfl⟩

theorem Yields.bind {next : α → Dialogue β} (first : routine.Yields view value rest)
    (second : ∀ looked, (next value).Yields ⟨rest, looked⟩ result left) :
    (routine.bind next).Yields view result left := by
  obtain ⟨looked, ends⟩ := first
  obtain ⟨looked', ends'⟩ := second looked
  exact ⟨looked', by rw [on_bind_ok ends, ends']⟩

theorem yields_read {next : Option Token → Dialogue β}
    (goesOn : (next (some token)).Yields ⟨rest, false⟩ result left) :
    (read.bind next).Yields ⟨token :: rest, looked⟩ result left :=
  goesOn

theorem yields_expect {kind : TokenKind} {expected : Expectation} {next : Token → Dialogue β}
    (isKind : token.kind = kind) (goesOn : (next token).Yields ⟨rest, false⟩ result left) :
    ((expect kind expected).bind next).Yields ⟨token :: rest, looked⟩ result left := by
  obtain ⟨looked', ends⟩ := goesOn
  exact ⟨looked', by rw [on_expect_cons isKind, ends]⟩

/-- The tokens do not start with one of the kinds. -/
def StartsNoneOf (kinds : List TokenKind) (tokens : List Token) : Prop :=
  ∀ token ∈ tokens.head?, token.kind ∉ kinds

/-- A look at the next token shows that there is none of the kind. -/
theorem yields_unlessNext {kind : TokenKind} {kinds : List TokenKind} {reading : Dialogue β}
    {otherwise : Dialogue β} (starts : StartsNoneOf kinds rest) (isListed : kind ∈ kinds)
    (goesOn : ∀ looked, otherwise.Yields ⟨rest, looked⟩ result left) :
    (peekKind.bind fun shown => if shown = some kind then reading else otherwise).Yields
      ⟨rest, looked⟩ result left := by
  cases rest with
  | nil => simpa [Yields] using goesOn true
  | cons token rest =>
    have differs : token.kind ≠ kind := fun same => starts token rfl (same ▸ isListed)
    simpa [Yields, differs] using goesOn true

/-- A look at the next token shows that it is of the kind. -/
theorem yields_whenNext {kind : TokenKind} {reading otherwise : Dialogue β}
    (isKind : token.kind = kind)
    (goesOn : reading.Yields ⟨token :: rest, true⟩ result left) :
    (peekKind.bind fun shown => if shown = some kind then reading else otherwise).Yields
      ⟨token :: rest, looked⟩ result left := by
  simpa [Yields, isKind] using goesOn

end Yields

/-! ## What each routine finds -/

/-- The token starts a term. -/
def StartsTerm (token : Token) : Prop :=
  token.kind = .operator ∨ token.kind ∈ TokenKind.constants ∨ StartsFactor token

/-- Some token comes first, and it does not close a list of arguments. -/
def StartsArgument (tokens : List Token) : Prop :=
  ∃ lead tail, tokens = lead :: tail ∧ lead.kind ≠ .rightParen

/-- The routine for expressions finds the expression where nothing goes on with it. -/
structure FindsExpression (tokens : List Token) (tree : Node) : Prop where
  starts : StartsArgument tokens
  yields ⦃bound : Nat⦄ ⦃rest : List Token⦄ ⦃looked : Bool⦄
    (stops : StartsNoneOf [.operator, .leftParen] rest) (enough : 4 * tokens.length + 5 ≤ bound) :
    (expression bound).Yields ⟨tokens ++ rest, looked⟩ tree rest

/-- The routine for operations finds them where nothing goes on with the last one. -/
structure FindsOperations (tokens : List Token) (operators : List (Token × Node)) : Prop where
  starts : ∀ lead ∈ tokens.head?, lead.kind = .operator
  yields ⦃bound : Nat⦄ ⦃rest : List Token⦄ ⦃looked : Bool⦄ (left : Node)
    (stops : StartsNoneOf [.operator, .leftParen] rest) (enough : 4 * tokens.length + 1 ≤ bound) :
    (operations bound left).Yields ⟨tokens ++ rest, looked⟩ (applyOperations left operators) rest

/-- The routine for terms finds the term where it is not called. -/
def FindsTerm (tokens : List Token) (tree : Node) : Prop :=
  ∃ lead tail, tokens = lead :: tail ∧ StartsTerm lead ∧
    ∀ ⦃bound rest⦄, StartsNoneOf [.leftParen] rest → 4 * tail.length + 8 ≤ bound →
      (term bound (some lead)).Yields ⟨tail ++ rest, false⟩ tree rest

/-- The routine for factors finds the factor wherever it stands. -/
def FindsFactor (tokens : List Token) (tree : Node) : Prop :=
  ∃ lead tail, tokens = lead :: tail ∧ StartsFactor lead ∧
    ∀ ⦃bound rest⦄, 4 * tail.length + 6 ≤ bound →
      (factor bound (some lead)).Yields ⟨tail ++ rest, false⟩ tree rest

/-- The routine for arguments finds them before a closing parenthesis. -/
def FindsArguments (tokens : List Token) (trees : List Node) : Prop :=
  ∀ ⦃bound closing rest looked⦄, closing.kind = .rightParen → 4 * tokens.length + 11 ≤ bound →
    (arguments bound).Yields ⟨tokens ++ closing :: rest, looked⟩ trees rest

/-- The routine for one argument or more finds them before a closing parenthesis. -/
structure FindsArgumentList (tokens : List Token) (trees : List Node) : Prop where
  starts : StartsArgument tokens
  yields ⦃bound : Nat⦄ ⦃closing : Token⦄ ⦃rest : List Token⦄ ⦃looked : Bool⦄
    (isClosing : closing.kind = .rightParen) (enough : 4 * tokens.length + 10 ≤ bound) :
    (moreExpressions bound .comma .rightParen).Yields ⟨tokens ++ closing :: rest, looked⟩ trees rest

/-- The routine for variables finds them before the word `to`. -/
def FindsVariables (tokens : List Token) (trees : List Node) : Prop :=
  ∀ ⦃bound toWord rest looked⦄, toWord.kind = .toWord → tokens.length ≤ bound →
    (mapVariables bound).Yields ⟨tokens ++ toWord :: rest, looked⟩ trees rest

/-- The routine for one variable or more finds them before the word `to`. -/
def FindsVariableList (tokens : List Token) (trees : List Node) : Prop :=
  ∃ lead tail, tokens = lead :: tail ∧ lead.kind = .identifier ∧
    ∀ ⦃bound toWord rest⦄, toWord.kind = .toWord → tokens.length ≤ bound →
      (moreVariables bound (some lead)).Yields ⟨tail ++ toWord :: rest, false⟩ trees rest

/-- The routine for definitions finds them before the word `in`. -/
def FindsDefinitions (tokens : List Token) (trees : List Node) : Prop :=
  ∃ lead tail, tokens = lead :: tail ∧ lead.kind = .identifier ∧
    ∀ ⦃bound inWord rest⦄, inWord.kind = .inWord → 4 * tokens.length + 7 ≤ bound →
      (moreDefinitions bound (some lead)).Yields ⟨tail ++ inWord :: rest, false⟩ trees rest

/-- The routine for a definition finds it wherever it stands. -/
def FindsDefinition (tokens : List Token) (tree : Node) : Prop :=
  ∃ lead tail, tokens = lead :: tail ∧ lead.kind = .identifier ∧
    ∀ ⦃bound rest⦄, 4 * tokens.length + 6 ≤ bound →
      (definition bound (some lead)).Yields ⟨tail ++ rest, false⟩ tree rest

/-- The routine for a nonterminal finds the phrase. -/
def Finds : (symbol : Nonterminal) → List Token → symbol.Meaning → Prop
  | .expression => FindsExpression
  | .operations => FindsOperations
  | .term => FindsTerm
  | .factor => FindsFactor
  | .arguments => FindsArguments
  | .argumentList => FindsArgumentList
  | .variables => FindsVariables
  | .variableList => FindsVariableList
  | .definitions => FindsDefinitions
  | .definition => FindsDefinition

/-! ## One rule at a time -/

section Rules

variable {first second third tokens : List Token} {tree left right body : Node} {trees : List Node}

theorem startsNoneOf_cons {kinds : List TokenKind} {token : Token} {rest : List Token}
    {kind : TokenKind} (isKind : token.kind = kind) (notListed : kind ∉ kinds) :
    StartsNoneOf kinds (token :: rest) := by
  rintro _ ⟨⟩
  rwa [isKind]

theorem finds_conditional {ifWord thenWord elseWord : Token} {condition consequence otherwise : Node}
    (isIf : ifWord.kind = .ifWord) (findsCondition : FindsExpression first condition)
    (isThen : thenWord.kind = .thenWord) (findsConsequence : FindsExpression second consequence)
    (isElse : elseWord.kind = .elseWord) (findsOtherwise : FindsExpression third otherwise) :
    FindsExpression (ifWord :: (first ++ thenWord :: (second ++ elseWord :: third)))
      (.conditional condition consequence otherwise ifWord.loc) := by
  refine ⟨⟨_, _, rfl, by simp [isIf]⟩, fun bound rest looked stops enough => ?_⟩
  simp only [List.length_cons, List.length_append] at enough
  obtain ⟨bound, rfl⟩ := Nat.exists_eq_add_of_le' (show 2 ≤ bound by omega)
  simp only [expression, conditional, bind_eq_bind, List.cons_append, List.append_assoc]
  refine yields_read ?_
  simp only [kindOf_some, isIf]
  refine (findsCondition.yields (startsNoneOf_cons isThen (by decide)) (by omega)).bind
    fun _ => yields_expect isThen ?_
  refine (findsConsequence.yields (startsNoneOf_cons isElse (by decide)) (by omega)).bind
    fun _ => yields_expect isElse ?_
  exact (findsOtherwise.yields stops (by omega)).bind fun _ => yields_pure

theorem finds_letIn {letWord inWord : Token} {defined : List Node}
    (isLet : letWord.kind = .letWord) (findsDefinitions : FindsDefinitions first defined)
    (isIn : inWord.kind = .inWord) (findsBody : FindsExpression second body) :
    FindsExpression (letWord :: (first ++ inWord :: second)) (.letIn defined body letWord.loc) := by
  obtain ⟨lead, tail, rfl, -, yields⟩ := findsDefinitions
  refine ⟨⟨_, _, rfl, by simp [isLet]⟩, fun bound rest looked stops enough => ?_⟩
  simp only [List.length_cons, List.length_append] at enough
  obtain ⟨bound, rfl⟩ := Nat.exists_eq_add_of_le' (show 2 ≤ bound by omega)
  simp only [expression, letIn, bind_eq_bind, List.cons_append, List.append_assoc]
  refine yields_read ?_
  simp only [kindOf_some, isLet]
  refine yields_read ((yields isIn ?_).bind fun _ => ?_)
  · simp only [List.length_cons]
    omega
  · exact (findsBody.yields stops (by omega)).bind fun _ => yields_pure

theorem finds_mapTo {mapWord toWord : Token} {names : List Node}
    (isMap : mapWord.kind = .mapWord) (findsVariables : FindsVariables first names)
    (isTo : toWord.kind = .toWord) (findsBody : FindsExpression second body) :
    FindsExpression (mapWord :: (first ++ toWord :: second)) (.mapTo names body mapWord.loc) := by
  refine ⟨⟨_, _, rfl, by simp [isMap]⟩, fun bound rest looked stops enough => ?_⟩
  simp only [List.length_cons, List.length_append] at enough
  obtain ⟨bound, rfl⟩ := Nat.exists_eq_add_of_le' (show 2 ≤ bound by omega)
  simp only [expression, mapTo, bind_eq_bind, List.cons_append, List.append_assoc]
  refine yields_read ?_
  simp only [kindOf_some, isMap]
  refine (findsVariables isTo (by omega)).bind fun _ => ?_
  exact (findsBody.yields stops (by omega)).bind fun _ => yields_pure

/-! ### Operations -/

theorem StartsNoneOf.append {kinds : List TokenKind} {tokens rest : List Token}
    (before : StartsNoneOf kinds tokens) (after : StartsNoneOf kinds rest) :
    StartsNoneOf kinds (tokens ++ rest) := by
  cases tokens with
  | nil => exact after
  | cons token tokens => exact before

theorem StartsNoneOf.mono {kinds fewer : List TokenKind} {tokens : List Token}
    (starts : StartsNoneOf kinds tokens) (included : fewer ⊆ kinds) : StartsNoneOf fewer tokens :=
  fun token isFirst isListed => starts token isFirst (included isListed)

theorem StartsTerm.kind_ne {token : Token} (starts : StartsTerm token) {kind : TokenKind}
    (startsNoTerm : kind ∉ [.operator, .integer, .boolean, .null, .leftParen, .primitive,
      .identifier]) : token.kind ≠ kind := by
  rintro rfl
  refine startsNoTerm ?_
  rcases starts with isOperator | isConstant | isOpening | isPrimitive | isIdentifier
  · simp [isOperator]
  · revert isConstant
    simp only [TokenKind.constants, List.mem_cons, List.not_mem_nil, or_false]
    rintro (isConstant | isConstant | isConstant) <;> simp [isConstant]
  · simp [isOpening]
  · simp [isPrimitive]
  · simp [isIdentifier]

/-- Where a term is followed by operations, it is not called. -/
theorem FindsOperations.stops {operators : List (Token × Node)} {rest : List Token}
    (finds : FindsOperations second operators) (stops : StartsNoneOf [.operator, .leftParen] rest) :
    StartsNoneOf [.leftParen] (second ++ rest) := by
  refine .append (fun lead isFirst => ?_) (stops.mono (by simp))
  simp [finds.starts lead isFirst]

theorem finds_operation {operators : List (Token × Node)} (findsFirst : FindsTerm first left)
    (findsOperations : FindsOperations second operators) :
    FindsExpression (first ++ second) (applyOperations left operators) := by
  obtain ⟨lead, tail, rfl, starts, yields⟩ := findsFirst
  refine ⟨⟨lead, tail ++ second, rfl, starts.kind_ne (by decide)⟩,
    fun bound rest looked stops enough => ?_⟩
  simp only [List.cons_append, List.length_cons, List.length_append] at enough
  obtain ⟨bound, rfl⟩ := Nat.exists_eq_add_of_le' (show 1 ≤ bound by omega)
  simp only [expression, bind_eq_bind, List.cons_append, List.append_assoc]
  refine yields_read ?_
  split
  -- A term does not start with one of the words that start other expressions.
  next isIf => exact absurd (Option.some.inj isIf) (starts.kind_ne (by decide))
  next isLet => exact absurd (Option.some.inj isLet) (starts.kind_ne (by decide))
  next isMap => exact absurd (Option.some.inj isMap) (starts.kind_ne (by decide))
  next =>
    exact (yields (findsOperations.stops stops) (by omega)).bind
      fun _ => findsOperations.yields left stops (by omega)

theorem finds_noOperations : FindsOperations [] [] := by
  refine ⟨by simp, fun bound rest looked left stops enough => ?_⟩
  obtain ⟨bound, rfl⟩ := Nat.exists_eq_add_of_le' (show 1 ≤ bound by omega)
  simp only [operations, bind_eq_bind, List.nil_append]
  exact yields_unlessNext stops (by simp) fun _ => yields_pure

theorem finds_moreOperations {sign : Token} {operators : List (Token × Node)}
    (isOperator : sign.kind = .operator) (isBinary : sign.text ∈ Vocabulary.binaryOperators)
    (findsRight : FindsTerm first right) (findsOperations : FindsOperations second operators) :
    FindsOperations (sign :: (first ++ second)) ((sign, right) :: operators) := by
  obtain ⟨lead, tail, rfl, starts, yields⟩ := findsRight
  refine ⟨by simp [isOperator], fun bound rest looked left stops enough => ?_⟩
  simp only [List.cons_append, List.length_cons, List.length_append] at enough
  obtain ⟨bound, rfl⟩ := Nat.exists_eq_add_of_le' (show 1 ≤ bound by omega)
  have isBinaryOperator : sign.isBinaryOperator = true := by
    simp [Token.isBinaryOperator, isOperator, isBinary]
  simp only [operations, bind_eq_bind, List.cons_append, List.append_assoc]
  refine yields_whenNext isOperator (yields_read ?_)
  simp only [binaryOperator, Token.binaryOperator, isBinaryOperator, if_true, answer_ok_bind]
  refine yields_read ((yields (findsOperations.stops stops) (by omega)).bind fun _ => ?_)
  exact findsOperations.yields _ stops (by omega)

/-! ### Terms and factors -/

theorem finds_unary {sign : Token} {operand : Node} (isOperator : sign.kind = .operator)
    (isUnary : sign.text ∈ Vocabulary.unaryOperators) (findsOperand : FindsTerm tokens operand) :
    FindsTerm (sign :: tokens) (.unary sign.text operand sign.loc) := by
  obtain ⟨lead, tail, rfl, -, yields⟩ := findsOperand
  refine ⟨sign, _, rfl, .inl isOperator, fun bound rest stops enough => ?_⟩
  simp only [List.length_cons] at enough
  obtain ⟨bound, rfl⟩ := Nat.exists_eq_add_of_le' (show 1 ≤ bound by omega)
  have isUnaryOperator : sign.isUnaryOperator = true := by
    simp [Token.isUnaryOperator, isOperator, isUnary]
  simp only [term, kindOf_some, isOperator, bind_eq_bind, unaryOperator, Token.unaryOperator,
    isUnaryOperator, if_true, answer_ok_bind, List.cons_append]
  exact yields_read ((yields stops (by omega)).bind fun _ => yields_pure)

/-- A constant is a term of one token. -/
theorem finds_constant {token : Token} (isConstant : token.kind ∈ TokenKind.constants)
    (isLeaf : Node.leaf token = .ok tree) : FindsTerm [token] tree := by
  refine ⟨token, [], rfl, .inr (.inl isConstant), fun bound rest stops enough => ?_⟩
  obtain ⟨bound, rfl⟩ := Nat.exists_eq_add_of_le' (show 1 ≤ bound by omega)
  have takesLeaf : term (bound + 1) (some token) = leaf (some token) := by
    revert isConstant
    simp only [TokenKind.constants, List.mem_cons, List.not_mem_nil, or_false]
    rintro (isKind | isKind | isKind) <;> simp only [term, kindOf_some, isKind]
  rw [takesLeaf]
  exact ⟨false, by simp [leaf, isLeaf]⟩

theorem finds_integer {token : Token} (isInteger : token.kind = .integer) {value : Int}
    (isRead : Text.readInteger token.text = .ok value) :
    FindsTerm [token] (.constant (.int (integerOf token)) "int" token.loc) := by
  refine finds_constant (by simp [isInteger, TokenKind.constants]) ?_
  simp [Node.leaf, Node.constantLeaf, Token.literal, isInteger, integerOf, isRead]

theorem finds_boolean {token : Token} (isBoolean : token.kind = .boolean) :
    FindsTerm [token] (.constant (.bool (token.text = "true")) "bool" token.loc) := by
  refine finds_constant (by simp [isBoolean, TokenKind.constants]) ?_
  simp [Node.leaf, Node.constantLeaf, Token.literal, isBoolean]

theorem finds_null {token : Token} (isNull : token.kind = .null) :
    FindsTerm [token] (.constant .null "null" token.loc) := by
  refine finds_constant (by simp [isNull, TokenKind.constants]) ?_
  simp [Node.leaf, Node.constantLeaf, Token.literal, isNull]

/-- A token that starts a factor is given on to the routine for factors. -/
theorem term_of_starts {lead : Token} (starts : StartsFactor lead) (bound : Nat) :
    term (bound + 1) (some lead) = application bound (some lead) := by
  rcases starts with isKind | isKind | isKind <;> simp only [term, kindOf_some, isKind]

theorem finds_uncalled (findsFactor : FindsFactor tokens tree) : FindsTerm tokens tree := by
  obtain ⟨lead, tail, rfl, starts, yields⟩ := findsFactor
  refine ⟨lead, tail, rfl, .inr (.inr starts), fun bound rest stops enough => ?_⟩
  obtain ⟨bound, rfl⟩ := Nat.exists_eq_add_of_le' (show 2 ≤ bound by omega)
  rw [term_of_starts starts]
  simp only [application, bind_eq_bind]
  exact (yields (by omega)).bind fun _ => yields_unlessNext stops (by simp) fun _ => yields_pure

theorem finds_call {opening closing : Token} {callee : Node}
    (findsCallee : FindsFactor first callee) (isOpening : opening.kind = .leftParen)
    (findsArguments : FindsArguments second trees) (isClosing : closing.kind = .rightParen) :
    FindsTerm (first ++ opening :: (second ++ [closing])) (.call callee trees) := by
  obtain ⟨lead, tail, rfl, starts, yields⟩ := findsCallee
  refine ⟨lead, _, rfl, .inr (.inr starts), fun bound rest stops enough => ?_⟩
  simp only [List.length_cons, List.length_append, List.length_nil, List.append_eq] at enough
  obtain ⟨bound, rfl⟩ := Nat.exists_eq_add_of_le' (show 2 ≤ bound by omega)
  rw [term_of_starts starts]
  simp only [application, bind_eq_bind, List.append_eq, List.append_assoc, List.cons_append,
    List.nil_append]
  refine (yields (by omega)).bind fun _ => yields_whenNext isOpening (yields_read ?_)
  exact (findsArguments isClosing (by omega)).bind fun _ => yields_pure

theorem finds_group {opening closing : Token} (isOpening : opening.kind = .leftParen)
    (findsInner : FindsExpression tokens tree) (isClosing : closing.kind = .rightParen) :
    FindsFactor (opening :: (tokens ++ [closing])) tree := by
  refine ⟨opening, _, rfl, .inl isOpening, fun bound rest enough => ?_⟩
  simp only [List.length_append, List.length_cons, List.length_nil] at enough
  obtain ⟨bound, rfl⟩ := Nat.exists_eq_add_of_le' (show 1 ≤ bound by omega)
  simp only [factor, kindOf_some, isOpening, bind_eq_bind, List.append_assoc, List.cons_append,
    List.nil_append]
  refine (findsInner.yields (startsNoneOf_cons isClosing (by decide)) (by omega)).bind fun _ => ?_
  exact yields_expect isClosing yields_pure

theorem finds_primitive {token : Token} (isPrimitive : token.kind = .primitive) :
    FindsFactor [token] (.primitive token.text token.loc) := by
  refine ⟨token, [], rfl, .inr (.inl isPrimitive), fun bound rest enough => ?_⟩
  obtain ⟨bound, rfl⟩ := Nat.exists_eq_add_of_le' (show 1 ≤ bound by omega)
  simp only [factor, kindOf_some, isPrimitive, leaf, Node.leaf]
  exact yields_pure

theorem finds_identifier {token : Token} (isIdentifier : token.kind = .identifier) :
    FindsFactor [token] (.var token.text token.loc) := by
  refine ⟨token, [], rfl, .inr (.inr isIdentifier), fun bound rest enough => ?_⟩
  obtain ⟨bound, rfl⟩ := Nat.exists_eq_add_of_le' (show 1 ≤ bound by omega)
  simp only [factor, kindOf_some, isIdentifier, leaf, Node.leaf]
  exact yields_pure

/-! ### Lists -/

theorem finds_noArguments : FindsArguments [] [] := by
  intro bound closing rest looked isClosing enough
  obtain ⟨bound, rfl⟩ := Nat.exists_eq_add_of_le' (show 1 ≤ bound by omega)
  simp only [arguments, expressions, bind_eq_bind, List.nil_append]
  exact yields_whenNext isClosing (yields_read yields_pure)

theorem finds_someArguments (findsList : FindsArgumentList tokens trees) :
    FindsArguments tokens trees := by
  intro bound closing rest looked isClosing enough
  obtain ⟨bound, rfl⟩ := Nat.exists_eq_add_of_le' (show 1 ≤ bound by omega)
  obtain ⟨lead, tail, rfl, startsArgument⟩ := findsList.starts
  -- The look ahead does not take the first argument for the end of the list.
  have starts : StartsNoneOf [.rightParen] (lead :: tail ++ closing :: rest) := by
    rintro _ ⟨⟩
    simpa using startsArgument
  simp only [arguments, expressions, bind_eq_bind]
  exact yields_unlessNext starts (by simp) fun _ => findsList.yields isClosing (by omega)

theorem finds_lastArgument (findsTree : FindsExpression tokens tree) :
    FindsArgumentList tokens [tree] := by
  refine ⟨findsTree.starts, fun bound closing rest looked isClosing enough => ?_⟩
  obtain ⟨bound, rfl⟩ := Nat.exists_eq_add_of_le' (show 1 ≤ bound by omega)
  simp only [moreExpressions, bind_eq_bind]
  refine (findsTree.yields (startsNoneOf_cons isClosing (by decide)) (by omega)).bind
    fun _ => yields_read ?_
  simp only [kindOf_some, isClosing, Option.some.injEq, reduceCtorEq, if_false, if_true]
  exact yields_pure

theorem finds_moreArguments {comma : Token} (findsFirst : FindsExpression first tree)
    (isComma : comma.kind = .comma) (findsRest : FindsArgumentList second trees) :
    FindsArgumentList (first ++ comma :: second) (tree :: trees) := by
  obtain ⟨lead, tail, rfl, startsArgument⟩ := findsFirst.starts
  refine ⟨⟨lead, _, rfl, startsArgument⟩, fun bound closing rest looked isClosing enough => ?_⟩
  simp only [List.cons_append, List.length_cons, List.length_append] at enough
  obtain ⟨bound, rfl⟩ := Nat.exists_eq_add_of_le' (show 1 ≤ bound by omega)
  have enoughFirst : 4 * (lead :: tail).length + 5 ≤ bound := by
    rw [List.length_cons]
    omega
  have split : lead :: tail ++ comma :: second ++ closing :: rest =
      lead :: tail ++ comma :: (second ++ closing :: rest) := List.append_assoc ..
  rw [split]
  simp only [moreExpressions, bind_eq_bind]
  refine (findsFirst.yields (startsNoneOf_cons isComma (by decide)) enoughFirst).bind
    fun _ => yields_read ?_
  simp only [kindOf_some, isComma, if_true]
  exact (findsRest.yields isClosing (by omega)).bind fun _ => yields_pure

theorem finds_noVariables : FindsVariables [] [] := by
  intro bound toWord rest looked isTo _
  simp only [mapVariables, bind_eq_bind, List.nil_append]
  refine yields_read ?_
  simp only [kindOf_some, isTo, if_true]
  exact yields_pure

theorem finds_someVariables (findsList : FindsVariableList tokens trees) :
    FindsVariables tokens trees := by
  obtain ⟨lead, tail, rfl, isIdentifier, yields⟩ := findsList
  intro bound toWord rest looked isTo enough
  simp only [mapVariables, bind_eq_bind, List.cons_append]
  refine yields_read ?_
  simp only [kindOf_some, isIdentifier, Option.some.injEq, reduceCtorEq, if_false]
  exact yields isTo enough

theorem finds_lastVariable {name : Token} (isIdentifier : name.kind = .identifier) :
    FindsVariableList [name] [.var name.text name.loc] := by
  refine ⟨name, [], rfl, isIdentifier, fun bound toWord rest isTo enough => ?_⟩
  obtain ⟨bound, rfl⟩ := Nat.exists_eq_add_of_le' (show 1 ≤ bound from enough)
  simp only [moreVariables, kindOf_some, isIdentifier, leaf, Node.leaf, if_true, bind_eq_bind,
    answer_ok_bind, List.nil_append]
  refine yields_read ?_
  simp only [kindOf_some, isTo, if_true]
  exact yields_pure

theorem finds_moreVariables {name comma : Token} (isIdentifier : name.kind = .identifier)
    (isComma : comma.kind = .comma) (findsRest : FindsVariableList tokens trees) :
    FindsVariableList (name :: comma :: tokens) (.var name.text name.loc :: trees) := by
  obtain ⟨lead, tail, rfl, -, yields⟩ := findsRest
  refine ⟨name, _, rfl, isIdentifier, fun bound toWord rest isTo enough => ?_⟩
  simp only [List.length_cons] at enough yields
  obtain ⟨bound, rfl⟩ := Nat.exists_eq_add_of_le' (show 1 ≤ bound by omega)
  simp only [moreVariables, kindOf_some, isIdentifier, leaf, Node.leaf, if_true, bind_eq_bind,
    answer_ok_bind, List.cons_append]
  refine yields_read ?_
  simp only [kindOf_some, isComma, Option.some.injEq, reduceCtorEq, if_false, if_true]
  exact yields_read ((yields isTo (by omega)).bind fun _ => yields_pure)

/-! ### Definitions -/

theorem finds_definition {name bind semicolon : Token} (isIdentifier : name.kind = .identifier)
    (isBind : bind.kind = .bind) (findsRight : FindsExpression tokens right)
    (isSemicolon : semicolon.kind = .semicolon) :
    FindsDefinition (name :: bind :: (tokens ++ [semicolon]))
      (.definition name.text right name.loc) := by
  refine ⟨name, _, rfl, isIdentifier, fun bound rest enough => ?_⟩
  simp only [List.length_cons, List.length_append, List.length_nil] at enough
  obtain ⟨bound, rfl⟩ := Nat.exists_eq_add_of_le' (show 1 ≤ bound by omega)
  obtain ⟨kind, text, loc⟩ := name
  subst isIdentifier
  simp only [definition, bind_eq_bind, List.cons_append, List.append_assoc, List.nil_append]
  refine yields_expect isBind ?_
  refine (findsRight.yields (startsNoneOf_cons isSemicolon (by decide)) (by omega)).bind
    fun _ => yields_expect isSemicolon yields_pure

theorem finds_lastDefinition (findsTree : FindsDefinition tokens tree) :
    FindsDefinitions tokens [tree] := by
  obtain ⟨lead, tail, rfl, isIdentifier, yields⟩ := findsTree
  refine ⟨lead, tail, rfl, isIdentifier, fun bound inWord rest isIn enough => ?_⟩
  obtain ⟨bound, rfl⟩ := Nat.exists_eq_add_of_le' (show 1 ≤ bound by omega)
  simp only [moreDefinitions, bind_eq_bind]
  refine (yields (by omega)).bind fun _ => yields_read ?_
  simp only [kindOf_some, isIn, if_true]
  exact yields_pure

theorem finds_moreDefinitions (findsFirst : FindsDefinition first tree)
    (findsRest : FindsDefinitions second trees) :
    FindsDefinitions (first ++ second) (tree :: trees) := by
  obtain ⟨lead, tail, rfl, isIdentifier, yields⟩ := findsFirst
  obtain ⟨next, others, rfl, isIdentifier', yields'⟩ := findsRest
  refine ⟨lead, _, rfl, isIdentifier, fun bound inWord rest isIn enough => ?_⟩
  simp only [List.length_append, List.length_cons] at enough yields yields'
  obtain ⟨bound, rfl⟩ := Nat.exists_eq_add_of_le' (show 1 ≤ bound by omega)
  simp only [moreDefinitions, bind_eq_bind, List.append_eq, List.append_assoc, List.cons_append]
  refine (yields (by omega)).bind fun _ => yields_read ?_
  -- The next definition starts with a name, so it is not taken for the end of the list.
  simp only [kindOf_some, isIdentifier', Option.some.injEq, reduceCtorEq, if_false]
  exact (yields' isIn (by omega)).bind fun _ => yields_pure

end Rules

/-! ## All phrases -/

/-- Every phrase is found by the routine for it, if its integers can be read. -/
theorem finds_of_derives {symbol : Nonterminal} {tokens : List Token} {meaning : symbol.Meaning}
    (derives : Derives symbol tokens meaning) (readable : Readable tokens) :
    Finds symbol tokens meaning := by
  -- Only an integer needs to be readable; everywhere else this is handed on to the parts.
  induction derives with
  | conditional isIf _ isThen _ isElse _ ihCondition ihConsequence ihOtherwise =>
    have afterIf := readable.of_cons
    have afterThen := afterIf.right.of_cons
    exact finds_conditional isIf (ihCondition afterIf.left) isThen (ihConsequence afterThen.left)
      isElse (ihOtherwise afterThen.right.of_cons)
  | letIn isLet _ isIn _ ihDefinitions ihBody =>
    exact finds_letIn isLet (ihDefinitions readable.of_cons.left) isIn
      (ihBody readable.of_cons.right.of_cons)
  | mapTo isMap _ isTo _ ihVariables ihBody =>
    exact finds_mapTo isMap (ihVariables readable.of_cons.left) isTo
      (ihBody readable.of_cons.right.of_cons)
  | operation _ _ ihFirst ihOperations =>
    exact finds_operation (ihFirst readable.left) (ihOperations readable.right)
  | noOperations => exact finds_noOperations
  | moreOperations isOperator isBinary _ _ ihRight ihOperations =>
    exact finds_moreOperations isOperator isBinary (ihRight readable.of_cons.left)
      (ihOperations readable.of_cons.right)
  | unary isOperator isUnary _ ihOperand =>
    exact finds_unary isOperator isUnary (ihOperand readable.of_cons)
  | integer isInteger =>
    obtain ⟨value, isRead⟩ := (readable_cons.1 readable).1 isInteger
    exact finds_integer isInteger isRead
  | boolean isBoolean => exact finds_boolean isBoolean
  | null isNull => exact finds_null isNull
  | uncalled _ ihFactor => exact finds_uncalled (ihFactor readable)
  | call _ isOpening _ isClosing ihCallee ihArguments =>
    exact finds_call (ihCallee readable.left) isOpening (ihArguments readable.right.of_cons.left)
      isClosing
  | group isOpening _ isClosing ihInner =>
    exact finds_group isOpening (ihInner readable.of_cons.left) isClosing
  | primitive isPrimitive => exact finds_primitive isPrimitive
  | identifier isIdentifier => exact finds_identifier isIdentifier
  | noArguments => exact finds_noArguments
  | someArguments _ ihList => exact finds_someArguments (ihList readable)
  | lastArgument _ ihTree => exact finds_lastArgument (ihTree readable)
  | moreArguments _ isComma _ ihFirst ihRest =>
    exact finds_moreArguments (ihFirst readable.left) isComma (ihRest readable.right.of_cons)
  | noVariables => exact finds_noVariables
  | someVariables _ ihList => exact finds_someVariables (ihList readable)
  | lastVariable isIdentifier => exact finds_lastVariable isIdentifier
  | moreVariables isIdentifier isComma _ ihRest =>
    exact finds_moreVariables isIdentifier isComma (ihRest readable.of_cons.of_cons)
  | lastDefinition _ ihTree => exact finds_lastDefinition (ihTree readable)
  | moreDefinitions _ _ ihFirst ihRest =>
    exact finds_moreDefinitions (ihFirst readable.left) (ihRest readable.right)
  | definition isIdentifier isBind _ isSemicolon ihRight =>
    exact finds_definition isIdentifier isBind (ihRight readable.of_cons.of_cons.left) isSemicolon

end JamLang.Dialogue
