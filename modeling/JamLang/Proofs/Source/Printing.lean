import JamLang.Node.Source
import JamLang.Proofs.Source.Reading

/-!
# Printed trees read as themselves

The text of a well-formed tree spells words that read as the tree, also where the tree is a part of
another one.  A tree that reaches as far to the right as it can is no operand and no callee without
parentheses, a tree that is not a mere name is no callee without them, and everything else is; so
there is a separate demand for each place where a tree may stand without parentheses
(`PrintsExpression`).
-/

namespace JamLang

open Grammar Node Lexer

/-! ## Printed trees -/

/-- The tree is printed as a text whose words read as the tree. -/
structure Prints (phrases : Phrases Node) (tree : Node) (text : String) (words : List Word) :
    Prop where
  source : tree.source = .ok text
  spells : Spells text.toList words
  reads : Reads phrases words (IsCopy tree)

/-- The tree is printed as a text whose words read as the tree wherever the tree may stand without
parentheses. -/
structure PrintsExpression (tree : Node) (text : String) (words : List Word) : Prop
    extends Prints (Derives .expression) tree text words where
  asTerm : tree.isOpenEnded = false → Reads (Derives .term) words (IsCopy tree)
  asFactor : tree.isName = true → Reads (Derives .factor) words (IsCopy tree)

/-- Some text of the tree reads as the tree. -/
def IsPrinted (tree : Node) : Prop :=
  ∃ text words, PrintsExpression tree text words

section Prints

variable {tree : Node} {text : String} {words : List Word}

theorem Prints.ofFactor (prints : Prints (Derives .factor) tree text words) :
    PrintsExpression tree text words :=
  ⟨⟨prints.source, prints.spells, prints.reads.uncalled.expression⟩,
    fun _ => prints.reads.uncalled, fun _ => prints.reads⟩

theorem Prints.ofTerm (prints : Prints (Derives .term) tree text words)
    (notName : tree.isName = false) : PrintsExpression tree text words :=
  ⟨⟨prints.source, prints.spells, prints.reads.expression⟩,
    fun _ => prints.reads, fun isName => absurd (notName.symm.trans isName) (by decide)⟩

theorem Prints.ofExpression (prints : Prints (Derives .expression) tree text words)
    (isOpenEnded : tree.isOpenEnded = true) (notName : tree.isName = false) :
    PrintsExpression tree text words :=
  ⟨prints, fun notOpenEnded => absurd (isOpenEnded.symm.trans notOpenEnded) (by decide),
    fun isName => absurd (notName.symm.trans isName) (by decide)⟩

theorem toList_inParens (text : String) :
    (inParens text).toList = '(' :: (text.toList ++ [')']) := by
  simp [inParens]

/-- Where the tree is an operand, its text reads as a term. -/
theorem PrintsExpression.operand (prints : PrintsExpression tree text words) :
    ∃ words', Spells (tree.asOperand text).toList words' ∧
      Reads (Derives .term) words' (IsCopy tree) := by
  cases isOpenEnded : tree.isOpenEnded with
  | false =>
    rw [asOperand, isOpenEnded]
    exact ⟨words, prints.spells, prints.asTerm isOpenEnded⟩
  | true =>
    rw [asOperand, isOpenEnded, if_pos rfl, toList_inParens]
    exact ⟨_, prints.spells.inParens, prints.reads.group.uncalled⟩

/-- Where the tree is called, its text reads as a factor. -/
theorem PrintsExpression.callee (prints : PrintsExpression tree text words) :
    ∃ words', Spells (tree.asCallee text).toList words' ∧
      Reads (Derives .factor) words' (IsCopy tree) := by
  cases isName : tree.isName with
  | false =>
    rw [asCallee, isName, if_neg Bool.false_ne_true, toList_inParens]
    exact ⟨_, prints.spells.inParens, prints.reads.group⟩
  | true =>
    rw [asCallee, isName]
    exact ⟨words, prints.spells, prints.asFactor isName⟩

end Prints

/-! ## Leaves -/

section Leaves

variable {name : String} {loc : Loc}

theorem isPrinted_integer {value : Nat} (fits : (Nat.toDigits 10 value).length ≤ Text.digitLimit) :
    IsPrinted (.constant (.int value) "int" loc) := by
  have written : printInteger value = .ok (Text.numeral value) := by
    rw [printInteger, Text.writeInteger, Int.natAbs_natCast, if_pos fits]
    rfl
  have isSource : (constant (.int value) "int" loc).source = .ok (Text.numeral value) := by
    simp [constant, source, shownValue, written]
  have spells : Spells (Text.numeral value).toList [(.integer, Text.numeral value)] := by
    rw [Text.numeral_natCast, String.toList_ofList]
    exact spells_number Nat.toDigits_ne_nil Text.isDigit_of_mem_toDigits
  exact ⟨_, _, Prints.ofTerm ⟨isSource, spells, reads_integer fits⟩ rfl⟩

theorem isPrinted_boolean {value : Bool} : IsPrinted (.constant (.bool value) "bool" loc) := by
  have isSource : (constant (.bool value) "bool" loc).source =
      .ok (if value then "true" else "false") := by
    cases value <;> simp [constant, source, isTruthy]
  have spells : Spells (if value then "true" else "false" : String).toList
      [(.boolean, if value then "true" else "false")] := by
    cases value with
    | false => exact spells_reserved (by decide)
    | true => exact spells_reserved (by decide)
  exact ⟨_, _, Prints.ofTerm ⟨isSource, spells, reads_boolean⟩ rfl⟩

theorem isPrinted_null : IsPrinted (.constant .null "null" loc) := by
  have isSource : (constant .null "null" loc).source = .ok "null" := by
    simp [constant, source]
  exact ⟨_, _, Prints.ofTerm ⟨isSource, spells_reserved (by decide), reads_null⟩ rfl⟩

theorem prints_variable (loc : Loc) (isName : IsVariableName name) :
    Prints loneVariable (.var name loc) name [(.identifier, name)] := by
  obtain ⟨isWord, isIdentifier⟩ := isName
  have spells := spells_word isWord
  rw [isIdentifier] at spells
  exact ⟨rfl, spells, reads_loneVariable⟩

theorem isPrinted_var (isName : IsVariableName name) : IsPrinted (.var name loc) := by
  have prints := prints_variable loc isName
  exact ⟨_, _, Prints.ofFactor ⟨prints.source, prints.spells, reads_identifier⟩⟩

theorem isPrinted_primitive (isPrimitive : name ∈ Vocabulary.primitives) :
    IsPrinted (.primitive name loc) :=
  ⟨_, _, Prints.ofFactor ⟨rfl, spells_primitive isPrimitive, reads_primitive⟩⟩

end Leaves

/-! ## Operations and calls -/

section Operations

variable {tree left right operand callee : Node} {trees : List Node} {operator : String} {loc : Loc}

theorem isPrinted_unary (isUnary : operator ∈ Vocabulary.unaryOperators)
    (printed : IsPrinted operand) : IsPrinted (.unary operator operand loc) := by
  obtain ⟨text, words, prints⟩ := printed
  obtain ⟨inner, spells, reads⟩ := prints.operand
  have isSource : (unary operator operand loc).source =
      .ok (operator ++ " " ++ operand.asOperand text) := by
    simp only [unary, source, shownValue, prints.source]
    rfl
  have isSymbol : ∀ operator ∈ Vocabulary.unaryOperators,
      (operator, .operator) ∈ Vocabulary.symbols := by decide
  have spellsAll : Spells (operator ++ " " ++ operand.asOperand text).toList
      ((.operator, operator) :: inner) := by
    simpa using (spells_symbol (isSymbol _ isUnary)).spaced spells
  exact ⟨_, _, Prints.ofTerm ⟨isSource, spellsAll, reads.unary isUnary⟩ rfl⟩

theorem isPrinted_binary (isBinary : operator ∈ Vocabulary.binaryOperators)
    (printedLeft : IsPrinted left) (printedRight : IsPrinted right) :
    IsPrinted (.binary operator left right loc) := by
  obtain ⟨leftText, _, printsLeft⟩ := printedLeft
  obtain ⟨rightText, _, printsRight⟩ := printedRight
  obtain ⟨leftWords, spellsLeft, readsLeft⟩ := printsLeft.operand
  obtain ⟨rightWords, spellsRight, readsRight⟩ := printsRight.operand
  have isSource : (binary operator left right loc).source =
      .ok (inParens (left.asOperand leftText ++ " " ++ operator ++ " " ++
        right.asOperand rightText)) := by
    simp only [binary, source, shownValue, printsLeft.source, printsRight.source]
    rfl
  have isSymbol : ∀ operator ∈ Vocabulary.binaryOperators,
      (operator, .operator) ∈ Vocabulary.symbols := by decide
  have spells := spellsLeft.spaced ((spells_symbol (isSymbol _ isBinary)).spaced spellsRight)
  have spellsAll : Spells (inParens (left.asOperand leftText ++ " " ++ operator ++ " " ++
      right.asOperand rightText)).toList ((.leftParen, "(") ::
        (leftWords ++ (.operator, operator) :: rightWords ++ [(.rightParen, ")")])) := by
    rw [toList_inParens]
    simpa using spells.inParens
  exact ⟨_, _, Prints.ofTerm
    ⟨isSource, spellsAll, (readsLeft.binary isBinary readsRight).group.uncalled⟩ rfl⟩

end Operations

/-! ## Lists -/

/-- One tree or more are printed with separators between them if each of them is printed. -/
theorem prints_list {item : Phrases Node} {list : Phrases (List Node)} {separator : String}
    {between : List Word} {trees : List Node}
    (spaced : ∀ {first second words more}, Spells first words → Spells second more →
      Spells (first ++ separator.toList ++ second) (words ++ (between ++ more)))
    (last : ∀ {words tree}, Reads item words (IsCopy tree) → Reads list words (AreCopies [tree]))
    (more : ∀ {first second tree trees}, Reads item first (IsCopy tree) →
      Reads list second (AreCopies trees) →
      Reads list (first ++ (between ++ second)) (AreCopies (tree :: trees)))
    (notEmpty : trees ≠ []) (printed : ∀ tree ∈ trees, ∃ text words, Prints item tree text words) :
    ∃ text texts words, sources trees = .ok (text :: texts) ∧
      Spells (joinWith separator (text :: texts)).toList words ∧
      Reads list words (AreCopies trees) := by
  induction trees with
  | nil => exact absurd rfl notEmpty
  | cons tree trees ih =>
    obtain ⟨⟨text, words, prints⟩, printedRest⟩ := List.forall_mem_cons.1 printed
    -- The last item has no separator behind it, so a list of one is a case of its own.
    cases trees with
    | nil =>
      refine ⟨text, [], words, ?_, ?_, last prints.reads⟩
      · simp only [sources, prints.source]
        rfl
      · rw [joinWith, String.intercalate_singleton]
        exact prints.spells
    | cons next rest =>
      obtain ⟨text', texts, words', isSources, spells, reads⟩ :=
        ih (List.cons_ne_nil _ _) printedRest
      refine ⟨text, text' :: texts, words ++ (between ++ words'), ?_, ?_, more prints.reads reads⟩
      · rw [sources, prints.source, isSources]
        rfl
      · rw [joinWith, String.intercalate_cons_cons, String.toList_append, String.toList_append]
        exact spaced prints.spells spells

/-- A comma separates texts, and is a word. -/
theorem spells_comma {first second : List Char} {words more : List Word}
    (spells : Spells first words) (spells' : Spells second more) :
    Spells (first ++ ", ".toList ++ second) (words ++ ([(.comma, ",")] ++ more)) := by
  rw [List.append_assoc]
  exact spells.append (startsApart_cons (by decide)) (spells'.space.mark (by decide))

theorem spells_blank {first second : List Char} {words more : List Word}
    (spells : Spells first words) (spells' : Spells second more) :
    Spells (first ++ " ".toList ++ second) (words ++ ([] ++ more)) := by
  rw [List.append_assoc]
  exact spells.spaced spells'

theorem prints_arguments {trees : List Node} (printed : ∀ tree ∈ trees, IsPrinted tree) :
    ∃ texts words, sources trees = .ok texts ∧ Spells (joinWith ", " texts).toList words ∧
      Reads (Derives .arguments) words (AreCopies trees) := by
  have printed' : ∀ tree ∈ trees, ∃ text words,
      Prints (Derives .expression) tree text words := by
    intro tree isTree
    obtain ⟨text, words, prints⟩ := printed tree isTree
    exact ⟨text, words, prints.toPrints⟩
  cases trees with
  | nil => exact ⟨[], [], rfl, spells_nil, reads_noArguments⟩
  | cons first rest =>
    obtain ⟨text, texts, words, isSources, spells, reads⟩ := prints_list spells_comma
      .lastArgument .moreArguments (List.cons_ne_nil first rest) printed'
    exact ⟨_, words, isSources, spells, reads.someArguments⟩

theorem isPrinted_call {callee : Node} {trees : List Node} {loc : Loc}
    (printedCallee : IsPrinted callee) (printed : ∀ tree ∈ trees, IsPrinted tree) :
    IsPrinted (.mk .call (.node callee) trees loc none) := by
  obtain ⟨calleeText, _, printsCallee⟩ := printedCallee
  obtain ⟨calleeWords, spellsCallee, readsCallee⟩ := printsCallee.callee
  obtain ⟨texts, words, isSources, spells, reads⟩ := prints_arguments printed
  have isSource : (Node.mk .call (.node callee) trees loc none).source =
      .ok (callee.asCallee calleeText ++ inParens (joinWith ", " texts)) := by
    simp only [source, isSources, calleeSource, printsCallee.source]
    rfl
  have spellsAll : Spells (callee.asCallee calleeText ++ inParens (joinWith ", " texts)).toList
      (calleeWords ++ (.leftParen, "(") :: (words ++ [(.rightParen, ")")])) := by
    rw [String.toList_append, toList_inParens]
    exact spellsCallee.append (startsApart_cons (by decide)) spells.inParens
  exact ⟨_, _, Prints.ofTerm ⟨isSource, spellsAll, readsCallee.call reads⟩ rfl⟩

/-! ## Expressions that reach as far as they can -/

section OpenEnded

variable {condition consequence otherwise body : Node} {trees : List Node} {loc : Loc}

theorem isPrinted_conditional (printedCondition : IsPrinted condition)
    (printedConsequence : IsPrinted consequence) (printedOtherwise : IsPrinted otherwise) :
    IsPrinted (.conditional condition consequence otherwise loc) := by
  obtain ⟨first, words, prints⟩ := printedCondition
  obtain ⟨second, words', prints'⟩ := printedConsequence
  obtain ⟨third, words'', prints''⟩ := printedOtherwise
  have isSource : (conditional condition consequence otherwise loc).source =
      .ok ("if " ++ first ++ " then " ++ second ++ " else " ++ third) := by
    simp only [conditional, source, prints.source, prints'.source, prints''.source]
    rfl
  have ifWord : Spells "if".toList [(.ifWord, "if")] := spells_reserved (by decide)
  have thenWord : Spells "then".toList [(.thenWord, "then")] := spells_reserved (by decide)
  have elseWord : Spells "else".toList [(.elseWord, "else")] := spells_reserved (by decide)
  have spells : Spells ("if " ++ first ++ " then " ++ second ++ " else " ++ third).toList
      ((.ifWord, "if") :: (words ++ (.thenWord, "then") ::
        (words' ++ (.elseWord, "else") :: words''))) := by
    simpa using ifWord.spaced (prints.spells.spaced (thenWord.spaced (prints'.spells.spaced
      (elseWord.spaced prints''.spells))))
  exact ⟨_, _, Prints.ofExpression
    ⟨isSource, spells, prints.reads.conditional prints'.reads prints''.reads⟩ rfl rfl⟩

theorem isPrinted_letIn (notEmpty : trees ≠ [])
    (printed : ∀ tree ∈ trees, ∃ text words, Prints (Derives .definition) tree text words)
    (printedBody : IsPrinted body) : IsPrinted (.letIn trees body loc) := by
  obtain ⟨bodyText, bodyWords, printsBody⟩ := printedBody
  obtain ⟨text, texts, words, isSources, spellsList, reads⟩ := prints_list spells_blank
    .lastDefinition .moreDefinitions notEmpty printed
  have isSource : (letIn trees body loc).source =
      .ok ("let " ++ joinWith " " (text :: texts) ++ " in " ++ bodyText) := by
    simp only [letIn, source, isSources, bodySource, printsBody.source]
    rfl
  have letWord : Spells "let".toList [(.letWord, "let")] := spells_reserved (by decide)
  have inWord : Spells "in".toList [(.inWord, "in")] := spells_reserved (by decide)
  have spells : Spells ("let " ++ joinWith " " (text :: texts) ++ " in " ++ bodyText).toList
      ((.letWord, "let") :: (words ++ (.inWord, "in") :: bodyWords)) := by
    simpa using letWord.spaced (spellsList.spaced (inWord.spaced printsBody.spells))
  exact ⟨_, _, Prints.ofExpression ⟨isSource, spells, reads.letIn printsBody.reads⟩ rfl rfl⟩

/-- Variables are printed between the words `map` and `to`, with no gap between these if there are
none. -/
theorem prints_variables (areVariables : ∀ tree ∈ trees, IsVariable tree) :
    ∃ texts words, sources trees = .ok texts ∧
      Spells ((if joinWith ", " texts = "" then "map to"
        else "map " ++ joinWith ", " texts ++ " to") : String).toList
        ((.mapWord, "map") :: (words ++ [(.toWord, "to")])) ∧
      Reads (Derives .variables) words (AreCopies trees) := by
  have mapWord : Spells "map".toList [(.mapWord, "map")] := spells_reserved (by decide)
  have toWord : Spells "to".toList [(.toWord, "to")] := spells_reserved (by decide)
  have printed : ∀ tree ∈ trees, ∃ text words, Prints loneVariable tree text words := by
    intro tree isTree
    obtain ⟨name, loc, rfl, isName⟩ := areVariables tree isTree
    exact ⟨_, _, prints_variable loc isName⟩
  cases trees with
  | nil => exact ⟨[], [], rfl, mapWord.spaced toWord, reads_noVariables⟩
  | cons first rest =>
    obtain ⟨text, texts, words, isSources, spells, reads⟩ := prints_list spells_comma
      .lastVariable .moreVariables (List.cons_ne_nil first rest) printed
    -- The printer looks at the text of the list to know whether it has variables.
    have notEmpty : joinWith ", " (text :: texts) ≠ "" := by
      intro isEmpty
      rw [isEmpty] at spells
      exact spells.ne_nil reads.variableList_ne_nil rfl
    refine ⟨_, words, isSources, ?_, reads.someVariables⟩
    rw [if_neg notEmpty]
    simpa using mapWord.spaced (spells.spaced toWord)

theorem isPrinted_mapTo (areVariables : ∀ tree ∈ trees, IsVariable tree)
    (printedBody : IsPrinted body) : IsPrinted (.mapTo trees body loc) := by
  obtain ⟨bodyText, bodyWords, printsBody⟩ := printedBody
  obtain ⟨texts, words, isSources, spellsHead, reads⟩ := prints_variables areVariables
  generalize isHead : ((if joinWith ", " texts = "" then "map to"
    else "map " ++ joinWith ", " texts ++ " to") : String) = head at spellsHead
  have isSource : (mapTo trees body loc).source = .ok (head ++ " " ++ bodyText) := by
    simp only [mapTo, source, isSources, bodySource, printsBody.source, ← isHead]
    rfl
  have spells : Spells (head ++ " " ++ bodyText).toList
      ((.mapWord, "map") :: (words ++ (.toWord, "to") :: bodyWords)) := by
    simpa using spellsHead.spaced printsBody.spells
  exact ⟨_, _, Prints.ofExpression ⟨isSource, spells, reads.mapTo printsBody.reads⟩ rfl rfl⟩

end OpenEnded

/-! ## Definitions -/

theorem prints_definition {name : String} {right : Node} {nameLoc loc : Loc}
    (isName : IsVariableName name) (printed : IsPrinted right) :
    ∃ text words, Prints (Derives .definition)
      (.mk .definition (.text name) [.var name nameLoc, right] loc none) text words := by
  obtain ⟨text, words, prints⟩ := printed
  have printsName := prints_variable nameLoc isName
  have isSource : (Node.mk .definition (.text name) [.var name nameLoc, right] loc none).source =
      .ok (name ++ " := " ++ text ++ ";") := by
    simp only [source, printsName.source, prints.source]
    rfl
  have bindSign : Spells ":=".toList [(.bind, ":=")] := spells_symbol (by decide)
  have semicolon : Spells [';'] [(.semicolon, ";")] := spells_nil.mark (by decide)
  have spells : Spells (name ++ " := " ++ text ++ ";").toList
      ((.identifier, name) :: (.bind, ":=") :: (words ++ [(.semicolon, ";")])) := by
    have ended := prints.spells.append (startsApart_cons (by decide)) semicolon
    simpa using printsName.spells.spaced (bindSign.spaced ended)
  exact ⟨_, _, isSource, spells, prints.reads.definition⟩

/-! ## Well-formed trees -/

/-- The tree is printed as what it may stand for. -/
def IsPrintedAs : Role → Node → Prop
  | .expression, tree => IsPrinted tree
  | .definition, tree => ∃ text words, Prints (Derives .definition) tree text words

/-- Every well-formed tree is printed. -/
theorem isPrintedAs_of_wellFormed {role : Role} {tree : Node} (formed : WellFormed role tree) :
    IsPrintedAs role tree := by
  induction formed with
  | integer fits => exact isPrinted_integer fits
  | boolean => exact isPrinted_boolean
  | null => exact isPrinted_null
  | var isName => exact isPrinted_var isName
  | primitive isPrimitive => exact isPrinted_primitive isPrimitive
  | unary isUnary _ ih => exact isPrinted_unary isUnary ih
  | binary isBinary _ _ ihLeft ihRight => exact isPrinted_binary isBinary ihLeft ihRight
  | call _ _ ihCallee ihArguments => exact isPrinted_call ihCallee ihArguments
  | conditional _ _ _ ihCondition ihConsequence ihOtherwise =>
    exact isPrinted_conditional ihCondition ihConsequence ihOtherwise
  | letIn notEmpty _ _ ihDefinitions ihBody => exact isPrinted_letIn notEmpty ihDefinitions ihBody
  | mapTo areVariables _ ihBody => exact isPrinted_mapTo areVariables ihBody
  | definition isName _ ihRight => exact prints_definition isName ihRight

end JamLang
