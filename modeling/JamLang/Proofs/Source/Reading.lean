import JamLang.Proofs.Dialogue.Recognition
import JamLang.Proofs.Grammar.Readable
import JamLang.Proofs.Source.WellFormed
import JamLang.Proofs.Text.Numeral

/-!
# What words stand for

The text of a tree fixes the words of its tokens but not their locations, which depend on where the
text stands.  Words are said to read as a tree if, wherever their tokens stand, the grammar derives
the tokens with a tree that is the same up to locations.  There is one lemma for each rule of the
grammar that a printed tree makes use of.
-/

namespace JamLang

open Grammar Node

/-- Every integer among the words may be read. -/
def ReadableWords (words : List Word) : Prop :=
  ∀ word ∈ words, word.1 = .integer → ∃ value, Text.readInteger word.2 = .ok value

@[simp] theorem readableWords_nil : ReadableWords [] := by
  simp [ReadableWords]

@[simp] theorem readableWords_cons {word : Word} {words : List Word} :
    ReadableWords (word :: words) ↔
      (word.1 = .integer → ∃ value, Text.readInteger word.2 = .ok value) ∧ ReadableWords words :=
  List.forall_mem_cons

@[simp] theorem readableWords_append {first second : List Word} :
    ReadableWords (first ++ second) ↔ ReadableWords first ∧ ReadableWords second :=
  List.forall_mem_append

theorem ReadableWords.readable {tokens : List Token}
    (readable : ReadableWords (tokens.map Token.word)) : Readable tokens :=
  fun _ isToken => readable _ (List.mem_map_of_mem isToken)

/-- All tokens of the words are a phrase whose meaning is as expected, and their integers may be
read. -/
structure Reads {α : Type} (phrases : Phrases α) (words : List Word) (expected : α → Prop) :
    Prop where
  readable : ReadableWords words
  derives ⦃tokens : List Token⦄ (areWords : tokens.map Token.word = words) :
    ∃ meaning, phrases tokens meaning ∧ expected meaning

/-- The tree is the same up to locations. -/
def IsCopy (tree copy : Node) : Prop :=
  copy.unlocated = tree.unlocated

/-- The trees are the same up to locations. -/
def AreCopies (trees copies : List Node) : Prop :=
  unlocatedAll copies = unlocatedAll trees

/-- A variable on its own. -/
def loneVariable : Phrases Node :=
  fun tokens tree => ∃ name, tokens = [name] ∧ name.kind = .identifier ∧
    tree = .var name.text name.loc

section Rules

variable {first second third words : List Word} {tree left right operand body callee : Node}
  {trees : List Node} {operator name : String} {loc : Loc}

theorem Token.of_word {token : Token} {kind : TokenKind} {text : String}
    (isWord : token.word = (kind, text)) : token.kind = kind ∧ token.text = text :=
  Prod.mk.inj isWord

/-! ## Leaves -/

theorem reads_integer {value : Nat} (fits : (Nat.toDigits 10 value).length ≤ Text.digitLimit) :
    Reads (Derives .term) [(.integer, Text.numeral value)]
      (IsCopy (.constant (.int value) "int" loc)) := by
  have isRead := Text.readInteger_numeral fits
  refine ⟨by simp [isRead], fun tokens areWords => ?_⟩
  obtain ⟨token, rfl, isWord⟩ := List.map_eq_singleton_iff.1 areWords
  obtain ⟨isInteger, isText⟩ := Token.of_word isWord
  have isValue : integerOf token = value := by simp [integerOf, isText, isRead]
  exact ⟨_, .integer isInteger, by simp [IsCopy, isValue]⟩

theorem reads_boolean {value : Bool} :
    Reads (Derives .term) [(.boolean, if value then "true" else "false")]
      (IsCopy (.constant (.bool value) "bool" loc)) := by
  refine ⟨by simp, fun tokens areWords => ?_⟩
  obtain ⟨token, rfl, isWord⟩ := List.map_eq_singleton_iff.1 areWords
  obtain ⟨isBoolean, isText⟩ := Token.of_word isWord
  exact ⟨_, .boolean isBoolean, by cases value <;> simp [IsCopy, isText]⟩

theorem reads_null :
    Reads (Derives .term) [(.null, "null")] (IsCopy (.constant .null "null" loc)) := by
  refine ⟨by simp, fun tokens areWords => ?_⟩
  obtain ⟨token, rfl, isWord⟩ := List.map_eq_singleton_iff.1 areWords
  obtain ⟨isNull, -⟩ := Token.of_word isWord
  exact ⟨_, .null isNull, by simp [IsCopy]⟩

theorem reads_loneVariable :
    Reads loneVariable [(.identifier, name)] (IsCopy (.var name loc)) := by
  refine ⟨by simp, fun tokens areWords => ?_⟩
  obtain ⟨token, rfl, isWord⟩ := List.map_eq_singleton_iff.1 areWords
  obtain ⟨isIdentifier, isText⟩ := Token.of_word isWord
  exact ⟨_, ⟨token, rfl, isIdentifier, rfl⟩, by simp [IsCopy, isText]⟩

theorem reads_identifier :
    Reads (Derives .factor) [(.identifier, name)] (IsCopy (.var name loc)) := by
  refine ⟨by simp, fun tokens areWords => ?_⟩
  obtain ⟨_, ⟨token, rfl, isIdentifier, rfl⟩, same⟩ := reads_loneVariable.derives areWords
  exact ⟨_, .identifier isIdentifier, same⟩

theorem reads_primitive :
    Reads (Derives .factor) [(.primitive, name)] (IsCopy (.primitive name loc)) := by
  refine ⟨by simp, fun tokens areWords => ?_⟩
  obtain ⟨token, rfl, isWord⟩ := List.map_eq_singleton_iff.1 areWords
  obtain ⟨isPrimitive, isText⟩ := Token.of_word isWord
  exact ⟨_, .primitive isPrimitive, by simp [IsCopy, isText]⟩

/-! ## Terms -/

theorem Reads.uncalled (reads : Reads (Derives .factor) words (IsCopy tree)) :
    Reads (Derives .term) words (IsCopy tree) := by
  refine ⟨reads.readable, fun tokens areWords => ?_⟩
  obtain ⟨copy, derives, same⟩ := reads.derives areWords
  exact ⟨copy, .uncalled derives, same⟩

theorem Reads.expression (reads : Reads (Derives .term) words (IsCopy tree)) :
    Reads (Derives .expression) words (IsCopy tree) := by
  refine ⟨reads.readable, fun tokens areWords => ?_⟩
  obtain ⟨copy, derives, same⟩ := reads.derives areWords
  have derives := Derives.operation derives .noOperations
  rw [List.append_nil] at derives
  exact ⟨copy, derives, same⟩

theorem Reads.group (reads : Reads (Derives .expression) words (IsCopy tree)) :
    Reads (Derives .factor) ((.leftParen, "(") :: (words ++ [(.rightParen, ")")]))
      (IsCopy tree) := by
  refine ⟨by simp [reads.readable], fun tokens areWords => ?_⟩
  obtain ⟨opening, _, rfl, isOpening, areWords⟩ := List.map_eq_cons_iff.1 areWords
  obtain ⟨inner, _, rfl, areInner, areWords⟩ := List.map_eq_append_iff.1 areWords
  obtain ⟨closing, rfl, isClosing⟩ := List.map_eq_singleton_iff.1 areWords
  obtain ⟨copy, derives, same⟩ := reads.derives areInner
  exact ⟨copy, .group (Token.of_word isOpening).1 derives (Token.of_word isClosing).1, same⟩

theorem Reads.unary (isUnary : operator ∈ Vocabulary.unaryOperators)
    (reads : Reads (Derives .term) words (IsCopy operand)) :
    Reads (Derives .term) ((.operator, operator) :: words)
      (IsCopy (.unary operator operand loc)) := by
  refine ⟨by simp [reads.readable], fun tokens areWords => ?_⟩
  obtain ⟨sign, rest, rfl, isSign, areRest⟩ := List.map_eq_cons_iff.1 areWords
  obtain ⟨isOperator, rfl⟩ := Token.of_word isSign
  obtain ⟨copy, derives, same⟩ := reads.derives areRest
  have same : copy.unlocated = operand.unlocated := same
  exact ⟨_, .unary isOperator isUnary derives, by simp [IsCopy, same]⟩

theorem Reads.binary (isBinary : operator ∈ Vocabulary.binaryOperators)
    (readsLeft : Reads (Derives .term) first (IsCopy left))
    (readsRight : Reads (Derives .term) second (IsCopy right)) :
    Reads (Derives .expression) (first ++ (.operator, operator) :: second)
      (IsCopy (.binary operator left right loc)) := by
  refine ⟨by simp [readsLeft.readable, readsRight.readable], fun tokens areWords => ?_⟩
  obtain ⟨one, _, rfl, areFirst, areWords⟩ := List.map_eq_append_iff.1 areWords
  obtain ⟨sign, two, rfl, isSign, areSecond⟩ := List.map_eq_cons_iff.1 areWords
  obtain ⟨isOperator, rfl⟩ := Token.of_word isSign
  obtain ⟨leftCopy, derivesLeft, sameLeft⟩ := readsLeft.derives areFirst
  obtain ⟨rightCopy, derivesRight, sameRight⟩ := readsRight.derives areSecond
  have sameLeft : leftCopy.unlocated = left.unlocated := sameLeft
  have sameRight : rightCopy.unlocated = right.unlocated := sameRight
  have derives := Derives.operation derivesLeft
    (.moreOperations isOperator isBinary derivesRight .noOperations)
  rw [List.append_nil] at derives
  exact ⟨_, derives, by simp [IsCopy, applyOperations, sameLeft, sameRight]⟩

theorem Reads.call (readsCallee : Reads (Derives .factor) first (IsCopy callee))
    (readsArguments : Reads (Derives .arguments) second (AreCopies trees)) :
    Reads (Derives .term) (first ++ (.leftParen, "(") :: (second ++ [(.rightParen, ")")]))
      (IsCopy (.mk .call (.node callee) trees loc none)) := by
  refine ⟨by simp [readsCallee.readable, readsArguments.readable], fun tokens areWords => ?_⟩
  obtain ⟨one, _, rfl, areFirst, areWords⟩ := List.map_eq_append_iff.1 areWords
  obtain ⟨opening, _, rfl, isOpening, areWords⟩ := List.map_eq_cons_iff.1 areWords
  obtain ⟨two, _, rfl, areSecond, areWords⟩ := List.map_eq_append_iff.1 areWords
  obtain ⟨closing, rfl, isClosing⟩ := List.map_eq_singleton_iff.1 areWords
  obtain ⟨calleeCopy, derivesCallee, sameCallee⟩ := readsCallee.derives areFirst
  obtain ⟨copies, derivesArguments, sameArguments⟩ := readsArguments.derives areSecond
  refine ⟨_, .call derivesCallee (Token.of_word isOpening).1 derivesArguments
    (Token.of_word isClosing).1, ?_⟩
  rw [IsCopy, unlocated_call, unlocated, unlocatedValue, sameCallee, sameArguments]

/-! ## Expressions -/

theorem Reads.conditional {condition consequence otherwise : Node}
    (readsCondition : Reads (Derives .expression) first (IsCopy condition))
    (readsConsequence : Reads (Derives .expression) second (IsCopy consequence))
    (readsOtherwise : Reads (Derives .expression) third (IsCopy otherwise)) :
    Reads (Derives .expression) ((.ifWord, "if") ::
        (first ++ (.thenWord, "then") :: (second ++ (.elseWord, "else") :: third)))
      (IsCopy (.conditional condition consequence otherwise loc)) := by
  refine ⟨by simp [readsCondition.readable, readsConsequence.readable, readsOtherwise.readable],
    fun tokens areWords => ?_⟩
  obtain ⟨ifWord, _, rfl, isIf, areWords⟩ := List.map_eq_cons_iff.1 areWords
  obtain ⟨one, _, rfl, areFirst, areWords⟩ := List.map_eq_append_iff.1 areWords
  obtain ⟨thenWord, _, rfl, isThen, areWords⟩ := List.map_eq_cons_iff.1 areWords
  obtain ⟨two, _, rfl, areSecond, areWords⟩ := List.map_eq_append_iff.1 areWords
  obtain ⟨elseWord, three, rfl, isElse, areThird⟩ := List.map_eq_cons_iff.1 areWords
  obtain ⟨copy, derives, same⟩ := readsCondition.derives areFirst
  obtain ⟨copy', derives', same'⟩ := readsConsequence.derives areSecond
  obtain ⟨copy'', derives'', same''⟩ := readsOtherwise.derives areThird
  refine ⟨_, .conditional (Token.of_word isIf).1 derives (Token.of_word isThen).1 derives'
    (Token.of_word isElse).1 derives'', ?_⟩
  rw [IsCopy, unlocated_conditional, unlocated_conditional, same, same', same'']

theorem Reads.letIn (readsDefinitions : Reads (Derives .definitions) first (AreCopies trees))
    (readsBody : Reads (Derives .expression) second (IsCopy body)) :
    Reads (Derives .expression) ((.letWord, "let") :: (first ++ (.inWord, "in") :: second))
      (IsCopy (.letIn trees body loc)) := by
  refine ⟨by simp [readsDefinitions.readable, readsBody.readable], fun tokens areWords => ?_⟩
  obtain ⟨letWord, _, rfl, isLet, areWords⟩ := List.map_eq_cons_iff.1 areWords
  obtain ⟨one, _, rfl, areFirst, areWords⟩ := List.map_eq_append_iff.1 areWords
  obtain ⟨inWord, two, rfl, isIn, areSecond⟩ := List.map_eq_cons_iff.1 areWords
  obtain ⟨copies, derivesDefinitions, sameDefinitions⟩ := readsDefinitions.derives areFirst
  obtain ⟨copy, derivesBody, sameBody⟩ := readsBody.derives areSecond
  refine ⟨_, .letIn (Token.of_word isLet).1 derivesDefinitions (Token.of_word isIn).1 derivesBody, ?_⟩
  rw [IsCopy, unlocated_letIn, unlocated_letIn, sameDefinitions, sameBody]

theorem Reads.mapTo (readsVariables : Reads (Derives .variables) first (AreCopies trees))
    (readsBody : Reads (Derives .expression) second (IsCopy body)) :
    Reads (Derives .expression) ((.mapWord, "map") :: (first ++ (.toWord, "to") :: second))
      (IsCopy (.mapTo trees body loc)) := by
  refine ⟨by simp [readsVariables.readable, readsBody.readable], fun tokens areWords => ?_⟩
  obtain ⟨mapWord, _, rfl, isMap, areWords⟩ := List.map_eq_cons_iff.1 areWords
  obtain ⟨one, _, rfl, areFirst, areWords⟩ := List.map_eq_append_iff.1 areWords
  obtain ⟨toWord, two, rfl, isTo, areSecond⟩ := List.map_eq_cons_iff.1 areWords
  obtain ⟨copies, derivesVariables, sameVariables⟩ := readsVariables.derives areFirst
  obtain ⟨copy, derivesBody, sameBody⟩ := readsBody.derives areSecond
  refine ⟨_, .mapTo (Token.of_word isMap).1 derivesVariables (Token.of_word isTo).1 derivesBody, ?_⟩
  rw [IsCopy, unlocated_mapTo, unlocated_mapTo, sameVariables, sameBody]

theorem Reads.definition {nameLoc : Loc}
    (reads : Reads (Derives .expression) words (IsCopy right)) :
    Reads (Derives .definition) ((.identifier, name) :: (.bind, ":=") ::
        (words ++ [(.semicolon, ";")]))
      (IsCopy (.mk .definition (.text name) [.var name nameLoc, right] loc none)) := by
  refine ⟨by simp [reads.readable], fun tokens areWords => ?_⟩
  obtain ⟨token, _, rfl, isName, areWords⟩ := List.map_eq_cons_iff.1 areWords
  obtain ⟨bind, _, rfl, isBind, areWords⟩ := List.map_eq_cons_iff.1 areWords
  obtain ⟨inner, _, rfl, areInner, areWords⟩ := List.map_eq_append_iff.1 areWords
  obtain ⟨semicolon, rfl, isSemicolon⟩ := List.map_eq_singleton_iff.1 areWords
  obtain ⟨isIdentifier, rfl⟩ := Token.of_word isName
  obtain ⟨copy, derives, same⟩ := reads.derives areInner
  refine ⟨_, .definition isIdentifier (Token.of_word isBind).1 derives
    (Token.of_word isSemicolon).1, ?_⟩
  rw [IsCopy, unlocated_definition, same]
  rfl

/-! ## Lists -/

theorem Reads.lastArgument (reads : Reads (Derives .expression) words (IsCopy tree)) :
    Reads (Derives .argumentList) words (AreCopies [tree]) := by
  refine ⟨reads.readable, fun tokens areWords => ?_⟩
  obtain ⟨copy, derives, same⟩ := reads.derives areWords
  exact ⟨[copy], .lastArgument derives, congrArg (· :: []) same⟩

theorem Reads.moreArguments (reads : Reads (Derives .expression) first (IsCopy tree))
    (readsRest : Reads (Derives .argumentList) second (AreCopies trees)) :
    Reads (Derives .argumentList) (first ++ (.comma, ",") :: second) (AreCopies (tree :: trees)) := by
  refine ⟨by simp [reads.readable, readsRest.readable], fun tokens areWords => ?_⟩
  obtain ⟨one, _, rfl, areFirst, areWords⟩ := List.map_eq_append_iff.1 areWords
  obtain ⟨comma, two, rfl, isComma, areSecond⟩ := List.map_eq_cons_iff.1 areWords
  obtain ⟨copy, derives, same⟩ := reads.derives areFirst
  obtain ⟨copies, derivesRest, sameRest⟩ := readsRest.derives areSecond
  refine ⟨copy :: copies, .moreArguments derives (Token.of_word isComma).1 derivesRest, ?_⟩
  rw [AreCopies, unlocatedAll_cons, unlocatedAll_cons, same, sameRest]

theorem Reads.someArguments (reads : Reads (Derives .argumentList) words (AreCopies trees)) :
    Reads (Derives .arguments) words (AreCopies trees) := by
  refine ⟨reads.readable, fun tokens areWords => ?_⟩
  obtain ⟨copies, derives, same⟩ := reads.derives areWords
  exact ⟨copies, .someArguments derives, same⟩

theorem reads_noArguments : Reads (Derives .arguments) [] (AreCopies []) := by
  refine ⟨by simp, fun tokens areWords => ?_⟩
  obtain rfl := List.map_eq_nil_iff.1 areWords
  exact ⟨[], .noArguments, rfl⟩

theorem Reads.lastVariable (reads : Reads loneVariable words (IsCopy tree)) :
    Reads (Derives .variableList) words (AreCopies [tree]) := by
  refine ⟨reads.readable, fun tokens areWords => ?_⟩
  obtain ⟨_, ⟨name, rfl, isIdentifier, rfl⟩, same⟩ := reads.derives areWords
  exact ⟨_, .lastVariable isIdentifier, congrArg (· :: []) same⟩

theorem Reads.moreVariables (reads : Reads loneVariable first (IsCopy tree))
    (readsRest : Reads (Derives .variableList) second (AreCopies trees)) :
    Reads (Derives .variableList) (first ++ (.comma, ",") :: second) (AreCopies (tree :: trees)) := by
  refine ⟨by simp [reads.readable, readsRest.readable], fun tokens areWords => ?_⟩
  obtain ⟨_, _, rfl, areFirst, areWords⟩ := List.map_eq_append_iff.1 areWords
  obtain ⟨comma, two, rfl, isComma, areSecond⟩ := List.map_eq_cons_iff.1 areWords
  obtain ⟨_, ⟨name, rfl, isIdentifier, rfl⟩, same⟩ := reads.derives areFirst
  obtain ⟨copies, derivesRest, sameRest⟩ := readsRest.derives areSecond
  refine ⟨_, .moreVariables isIdentifier (Token.of_word isComma).1 derivesRest, ?_⟩
  rw [AreCopies, unlocatedAll_cons, unlocatedAll_cons, same, sameRest]

theorem Reads.someVariables (reads : Reads (Derives .variableList) words (AreCopies trees)) :
    Reads (Derives .variables) words (AreCopies trees) := by
  refine ⟨reads.readable, fun tokens areWords => ?_⟩
  obtain ⟨copies, derives, same⟩ := reads.derives areWords
  exact ⟨copies, .someVariables derives, same⟩

theorem reads_noVariables : Reads (Derives .variables) [] (AreCopies []) := by
  refine ⟨by simp, fun tokens areWords => ?_⟩
  obtain rfl := List.map_eq_nil_iff.1 areWords
  exact ⟨[], .noVariables, rfl⟩

/-- One variable or more are at least one word. -/
theorem Reads.variableList_ne_nil (reads : Reads (Derives .variableList) words (AreCopies trees)) :
    words ≠ [] := by
  rintro rfl
  have areWords : ([] : List Token).map Token.word = [] := rfl
  obtain ⟨copies, derives, -⟩ := reads.derives areWords
  cases derives

theorem Reads.lastDefinition (reads : Reads (Derives .definition) words (IsCopy tree)) :
    Reads (Derives .definitions) words (AreCopies [tree]) := by
  refine ⟨reads.readable, fun tokens areWords => ?_⟩
  obtain ⟨copy, derives, same⟩ := reads.derives areWords
  exact ⟨[copy], .lastDefinition derives, congrArg (· :: []) same⟩

theorem Reads.moreDefinitions (reads : Reads (Derives .definition) first (IsCopy tree))
    (readsRest : Reads (Derives .definitions) second (AreCopies trees)) :
    Reads (Derives .definitions) (first ++ second) (AreCopies (tree :: trees)) := by
  refine ⟨by simp [reads.readable, readsRest.readable], fun tokens areWords => ?_⟩
  obtain ⟨one, two, rfl, areFirst, areSecond⟩ := List.map_eq_append_iff.1 areWords
  obtain ⟨copy, derives, same⟩ := reads.derives areFirst
  obtain ⟨copies, derivesRest, sameRest⟩ := readsRest.derives areSecond
  refine ⟨copy :: copies, .moreDefinitions derives derivesRest, ?_⟩
  rw [AreCopies, unlocatedAll_cons, unlocatedAll_cons, same, sameRest]

end Rules

end JamLang
