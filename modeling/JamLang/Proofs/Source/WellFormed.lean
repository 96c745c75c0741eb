import JamLang.Node
import JamLang.Text.Numeral
import JamLang.Proofs.Lexer.Words

/-!
# Well-formed trees

A tree is well formed if every node has the parts that its kind asks for: the operators are
operators, the names are names, the integers are natural numbers that may be written, and
definitions stand below a `let` and nowhere else.  Locations do not matter, so whether a tree was
parsed or made by hand makes no difference.

Two trees are the same up to locations if they agree once all locations are forgotten.
-/

namespace JamLang

namespace Node

/-! ## Forgetting locations -/

mutual
/-- The tree without its locations. -/
def unlocated : Node → Node
  | .mk kind value children _ type =>
    .mk kind (unlocatedValue value) (unlocatedAll children) .unknown type

/-- The value without the locations of its node. -/
def unlocatedValue : Value Node → Value Node
  | .literal literal => .literal literal
  | .text text => .text text
  | .node node => .node (unlocated node)

/-- The trees without their locations. -/
def unlocatedAll : List Node → List Node
  | [] => []
  | node :: nodes => unlocated node :: unlocatedAll nodes
end

section

variable {operator name type : String} {literal : Literal} {loc : Loc}
  {left right operand callee condition consequence otherwise body : Node} {children : List Node}

@[simp] theorem unlocatedAll_nil : unlocatedAll [] = [] := rfl

@[simp] theorem unlocatedAll_cons (node : Node) (nodes : List Node) :
    unlocatedAll (node :: nodes) = unlocated node :: unlocatedAll nodes := rfl

@[simp] theorem unlocated_constant :
    (constant literal type loc).unlocated = constant literal type .unknown := rfl

@[simp] theorem unlocated_var : (var name loc).unlocated = var name .unknown := rfl

@[simp] theorem unlocated_primitive :
    (primitive name loc).unlocated = primitive name .unknown := rfl

@[simp] theorem unlocated_unary :
    (unary operator operand loc).unlocated = unary operator operand.unlocated .unknown := rfl

@[simp] theorem unlocated_binary :
    (binary operator left right loc).unlocated =
      binary operator left.unlocated right.unlocated .unknown := rfl

@[simp] theorem unlocated_call :
    (call callee children).unlocated =
      .mk .call (.node callee.unlocated) (unlocatedAll children) .unknown none := rfl

@[simp] theorem unlocated_conditional :
    (conditional condition consequence otherwise loc).unlocated =
      conditional condition.unlocated consequence.unlocated otherwise.unlocated .unknown := rfl

@[simp] theorem unlocated_letIn :
    (letIn children body loc).unlocated = letIn (unlocatedAll children) body.unlocated .unknown := rfl

@[simp] theorem unlocated_mapTo :
    (mapTo children body loc).unlocated = mapTo (unlocatedAll children) body.unlocated .unknown := rfl

@[simp] theorem unlocated_definition :
    (definition name right loc).unlocated = definition name right.unlocated .unknown := rfl

end

/-! ## Well-formed trees -/

/-- Where a tree may stand. -/
inductive Role where
  | expression
  /-- Directly below a `let`, and nowhere else. -/
  | definition
  deriving DecidableEq, Repr

/-- The name is a word, and none that has a meaning of its own. -/
def IsVariableName (name : String) : Prop :=
  Lexer.isWord name.toList = true ∧ Vocabulary.wordKind name = .identifier

/-- The names of variables are the texts that the lexer takes as one identifier. -/
theorem isVariableName_iff {name : String} :
    IsVariableName name ↔ ∃ loc, Lexer.tokens name = ([⟨.identifier, name, loc⟩], none) := by
  constructor
  · rintro ⟨isWord, isIdentifier⟩
    have spells := Lexer.spells_word isWord
    rw [isIdentifier] at spells
    obtain ⟨tokens, lexed, areWords⟩ := Lexer.tokens_of_spells spells
    obtain ⟨⟨kind, text, loc⟩, rfl, sameWord⟩ := List.map_eq_singleton_iff.1 areWords
    obtain ⟨rfl, rfl⟩ := Prod.mk.inj sameWord
    exact ⟨loc, lexed⟩
  · rintro ⟨loc, lexed⟩
    rw [Lexer.tokens, Lexer.tokensFrom] at lexed
    split at lexed
    · next token after read =>
      obtain rfl := (List.cons.inj (Prod.mk.inj lexed).1).1
      obtain ⟨_, _, _, -, read⟩ := Lexer.readToken_of_nextToken read
      exact Lexer.isWord_of_readToken read rfl
    · simp at lexed
    · simp at lexed

/-- The node is a variable. -/
def IsVariable (node : Node) : Prop :=
  ∃ name loc, node = .var name loc ∧ IsVariableName name

/-- Every node of the tree has the parts that its kind asks for. -/
inductive WellFormed : Role → Node → Prop where
  | integer {value : Nat} {loc : Loc}
      (fits : (Nat.toDigits 10 value).length ≤ Text.digitLimit) :
      WellFormed .expression (.constant (.int value) "int" loc)
  | boolean {value : Bool} {loc : Loc} :
      WellFormed .expression (.constant (.bool value) "bool" loc)
  | null {loc : Loc} : WellFormed .expression (.constant .null "null" loc)
  | var {name : String} {loc : Loc} (isName : IsVariableName name) :
      WellFormed .expression (.var name loc)
  | primitive {name : String} {loc : Loc} (isPrimitive : name ∈ Vocabulary.primitives) :
      WellFormed .expression (.primitive name loc)
  | unary {operator : String} {operand : Node} {loc : Loc}
      (isUnary : operator ∈ Vocabulary.unaryOperators)
      (operandFormed : WellFormed .expression operand) :
      WellFormed .expression (.unary operator operand loc)
  | binary {operator : String} {left right : Node} {loc : Loc}
      (isBinary : operator ∈ Vocabulary.binaryOperators)
      (leftFormed : WellFormed .expression left) (rightFormed : WellFormed .expression right) :
      WellFormed .expression (.binary operator left right loc)
  | call {callee : Node} {arguments : List Node} {loc : Loc}
      (calleeFormed : WellFormed .expression callee)
      (argumentsFormed : ∀ argument ∈ arguments, WellFormed .expression argument) :
      WellFormed .expression (.mk .call (.node callee) arguments loc none)
  | conditional {condition consequence otherwise : Node} {loc : Loc}
      (conditionFormed : WellFormed .expression condition)
      (consequenceFormed : WellFormed .expression consequence)
      (otherwiseFormed : WellFormed .expression otherwise) :
      WellFormed .expression (.conditional condition consequence otherwise loc)
  | letIn {definitions : List Node} {body : Node} {loc : Loc} (notEmpty : definitions ≠ [])
      (definitionsFormed : ∀ definition ∈ definitions, WellFormed .definition definition)
      (bodyFormed : WellFormed .expression body) :
      WellFormed .expression (.letIn definitions body loc)
  | mapTo {names : List Node} {body : Node} {loc : Loc}
      (areVariables : ∀ name ∈ names, IsVariable name)
      (bodyFormed : WellFormed .expression body) :
      WellFormed .expression (.mapTo names body loc)
  | definition {name : String} {right : Node} {nameLoc loc : Loc} (isName : IsVariableName name)
      (rightFormed : WellFormed .expression right) :
      WellFormed .definition (.mk .definition (.text name) [.var name nameLoc, right] loc none)

end Node

end JamLang
