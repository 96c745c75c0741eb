import JamLang.Leaf

/-!
# Relabeling

The names in a program and the places of its tokens are passed on from the tokens to the tree, or to
the fault, and otherwise not looked at.  A `Relabeling` says what becomes of them: of the names of
variables, of the names of built-in functions and of the locations.  It acts on tokens, and on
whatever is made of tokens.
-/

namespace JamLang

/-- New names for variables and built-in functions, and new places. -/
structure Relabeling where
  name : String → String
  primitive : String → String
  place : Loc → Loc

namespace Relabeling

/-! ## Tokens -/

/-- The text of a token of the kind: it changes if it is a name. -/
def text (relabel : Relabeling) (kind : TokenKind) (text : String) : String :=
  match kind with
  | .identifier => relabel.name text
  | .primitive => relabel.primitive text
  | _ => text

def token (relabel : Relabeling) (token : Token) : Token :=
  ⟨token.kind, relabel.text token.kind token.text, relabel.place token.loc⟩

variable (relabel : Relabeling)

@[simp] theorem kind_token (token : Token) : (relabel.token token).kind = token.kind := rfl

@[simp] theorem loc_token (token : Token) :
    (relabel.token token).loc = relabel.place token.loc := rfl

theorem text_token {token : Token} (notIdentifier : token.kind ≠ .identifier)
    (notPrimitive : token.kind ≠ .primitive) : (relabel.token token).text = token.text := by
  unfold Relabeling.token text
  dsimp only
  split
  · next isIdentifier => exact absurd isIdentifier notIdentifier
  · next isPrimitive => exact absurd isPrimitive notPrimitive
  · rfl

/-! ## Trees -/

/-- The text of a node of the kind: it changes if it is a name. -/
def label (relabel : Relabeling) (kind : NodeKind) (text : String) : String :=
  match kind with
  | .var | .definition => relabel.name text
  | .primitive => relabel.primitive text
  | _ => text

mutual
/-- The tree with its new names and places. -/
def node (relabel : Relabeling) : Node → Node
  | .mk kind value children loc type =>
    .mk kind (relabel.value kind value) (relabel.nodes children) (relabel.place loc) type

/-- The value of a node of the kind, with its new names and places. -/
def value (relabel : Relabeling) (kind : NodeKind) : Value Node → Value Node
  | .literal literal => .literal literal
  | .text text => .text (relabel.label kind text)
  | .node node => .node (relabel.node node)

def nodes (relabel : Relabeling) : List Node → List Node
  | [] => []
  | node :: nodes => relabel.node node :: relabel.nodes nodes
end

section

variable {operator name type : String} {literal : Literal} {loc : Loc}
  {left right operand callee condition consequence otherwise body : Node} {children : List Node}

@[simp] theorem nodes_nil : relabel.nodes [] = [] := rfl

@[simp] theorem nodes_cons (node : Node) (nodes : List Node) :
    relabel.nodes (node :: nodes) = relabel.node node :: relabel.nodes nodes := rfl

@[simp] theorem node_constant :
    relabel.node (.constant literal type loc) = .constant literal type (relabel.place loc) := rfl

@[simp] theorem node_var :
    relabel.node (.var name loc) = .var (relabel.name name) (relabel.place loc) := rfl

@[simp] theorem node_primitive :
    relabel.node (.primitive name loc) =
      .primitive (relabel.primitive name) (relabel.place loc) := rfl

@[simp] theorem node_unary :
    relabel.node (.unary operator operand loc) =
      .unary operator (relabel.node operand) (relabel.place loc) := rfl

@[simp] theorem node_binary :
    relabel.node (.binary operator left right loc) =
      .binary operator (relabel.node left) (relabel.node right) (relabel.place loc) := rfl

@[simp] theorem loc_node (node : Node) : (relabel.node node).loc = relabel.place node.loc := by
  cases node
  rfl

@[simp] theorem node_call :
    relabel.node (.call callee children) =
      .call (relabel.node callee) (relabel.nodes children) := by
  rw [Node.call, Node.call, loc_node]
  rfl

@[simp] theorem node_conditional :
    relabel.node (.conditional condition consequence otherwise loc) =
      .conditional (relabel.node condition) (relabel.node consequence)
        (relabel.node otherwise) (relabel.place loc) := rfl

@[simp] theorem node_letIn :
    relabel.node (.letIn children body loc) =
      .letIn (relabel.nodes children) (relabel.node body) (relabel.place loc) := rfl

@[simp] theorem node_mapTo :
    relabel.node (.mapTo children body loc) =
      .mapTo (relabel.nodes children) (relabel.node body) (relabel.place loc) := rfl

@[simp] theorem node_definition :
    relabel.node (.definition name right loc) =
      .definition (relabel.name name) (relabel.node right) (relabel.place loc) := rfl

end

/-! ## Faults -/

/-- The fault of the grammar at the relabeled token. -/
def syntaxFault (relabel : Relabeling) : SyntaxFault → SyntaxFault
  | .unexpected found expected => .unexpected (found.map relabel.token) expected
  | .trailing found => .trailing (relabel.token found)

/-- The fault with its new names and places; faults of the text and of numbers have none. -/
def fault (relabel : Relabeling) : Fault → Fault
  | .grammar fault => .grammar (relabel.syntaxFault fault)
  | .notConstant token => .notConstant (relabel.token token)
  | other => other

/-- The result, relabeled in one way, or the relabeled fault. -/
def result (relabel : Relabeling) {α : Type} (image : α → α) : Except Fault α → Except Fault α
  | .ok value => .ok (image value)
  | .error fault => .error (relabel.fault fault)

/-! ## What a relabeled token stands for -/

theorem literal_token {token : Token} (notIdentifier : token.kind ≠ .identifier)
    (notPrimitive : token.kind ≠ .primitive) :
    (relabel.token token).literal = relabel.result id token.literal := by
  simp only [Token.literal, kind_token, relabel.text_token notIdentifier notPrimitive]
  split
  · split <;> rfl
  · rfl
  · rfl
  · rfl

theorem constantLeaf_token (token : Token) (notIdentifier : token.kind ≠ .identifier)
    (notPrimitive : token.kind ≠ .primitive) (type : String) :
    Node.constantLeaf (relabel.token token) type =
      relabel.result relabel.node (Node.constantLeaf token type) := by
  rw [Node.constantLeaf, Node.constantLeaf, relabel.literal_token notIdentifier notPrimitive]
  cases token.literal <;> rfl

theorem leaf_token (token : Token) :
    Node.leaf (relabel.token token) = relabel.result relabel.node (Node.leaf token) := by
  obtain ⟨kind, text, loc⟩ := token
  cases kind with
  | integer => exact relabel.constantLeaf_token ⟨.integer, text, loc⟩ (by simp) (by simp) "int"
  | boolean => exact relabel.constantLeaf_token ⟨.boolean, text, loc⟩ (by simp) (by simp) "bool"
  | null => exact relabel.constantLeaf_token ⟨.null, text, loc⟩ (by simp) (by simp) "null"
  | _ => rfl

theorem text_token_of_operator {token : Token} (isOperator : token.kind = .operator) :
    (relabel.token token).text = token.text :=
  relabel.text_token (by simp [isOperator]) (by simp [isOperator])

theorem isOperator_token (token : Token) (texts : List String) :
    (decide ((relabel.token token).kind = .operator) &&
        decide ((relabel.token token).text ∈ texts)) =
      (decide (token.kind = .operator) && decide (token.text ∈ texts)) := by
  by_cases isOperator : token.kind = .operator
  · rw [relabel.text_token_of_operator isOperator, kind_token]
  · simp [isOperator]

/-- An operator of a table is one whatever the names are, and it keeps its text. -/
theorem operator_token (token : Token) (texts : List String) (expected : Expectation) :
    (if decide ((relabel.token token).kind = .operator) &&
        decide ((relabel.token token).text ∈ texts) then .ok (relabel.token token).text
      else .error (.grammar (.unexpected (some (relabel.token token)) expected))) =
      relabel.result id
        (if decide (token.kind = .operator) && decide (token.text ∈ texts) then .ok token.text
          else .error (.grammar (.unexpected (some token) expected))) := by
  rw [isOperator_token]
  split
  · next isEntry =>
    rw [Bool.and_eq_true, decide_eq_true_eq] at isEntry
    rw [relabel.text_token_of_operator isEntry.1]
    rfl
  · rfl

theorem unaryOperator_token (token : Token) :
    (relabel.token token).unaryOperator = relabel.result id token.unaryOperator :=
  relabel.operator_token token Vocabulary.unaryOperators .unaryOperator

theorem binaryOperator_token (token : Token) :
    (relabel.token token).binaryOperator = relabel.result id token.binaryOperator :=
  relabel.operator_token token Vocabulary.binaryOperators .binaryOperator

end Relabeling

end JamLang
