import JamLang.Token

/-!
# Syntax trees

A program is a tree of nodes.  Every node has the same five parts; what they mean depends on the
kind:

| kind          | value           | children                          | type                      |
|---------------|-----------------|-----------------------------------|---------------------------|
| constant      | a literal       |                                   | `int`, `bool` or `null`   |
| var           | its name        |                                   |                           |
| primitive     | its name        |                                   |                           |
| unary         | the operator    | operand                           |                           |
| binary        | the operator    | left, right                       |                           |
| call          | the callee node | arguments, zero or more           |                           |
| conditional   |                 | condition, consequence, otherwise |                           |
| letIn         | the body node   | definitions, one or more          |                           |
| mapTo         | the body node   | variables, zero or more           |                           |
| definition    | the name        | variable, right-hand side         |                           |

The type of trees is wider than the table, because trees may be made by hand: whoever prints one
has to say what is wrong with it.
-/

namespace JamLang

/-- The names of the kinds of the table. -/
def NodeKind.listedNames : List String :=
  ["constant", "variable", "primfun", "unop", "binop", "app", "if", "let", "map", "def"]

/-- What a node is. -/
inductive NodeKind where
  | constant
  | var
  | primitive
  | unary
  | binary
  | call
  | conditional
  | letIn
  | mapTo
  | definition
  /-- A kind outside the table. -/
  | foreign (name : String) (unlisted : name ∉ NodeKind.listedNames)
  deriving DecidableEq, Repr

namespace NodeKind

/-- The name of a kind. -/
def name : NodeKind → String
  | .constant => "constant"
  | .var => "variable"
  | .primitive => "primfun"
  | .unary => "unop"
  | .binary => "binop"
  | .call => "app"
  | .conditional => "if"
  | .letIn => "let"
  | .mapTo => "map"
  | .definition => "def"
  | .foreign name _ => name

/-- The kind of the table that has a listed name. -/
def ofListedName : String → NodeKind
  | "constant" => .constant
  | "variable" => .var
  | "primfun" => .primitive
  | "unop" => .unary
  | "binop" => .binary
  | "app" => .call
  | "if" => .conditional
  | "let" => .letIn
  | "map" => .mapTo
  | _ => .definition

/-- The kind that has a name. -/
def ofName (name : String) : NodeKind :=
  if isListed : name ∈ listedNames then ofListedName name else .foreign name isListed

theorem name_ofName (name : String) : (ofName name).name = name := by
  unfold ofName
  split
  · next isListed =>
    simp only [listedNames, List.mem_cons, List.not_mem_nil, or_false] at isListed
    rcases isListed with rfl | rfl | rfl | rfl | rfl | rfl | rfl | rfl | rfl | rfl <;> rfl
  · rfl

theorem ofName_name (kind : NodeKind) : ofName kind.name = kind := by
  cases kind with
  | foreign name unlisted => simp [ofName, NodeKind.name, unlisted]
  | _ => simp [ofName, NodeKind.name, listedNames, ofListedName]

/-- Different kinds have different names. -/
theorem name_inj {a b : NodeKind} : a.name = b.name ↔ a = b :=
  ⟨fun same => by rw [← ofName_name a, same, ofName_name], congrArg name⟩

end NodeKind

/-- The value of a constant. -/
inductive Literal where
  | null
  | bool (value : Bool)
  | int (value : Int)
  deriving DecidableEq, Repr

/-- The value part of a node: a literal, of which `null` also stands for no value at all, a text,
or a nested node. -/
inductive Value (α : Type) where
  | literal (literal : Literal)
  | text (text : String)
  | node (node : α)
  deriving DecidableEq

/-- A node of a syntax tree. -/
inductive Node where
  | mk (kind : NodeKind) (value : Value Node) (children : List Node) (loc : Loc)
    (type : Option String)

instance {α : Type} : Inhabited (Value α) :=
  ⟨.literal .null⟩

instance : Inhabited Node :=
  ⟨.mk .constant default [] .unknown none⟩

namespace Node

/-- What the node is. -/
def kind : Node → NodeKind
  | .mk kind _ _ _ _ => kind

/-- The name, operator or literal of the node, or its callee or body. -/
def value : Node → Value Node
  | .mk _ value _ _ _ => value

/-- The parts of the node, in order. -/
def children : Node → List Node
  | .mk _ _ children _ _ => children

/-- Where the node stands. -/
def loc : Node → Loc
  | .mk _ _ _ loc _ => loc

/-- The type of a constant. -/
def type : Node → Option String
  | .mk _ _ _ _ type => type

/-- A node without parts. -/
def isLeaf (node : Node) : Bool :=
  node.kind ∈ [NodeKind.constant, .var, .primitive]

/-! ## Equality -/

mutual
/-- Two trees agree in every part, positions included. -/
def beq : Node → Node → Bool
  | .mk kind value children loc type, .mk kind' value' children' loc' type' =>
    kind = kind' && beqValue value value' && beqAll children children' && loc = loc' &&
      type = type'

/-- Two values agree; a boolean is never a number, and nothing is no number. -/
def beqValue : Value Node → Value Node → Bool
  | .literal a, .literal b => a = b
  | .text a, .text b => a = b
  | .node a, .node b => beq a b
  | _, _ => false

/-- Two lists of trees agree item by item. -/
def beqAll : List Node → List Node → Bool
  | [], [] => true
  | a :: as, b :: bs => beq a b && beqAll as bs
  | _, _ => false
end

mutual
theorem beq_iff : ∀ a b : Node, beq a b = true ↔ a = b
  | .mk kind value children loc type, .mk kind' value' children' loc' type' => by
    simp [beq, beqValue_iff value value', beqAll_iff children children', and_assoc]

theorem beqValue_iff : ∀ a b : Value Node, beqValue a b = true ↔ a = b
  | .literal a, .literal b => by simp [beqValue]
  | .text a, .text b => by simp [beqValue]
  | .node a, .node b => by simp [beqValue, beq_iff a b]
  | .literal _, .text _ | .literal _, .node _ | .text _, .literal _ | .text _, .node _
  | .node _, .literal _ | .node _, .text _ => by simp [beqValue]

theorem beqAll_iff : ∀ a b : List Node, beqAll a b = true ↔ a = b
  | [], [] => by simp [beqAll]
  | [], _ :: _ | _ :: _, [] => by simp [beqAll]
  | a :: as, b :: bs => by simp [beqAll, beq_iff a b, beqAll_iff as bs]
end

instance : DecidableEq Node := fun a b =>
  decidable_of_iff (beq a b = true) (beq_iff a b)

/-! ## The nodes of the table -/

/-- The node of a literal whose type is named. -/
def constant (literal : Literal) (type : String) (loc : Loc) : Node :=
  .mk .constant (.literal literal) [] loc (some type)

/-- The node of a variable. -/
def var (name : String) (loc : Loc) : Node :=
  .mk .var (.text name) [] loc none

/-- The node of a built-in function. -/
def primitive (name : String) (loc : Loc) : Node :=
  .mk .primitive (.text name) [] loc none

/-- An operator before its operand. -/
def unary (operator : String) (operand : Node) (loc : Loc) : Node :=
  .mk .unary (.text operator) [operand] loc none

/-- An operator between its operands. -/
def binary (operator : String) (left right : Node) (loc : Loc) : Node :=
  .mk .binary (.text operator) [left, right] loc none

/-- A call; it stands where its callee stands. -/
def call (callee : Node) (arguments : List Node) : Node :=
  .mk .call (.node callee) arguments callee.loc none

/-- A choice between two expressions. -/
def conditional (condition consequence otherwise : Node) (loc : Loc) : Node :=
  .mk .conditional (.literal .null) [condition, consequence, otherwise] loc none

/-- Definitions that hold in a body. -/
def letIn (definitions : List Node) (body : Node) (loc : Loc) : Node :=
  .mk .letIn (.node body) definitions loc none

/-- A function of some variables. -/
def mapTo (names : List Node) (body : Node) (loc : Loc) : Node :=
  .mk .mapTo (.node body) names loc none

/-- A definition of a name; it stands where its variable stands. -/
def definition (name : String) (right : Node) (loc : Loc) : Node :=
  .mk .definition (.text name) [.var name loc, right] loc none

end Node

end JamLang
