import JamLang.Proofs.Source.WellFormed
import JamLang.Proofs.Tree.Walk

/-!
# The node table

A well-formed tree is described as a whole, from its leaves up.  Whoever prints or stores a tree
goes through its nodes one at a time and relies on a table: the kind of a node says what its value
is, how many children it has and of which kinds, and whether it has a type.

Every part of a well-formed tree is well formed (`WellFormed.of_mem_nodes`), so each node of it
obeys its row of the table, and definitions stand nowhere but below a `let`.
-/

namespace JamLang.Node

/-! ## Parts of a well-formed tree -/

section

variable {holds : Node → Prop}

theorem forall_mem_nodes {node : Node} (ofNode : holds node)
    (ofValue : ∀ part ∈ nodesValue node.value, holds part)
    (ofChildren : ∀ part ∈ nodesAll node.children, holds part) :
    ∀ part ∈ node.nodes, holds part := by
  rw [nodes_eq_cons]
  exact List.forall_mem_cons.2 ⟨ofNode, List.forall_mem_append.2 ⟨ofValue, ofChildren⟩⟩

theorem forall_mem_nodesAll {trees : List Node}
    (ofTrees : ∀ tree ∈ trees, ∀ part ∈ tree.nodes, holds part) :
    ∀ part ∈ nodesAll trees, holds part := by
  induction trees with
  | nil => exact fun _ isPart => absurd isPart List.not_mem_nil
  | cons tree trees ih =>
    obtain ⟨ofFirst, ofRest⟩ := List.forall_mem_cons.1 ofTrees
    exact List.forall_mem_append.2 ⟨ofFirst, ih ofRest⟩

theorem noNodes : ∀ part ∈ ([] : List Node), holds part :=
  fun _ isPart => absurd isPart List.not_mem_nil

end

theorem IsVariable.formed_parts {node : Node} (isVariable : IsVariable node) :
    ∀ part ∈ node.nodes, ∃ role, WellFormed role part := by
  obtain ⟨name, loc, rfl, isName⟩ := isVariable
  exact forall_mem_nodes ⟨_, .var isName⟩ noNodes noNodes

/-- Whatever stands in a well-formed tree is well formed, in one of the two roles. -/
theorem WellFormed.of_mem_nodes {role : Role} {tree : Node} (formed : WellFormed role tree) :
    ∀ part ∈ tree.nodes, ∃ role, WellFormed role part := by
  induction formed with
  | integer fits => exact forall_mem_nodes ⟨_, .integer fits⟩ noNodes noNodes
  | boolean => exact forall_mem_nodes ⟨_, .boolean⟩ noNodes noNodes
  | null => exact forall_mem_nodes ⟨_, .null⟩ noNodes noNodes
  | var isName => exact forall_mem_nodes ⟨_, .var isName⟩ noNodes noNodes
  | primitive isPrimitive => exact forall_mem_nodes ⟨_, .primitive isPrimitive⟩ noNodes noNodes
  | unary isUnary formed ihOperand =>
    refine forall_mem_nodes ⟨_, .unary isUnary formed⟩ noNodes (forall_mem_nodesAll ?_)
    exact List.forall_mem_singleton.2 ihOperand
  | binary isBinary leftFormed rightFormed ihLeft ihRight =>
    refine forall_mem_nodes ⟨_, .binary isBinary leftFormed rightFormed⟩ noNodes
      (forall_mem_nodesAll ?_)
    exact List.forall_mem_cons.2 ⟨ihLeft, List.forall_mem_singleton.2 ihRight⟩
  | call calleeFormed argumentsFormed ihCallee ihArguments =>
    exact forall_mem_nodes ⟨_, .call calleeFormed argumentsFormed⟩ ihCallee
      (forall_mem_nodesAll ihArguments)
  | conditional conditionFormed consequenceFormed otherwiseFormed ihCondition ihConsequence
      ihOtherwise =>
    refine forall_mem_nodes ⟨_, .conditional conditionFormed consequenceFormed otherwiseFormed⟩
      noNodes (forall_mem_nodesAll ?_)
    exact List.forall_mem_cons.2 ⟨ihCondition,
      List.forall_mem_cons.2 ⟨ihConsequence, List.forall_mem_singleton.2 ihOtherwise⟩⟩
  | letIn notEmpty definitionsFormed bodyFormed ihDefinitions ihBody =>
    exact forall_mem_nodes ⟨_, .letIn notEmpty definitionsFormed bodyFormed⟩ ihBody
      (forall_mem_nodesAll ihDefinitions)
  | mapTo areVariables bodyFormed ihBody =>
    refine forall_mem_nodes ⟨_, .mapTo areVariables bodyFormed⟩ ihBody (forall_mem_nodesAll ?_)
    exact fun name isName => (areVariables name isName).formed_parts
  | definition isName rightFormed ihRight =>
    refine forall_mem_nodes ⟨_, .definition isName rightFormed⟩ noNodes (forall_mem_nodesAll ?_)
    exact List.forall_mem_cons.2 ⟨IsVariable.formed_parts ⟨_, _, rfl, isName⟩,
      List.forall_mem_singleton.2 ihRight⟩

/-! ## The table -/

/-- A literal and the type that is named after it; integers have no sign. -/
inductive IsTypedLiteral : Value Node → Option String → Prop where
  | int (number : Nat) : IsTypedLiteral (.literal (.int number)) (some "int")
  | bool (truth : Bool) : IsTypedLiteral (.literal (.bool truth)) (some "bool")
  | null : IsTypedLiteral (.literal .null) (some "null")

/-- The row of the table for the kind of the node; there is none for a kind outside of it. -/
def ObeysTable (node : Node) : Prop :=
  match node.kind with
  | .constant => IsTypedLiteral node.value node.type ∧ node.children = []
  | .var =>
    (∃ name, node.value = .text name ∧ IsVariableName name) ∧ node.children = [] ∧
      node.type = none
  | .primitive =>
    (∃ name ∈ Vocabulary.primitives, node.value = .text name) ∧ node.children = [] ∧
      node.type = none
  | .unary =>
    (∃ operator ∈ Vocabulary.unaryOperators, node.value = .text operator) ∧
      node.children.length = 1 ∧ node.type = none
  | .binary =>
    (∃ operator ∈ Vocabulary.binaryOperators, node.value = .text operator) ∧
      node.children.length = 2 ∧ node.type = none
  | .call => (∃ callee, node.value = .node callee) ∧ node.type = none
  | .conditional => node.value = .literal .null ∧ node.children.length = 3 ∧ node.type = none
  | .letIn =>
    (∃ body, node.value = .node body) ∧ node.children ≠ [] ∧
      (∀ child ∈ node.children, child.kind = .definition) ∧ node.type = none
  | .mapTo =>
    (∃ body, node.value = .node body) ∧ (∀ child ∈ node.children, child.kind = .var) ∧
      node.type = none
  | .definition =>
    (∃ name right, node.children = [name, right] ∧ name.kind = .var ∧ node.value = name.value) ∧
      node.type = none
  | .foreign _ _ => False

/-- No part of the node is a definition, unless the node is a `let` and the part a child of it. -/
structure PlacesDefinitions (node : Node) : Prop where
  inValue : ∀ part, node.value = .node part → part.kind ≠ .definition
  inChildren : ∀ child ∈ node.children, child.kind = .definition → node.kind = .letIn

/-- All nodes of the tree obey the table, and only a `let` has definitions. -/
structure FollowsTable (tree : Node) : Prop where
  rows : ∀ node ∈ tree.nodes, node.ObeysTable
  root : tree.kind ≠ .definition
  definitions : ∀ node ∈ tree.nodes, node.PlacesDefinitions

/-! ## Well-formed trees follow the table -/

section

variable {role : Role} {node : Node}

theorem WellFormed.kind_ne (formed : WellFormed .expression node) : node.kind ≠ .definition := by
  intro isDefinition
  cases formed <;> cases isDefinition

theorem WellFormed.kind_eq (formed : WellFormed .definition node) : node.kind = .definition := by
  cases formed
  rfl

theorem IsVariable.kind_eq (isVariable : IsVariable node) : node.kind = .var := by
  obtain ⟨name, loc, rfl, -⟩ := isVariable
  rfl

theorem WellFormed.obeysTable (formed : WellFormed role node) : node.ObeysTable := by
  cases formed with
  | @integer value => exact And.intro (.int value) rfl
  | @boolean value => exact And.intro (.bool value) rfl
  | null => exact And.intro .null rfl
  | var isName => exact And.intro ⟨_, rfl, isName⟩ ⟨rfl, rfl⟩
  | primitive isPrimitive => exact And.intro ⟨_, isPrimitive, rfl⟩ ⟨rfl, rfl⟩
  | unary isUnary => exact And.intro ⟨_, isUnary, rfl⟩ ⟨rfl, rfl⟩
  | binary isBinary => exact And.intro ⟨_, isBinary, rfl⟩ ⟨rfl, rfl⟩
  | call => exact And.intro ⟨_, rfl⟩ rfl
  | conditional => exact And.intro rfl ⟨rfl, rfl⟩
  | letIn notEmpty definitionsFormed =>
    exact And.intro ⟨_, rfl⟩
      ⟨notEmpty, fun child isChild => (definitionsFormed child isChild).kind_eq, rfl⟩
  | mapTo areVariables =>
    exact And.intro ⟨_, rfl⟩ ⟨fun child isChild => (areVariables child isChild).kind_eq, rfl⟩
  | definition => exact And.intro ⟨_, _, rfl, rfl, rfl⟩ rfl

theorem WellFormed.placesDefinitions (formed : WellFormed role node) :
    node.PlacesDefinitions := by
  have expressions {parts : List Node} (formed : ∀ part ∈ parts, WellFormed .expression part) :
      ∀ child ∈ parts, child.kind = .definition → node.kind = .letIn :=
    fun child isChild isDefinition => absurd isDefinition (formed child isChild).kind_ne
  have inNode {body : Node} (formed : WellFormed .expression body) :
      ∀ part, Value.node body = .node part → part.kind ≠ .definition := by
    rintro _ ⟨⟩
    exact formed.kind_ne
  cases formed with
  | integer | boolean | null | var | primitive => exact ⟨nofun, nofun⟩
  | unary _ operandFormed =>
    exact ⟨nofun, expressions (List.forall_mem_singleton.2 operandFormed)⟩
  | binary _ leftFormed rightFormed =>
    exact ⟨nofun, expressions
      (List.forall_mem_cons.2 ⟨leftFormed, List.forall_mem_singleton.2 rightFormed⟩)⟩
  | call calleeFormed argumentsFormed => exact ⟨inNode calleeFormed, expressions argumentsFormed⟩
  | conditional conditionFormed consequenceFormed otherwiseFormed =>
    exact ⟨nofun, expressions (List.forall_mem_cons.2 ⟨conditionFormed,
      List.forall_mem_cons.2 ⟨consequenceFormed, List.forall_mem_singleton.2 otherwiseFormed⟩⟩)⟩
  | letIn _ _ bodyFormed => exact ⟨inNode bodyFormed, fun _ _ _ => rfl⟩
  | mapTo areVariables bodyFormed =>
    refine ⟨inNode bodyFormed, fun child isChild isDefinition => ?_⟩
    rw [(areVariables child isChild).kind_eq] at isDefinition
    cases isDefinition
  | definition isName rightFormed =>
    exact ⟨nofun, expressions
      (List.forall_mem_cons.2 ⟨.var isName, List.forall_mem_singleton.2 rightFormed⟩)⟩

theorem WellFormed.followsTable {tree : Node} (formed : WellFormed .expression tree) :
    tree.FollowsTable where
  rows node isNode := by
    obtain ⟨role, formed⟩ := formed.of_mem_nodes node isNode
    exact formed.obeysTable
  root := formed.kind_ne
  definitions node isNode := by
    obtain ⟨role, formed⟩ := formed.of_mem_nodes node isNode
    exact formed.placesDefinitions

end

end JamLang.Node
