import JamLang.Node
import Mathlib.Data.List.Perm.Basic

/-!
# Walks through a tree

A node does not keep its parts in the order in which they are written: the callee of a call and the
body of a `let` or a `map` are its value, whatever stands before or behind them.  A walk goes
through a tree in the order of its notation.  It comes to a node where the notation has a word, a
name or an operator of its own for it, and to no call and no definition, which have none
(`walk_perm_nodes`).
-/

namespace JamLang.Node

/-! ## All nodes -/

mutual
/-- The nodes of a tree. -/
def nodes : Node → List Node
  | .mk kind value children loc type =>
    .mk kind value children loc type :: (nodesValue value ++ nodesAll children)

def nodesValue : Value Node → List Node
  | .literal _ | .text _ => []
  | .node node => nodes node

def nodesAll : List Node → List Node
  | [] => []
  | node :: rest => nodes node ++ nodesAll rest
end

/-! ## In the order of the notation -/

mutual
/-- The nodes that have a token of their own, in the order of these tokens. -/
def walk : Node → List Node
  | .mk .call callee arguments _ _ => walkValue callee ++ walkAll arguments
  | .mk .definition name parts _ _ => walkValue name ++ walkAll parts
  | .mk .binary operator (left :: rest) loc type =>
    walk left ++
      .mk .binary operator (left :: rest) loc type :: (walkAll rest ++ walkValue operator)
  | .mk kind value children loc type =>
    .mk kind value children loc type :: (walkAll children ++ walkValue value)

def walkValue : Value Node → List Node
  | .literal _ | .text _ => []
  | .node node => walk node

def walkAll : List Node → List Node
  | [] => []
  | node :: rest => walk node ++ walkAll rest
end

section

variable {operator name type : String} {literal : Literal} {loc : Loc}
  {left right operand callee condition consequence otherwise body : Node} {children : List Node}

@[simp] theorem nodesAll_nil : nodesAll [] = [] := rfl

@[simp] theorem nodesAll_cons (node : Node) (rest : List Node) :
    nodesAll (node :: rest) = node.nodes ++ nodesAll rest := rfl

@[simp] theorem nodesAll_append (first second : List Node) :
    nodesAll (first ++ second) = nodesAll first ++ nodesAll second := by
  induction first with
  | nil => rfl
  | cons node first ih => simp [ih]

@[simp] theorem walkAll_nil : walkAll [] = [] := rfl

@[simp] theorem walkAll_cons (node : Node) (rest : List Node) :
    walkAll (node :: rest) = node.walk ++ walkAll rest := rfl

@[simp] theorem walkAll_append (first second : List Node) :
    walkAll (first ++ second) = walkAll first ++ walkAll second := by
  induction first with
  | nil => rfl
  | cons node first ih => simp [ih]

theorem nodes_eq_cons (node : Node) :
    node.nodes = node :: (nodesValue node.value ++ nodesAll node.children) := by
  cases node
  rfl

@[simp] theorem walk_constant :
    (constant literal type loc).walk = [constant literal type loc] := rfl

@[simp] theorem walk_var : (var name loc).walk = [var name loc] := rfl

@[simp] theorem walk_primitive : (primitive name loc).walk = [primitive name loc] := rfl

@[simp] theorem walk_unary :
    (unary operator operand loc).walk = unary operator operand loc :: operand.walk := by
  simp [unary, walk, walkValue]

@[simp] theorem walk_binary :
    (binary operator left right loc).walk =
      left.walk ++ binary operator left right loc :: right.walk := by
  simp [binary, walk, walkValue]

@[simp] theorem walk_call :
    (call callee children).walk = callee.walk ++ walkAll children := rfl

@[simp] theorem walk_conditional :
    (conditional condition consequence otherwise loc).walk =
      conditional condition consequence otherwise loc ::
        (condition.walk ++ consequence.walk ++ otherwise.walk) := by
  simp [conditional, walk, walkValue]

@[simp] theorem walk_letIn :
    (letIn children body loc).walk =
      letIn children body loc :: (walkAll children ++ body.walk) := rfl

@[simp] theorem walk_mapTo :
    (mapTo children body loc).walk =
      mapTo children body loc :: (walkAll children ++ body.walk) := rfl

@[simp] theorem walk_definition :
    (definition name right loc).walk = var name loc :: right.walk := by
  simp [definition, walk, walkValue]

end

/-! ## Each node once -/

/-- The node has a token of its own. -/
def hasToken (node : Node) : Bool :=
  node.kind ∉ [NodeKind.call, .definition]

/-- A walk comes to the node itself, if it has a token, and to everything below it. -/
theorem walk_perm_cons (node : Node) :
    node.walk.Perm
      ([node].filter hasToken ++ (walkValue node.value ++ walkAll node.children)) := by
  obtain ⟨kind, value, children, loc, type⟩ := node
  have behind : (walkAll children ++ walkValue value).Perm (walkValue value ++ walkAll children) :=
    List.perm_append_comm
  cases kind with
  | call | definition => exact .refl _
  | binary =>
    cases children with
    | nil => exact .cons _ behind
    | cons left rest =>
      -- An operator between its operands is visited between them.
      refine List.perm_middle.trans (.cons _ ?_)
      rw [← List.append_assoc]
      exact behind
  | constant | var | primitive | unary | conditional | letIn | mapTo | foreign =>
    exact .cons _ behind

mutual
/-- A walk comes to every node that has a token of its own, and to each of them once. -/
theorem walk_perm_nodes : ∀ node : Node, node.walk.Perm (node.nodes.filter hasToken)
  | .mk kind value children loc type => by
    have below := (walkValue_perm_nodes value).append (walkAll_perm_nodes children)
    have same : (mk kind value children loc type).nodes.filter hasToken =
        [mk kind value children loc type].filter hasToken ++
          ((nodesValue value).filter hasToken ++ (nodesAll children).filter hasToken) := by
      rw [← List.filter_append, ← List.filter_append]
      rfl
    rw [same]
    exact (walk_perm_cons _).trans (below.append_left _)

theorem walkValue_perm_nodes :
    ∀ value : Value Node, (walkValue value).Perm ((nodesValue value).filter hasToken)
  | .literal _ | .text _ => .refl _
  | .node node => walk_perm_nodes node

theorem walkAll_perm_nodes :
    ∀ nodes : List Node, (walkAll nodes).Perm ((nodesAll nodes).filter hasToken)
  | [] => .refl _
  | node :: rest => by
    rw [walkAll_cons, nodesAll_cons, List.filter_append]
    exact (walk_perm_nodes node).append (walkAll_perm_nodes rest)
end

end JamLang.Node
