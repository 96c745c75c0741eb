import JamLang.Node.Fault

/-!
# Trees as outlines

An outline shows the parts of a node that are there, by name, on one line.  Of the children it
shows three at most.
-/

namespace JamLang.Node

/-- The number of children that an outline shows. -/
def outlineWidth : Nat := 3

mutual
/-- The outline of a tree. -/
def outline : Node → Except PrintFault String
  | .mk kind value children _ type => do
    let valuePart ← outlineValue value
    let typePart := (type.map (", type_=" ++ ·)).getD ""
    let shown ← outlines outlineWidth children
    let childrenPart :=
      match children with
      | [] => ""
      | _ :: _ => ", children=[" ++ shown ++ "]"
    pure ("ASTNode(" ++ kind.name ++ valuePart ++ typePart ++ childrenPart ++ ")")

/-- The value part of an outline, which is left out if there is no value. -/
def outlineValue : Value Node → Except PrintFault String
  | .literal .null => .ok ""
  | .literal (.bool value) => .ok (", value=" ++ if value then "True" else "False")
  | .literal (.int value) => do
    let text ← printInteger value
    pure (", value=" ++ text)
  | .text text => .ok (", value=" ++ Text.quoteString text)
  | .node node => do
    let text ← outline node
    pure (", value=" ++ text)

/-- The outlines of the first trees of a list; dots stand for those left out. -/
def outlines : Nat → List Node → Except PrintFault String
  | _, [] => .ok ""
  | 0, _ :: _ => .ok "..."
  | count + 1, node :: nodes => do
    let first ← outline node
    let rest ← outlines count nodes
    pure (if nodes.isEmpty then first else first ++ ", " ++ rest)
end

end JamLang.Node
