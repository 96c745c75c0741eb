import JamLang.Node.Fault

/-!
# Trees as source text

Every binary operation stands in parentheses, so that the text shows how operands were grouped.
An operand that would swallow what follows it (a conditional, a `let` or a `map`) stands in
parentheses too, and so does a callee that is not a mere name.
-/

namespace JamLang

/-- The text in parentheses. -/
def inParens (text : String) : String :=
  "(" ++ text ++ ")"

/-- Texts with a separator between them. -/
def joinWith (separator : String) (texts : List String) : String :=
  separator.intercalate texts

namespace Node

/-- Nodes whose text reaches as far to the right as it can. -/
def isOpenEnded (node : Node) : Bool :=
  node.kind ∈ [NodeKind.conditional, .letIn, .mapTo]

/-- Nodes that may be called without parentheses. -/
def isName (node : Node) : Bool :=
  node.kind ∈ [NodeKind.var, .primitive]

/-- A literal counts as true unless it is nothing, false or zero. -/
def isTruthy : Value Node → Bool
  | .literal .null => false
  | .literal (.bool value) => value
  | .literal (.int value) => value ≠ 0
  | .text text => text ≠ ""
  | .node _ => true

/-- The text of a node where it is an operand. -/
def asOperand (node : Node) (text : String) : String :=
  if node.isOpenEnded then inParens text else text

/-- The text of a node where it is called. -/
def asCallee (node : Node) (text : String) : String :=
  if node.isName then text else inParens text

mutual
/-- The source text of a tree. -/
def source : Node → Except PrintFault String
  | .mk kind value children _ type =>
    match kind with
    | .constant =>
      if type = some "bool" then .ok (if isTruthy value then "true" else "false")
      else if type = some "null" then .ok "null"
      else shownValue value
    | .var => shownValue value
    | .primitive => shownValue value
    | .unary => do
      let operator ← shownValue value
      match children with
      | [] => .error .noOperand
      | operand :: _ =>
        let text ← source operand
        pure (operator ++ " " ++ asOperand operand text)
    | .binary =>
      match children with
      | [left, right] => do
        let leftText ← source left
        let operator ← shownValue value
        let rightText ← source right
        pure (inParens
          (asOperand left leftText ++ " " ++ operator ++ " " ++ asOperand right rightText))
      | parts => .error (.wrongCount 2 parts.length)
    | .call => do
      let arguments ← sources children
      let callee ← calleeSource value
      pure (callee ++ inParens (joinWith ", " arguments))
    | .conditional =>
      match children with
      | [condition, consequence, otherwise] => do
        let condition ← source condition
        let consequence ← source consequence
        let otherwise ← source otherwise
        pure ("if " ++ condition ++ " then " ++ consequence ++ " else " ++ otherwise)
      | parts => .error (.wrongCount 3 parts.length)
    | .letIn => do
      let definitions ← sources children
      let body ← bodySource value
      pure ("let " ++ joinWith " " definitions ++ " in " ++ body)
    | .mapTo => do
      let names ← sources children
      let body ← bodySource value
      let names := joinWith ", " names
      pure ((if names = "" then "map to" else "map " ++ names ++ " to") ++ " " ++ body)
    | .definition =>
      match children with
      | [name, right] => do
        let name ← source name
        let right ← source right
        pure (name ++ " := " ++ right ++ ";")
      | parts => .error (.wrongCount 2 parts.length)
    | .foreign name _ => .error (.unknownKind name)

/-- A value written into a text as it is. -/
def shownValue : Value Node → Except PrintFault String
  | .literal .null => .ok "None"
  | .literal (.bool value) => .ok (if value then "True" else "False")
  | .literal (.int value) => printInteger value
  | .text text => .ok text
  | .node node => source node

/-- A node that has to be there, as the body of a `let` or a `map`. -/
def bodySource : Value Node → Except PrintFault String
  | .node node => source node
  | .literal literal => .error (.noNode (Value.literal (α := Node) literal).sort)
  | .text _ => .error (.noNode .text)

/-- What is called. -/
def calleeSource : Value Node → Except PrintFault String
  | .node node => do
    let text ← source node
    pure (asCallee node text)
  | .literal literal => .error (.noNode (Value.literal (α := Node) literal).sort)
  | .text _ => .error (.noNode .text)

/-- Several trees, one after the other. -/
def sources : List Node → Except PrintFault (List String)
  | [] => .ok []
  | node :: nodes => do
    let first ← source node
    let rest ← sources nodes
    pure (first :: rest)
end

end Node

end JamLang
