import JamLang.Fault
import JamLang.Node

/-!
# What a single token stands for

Constants have a literal value, operator tokens stand for an operator before or between operands,
and constants and names become the leaves of a tree.
-/

namespace JamLang

namespace Token

/-- The value of a constant. -/
def literal (token : Token) : Except Fault Literal :=
  match token.kind with
  | .integer =>
    match Text.readInteger token.text with
    | .ok value => .ok (.int value)
    | .error fault => .error (.numeral fault)
  | .boolean => .ok (.bool (token.text = "true"))
  | .null => .ok .null
  | _ => .error (.notConstant token)

/-- The operator that stands before an operand. -/
def unaryOperator (token : Token) : Except Fault String :=
  if token.isUnaryOperator then .ok token.text
  else .error (.grammar (.unexpected (some token) .unaryOperator))

/-- The operator that stands between operands. -/
def binaryOperator (token : Token) : Except Fault String :=
  if token.isBinaryOperator then .ok token.text
  else .error (.grammar (.unexpected (some token) .binaryOperator))

end Token

namespace Node

/-- The leaf of a constant, whose type is named after the kind of the token. -/
def constantLeaf (token : Token) (type : String) : Except Fault Node :=
  match token.literal with
  | .ok literal => .ok (.constant literal type token.loc)
  | .error fault => .error fault

/-- The leaf of a token. -/
def leaf (token : Token) : Except Fault Node :=
  match token.kind with
  | .integer => constantLeaf token "int"
  | .boolean => constantLeaf token "bool"
  | .null => constantLeaf token "null"
  | .identifier => .ok (.var token.text token.loc)
  | .primitive => .ok (.primitive token.text token.loc)
  | kind => .error (.noLeaf kind)

end Node

end JamLang
