import JamLang.Node
import JamLang.Text.Numeral

/-!
# Trees that cannot be printed

A tree made by hand need not have the shape that its kinds ask for, and it may hold integers that
are too long to be written.
-/

namespace JamLang

/-- What a value part is. -/
inductive ValueSort where
  | nothing
  | boolean
  | integer
  | text
  | node
  deriving DecidableEq, Repr

/-- The name of a sort of values. -/
def ValueSort.name : ValueSort → String
  | .nothing => "NoneType"
  | .boolean => "bool"
  | .integer => "int"
  | .text => "str"
  | .node => "ASTNode"

/-- The sort of a value. -/
def Value.sort {α : Type} : Value α → ValueSort
  | .literal .null => .nothing
  | .literal (.bool _) => .boolean
  | .literal (.int _) => .integer
  | .text _ => .text
  | .node _ => .node

/-- Why a tree cannot be printed. -/
inductive PrintFault where
  /-- A unary operation has no operand. -/
  | noOperand
  /-- A node has fewer parts than its kind asks for. -/
  | tooFewParts (wanted got : Nat)
  /-- A node has more parts than its kind asks for. -/
  | tooManyParts (wanted : Nat)
  /-- Where a node belongs stands another value. -/
  | noNode (found : ValueSort)
  /-- Nodes of this kind have no notation. -/
  | unknownKind (name : String)
  /-- An integer is too long. -/
  | numeral (fault : Text.NumeralFault)
  deriving DecidableEq, Repr

/-- The text of a fault. -/
def PrintFault.message : PrintFault → String
  | .noOperand => "list index out of range"
  | .tooFewParts wanted got =>
    "not enough values to unpack (expected " ++ wanted.repr ++ ", got " ++ got.repr ++ ")"
  | .tooManyParts wanted => "too many values to unpack (expected " ++ wanted.repr ++ ")"
  | .noNode found => "Expected ASTNode, got " ++ found.name
  | .unknownKind name => "Cannot render node kind '" ++ name ++ "'"
  | .numeral fault => fault.message

namespace PrintFault

/-- The fault of a node whose number of parts is not the one its kind asks for. -/
def wrongCount (wanted got : Nat) : PrintFault :=
  if got < wanted then .tooFewParts wanted got else .tooManyParts wanted

end PrintFault

/-- An integer in a printed tree. -/
def printInteger (value : Int) : Except PrintFault String :=
  (Text.writeInteger value).mapError .numeral

end JamLang
