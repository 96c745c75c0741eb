import JamLang.Json
import JamLang.Node

/-!
# Trees as JSON documents

A node becomes an object with all five parts in a fixed order, the two halves of the location
apart.  Nothing of the tree is lost.
-/

namespace JamLang.Node

mutual
/-- The document of a tree. -/
def document : Node → Json
  | .mk kind value children loc type =>
    .object
      [("kind", .string kind.name), ("value", valueDocument value), ("line", .int loc.line),
        ("col", .int loc.column), ("type", (type.map Json.string).getD .null),
        ("children", .array (documents children))]

/-- The document of a value. -/
def valueDocument : Value Node → Json
  | .literal .null => .null
  | .literal (.bool value) => .bool value
  | .literal (.int value) => .int value
  | .text text => .string text
  | .node node => document node

/-- The documents of several trees. -/
def documents : List Node → List Json
  | [] => []
  | node :: nodes => document node :: documents nodes
end

end JamLang.Node
