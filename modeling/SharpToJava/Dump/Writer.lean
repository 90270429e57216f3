import SharpToJava.Json.Basic
import SharpToJava.Tree.Node

/-!
The dump of a tree. A node goes by the name it came with, a token by the name of its kind, and
what is absent is left out; the children are always written.
-/

namespace SharpToJava

def Symbol.toDump (symbol : Symbol) : Json :=
  let containing := symbol.containingType.toList.map fun name => ("containingType", .string name)
  .object (("kind", .string symbol.kind.name) :: containing)

def Token.toDump (token : Token) : Json :=
  let role := token.role.toList.map fun role => ("role", .string role)
  .object (("token", .string token.kind.name) :: ("text", .string token.text) :: role)

/-- The fields of a node before its children. -/
def Label.toDumpFields (label : Label) : List (String × Json) :=
  ("kind", .string label.kindName) ::
    (label.role.toList.map fun role => ("role", .string role)) ++
    (label.typeName.toList.map fun name => ("type", .string name)) ++
    label.symbol.toList.map fun symbol => ("symbol", symbol.toDump)

namespace Node

mutual
def toDump : Node → Json
  | .mk label children =>
    .object (label.toDumpFields ++ [("children", .array (toDumps children))])

def toDumps : List Child → List Json
  | [] => []
  | .token token :: rest => token.toDump :: toDumps rest
  | .node node :: rest => node.toDump :: toDumps rest
end

end Node

end SharpToJava
