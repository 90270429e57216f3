import SharpToJava.Tree.Slot

/-!
The source text of a type, in one spelling whatever blanks the source had: `List<int, string>`,
`System.Text`, `int[][]`, `int?`. A base type drops the arguments of its constructor call, and a
node that is no type is the text of its tokens.
-/

namespace SharpToJava.Node

/-- The arguments of a generic name: the nodes of the first argument list below it. -/
def typeArguments (node : Node) : List Node :=
  match node.find? .typeArgumentList with
  | some list => list.childNodes
  | none => []

theorem size_lt_of_mem_typeArguments {node argument : Node}
    (member : argument ∈ node.typeArguments) : argument.size < node.size := by
  unfold typeArguments at member
  split at member
  case h_1 list found => exact Nat.lt_trans (size_lt_of_mem member) (size_lt_of_find? found)
  case h_2 => simp at member

/-- An array type without a rank specifier still has one dimension. -/
def rankCount (node : Node) : Nat := max (node.childrenOfKind .arrayRank).length 1

def tokenText (node : Node) : String := String.join (node.tokens.map (·.text))

def typeText (node : Node) : String :=
  match node.kind with
  | .identifierName => node.identifier
  | .genericName =>
    let arguments := node.typeArguments.attach.map fun argument => argument.val.typeText
    node.identifier ++ "<" ++ ", ".intercalate arguments ++ ">"
  | .predefinedType | .simpleBaseType => node.firstText
  | .qualifiedName =>
    (node.mapSlot .left fun part _ => part.typeText).getD "" ++ "." ++
      (node.mapSlot .lastPart fun part _ => part.typeText).getD ""
  | .arrayType =>
    (node.mapSlot .elementType fun element _ => element.typeText).getD "" ++
      String.join (List.replicate node.rankCount "[]")
  | .nullableType =>
    ((node.mapNodes fun inner _ => inner.typeText).head?).getD "" ++ "?"
  | _ => node.tokenText
termination_by node.size
decreasing_by
  · exact size_lt_of_mem_typeArguments argument.property
  all_goals assumption

/-- The text of the type in a slot, empty if the slot is. -/
def slotTypeText (node : Node) (slot : Slot) : String :=
  match node.pick? slot with
  | some type => type.typeText
  | none => ""

end SharpToJava.Node
