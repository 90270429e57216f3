import SharpToJava.Tree.Node

/-!
Slots of a node. A rule asks for a child by the part it plays; a dump without roles still has the
child in its usual position, so a slot names both, and the role wins.
-/

namespace SharpToJava

/-- A position among the child nodes of a node. -/
inductive Position where
  | first
  | second
  | last
  /-- The last child of at least two. -/
  | lastOfSeveral
  /-- The first child of this kind. -/
  | ofKind (kind : NodeKind)
  /-- The first child of any other kind. -/
  | notOfKind (kind : NodeKind)
  | nowhere
  deriving DecidableEq, Repr

/-- A child is found by its role, or by its position if no child plays the role. -/
structure Slot where
  role : String
  position : Position
  deriving DecidableEq, Repr

namespace Slot

def expression : Slot := ⟨"expression", .first⟩
def operand : Slot := ⟨"operand", .first⟩
def castOperand : Slot := ⟨"expression", .last⟩
def left : Slot := ⟨"left", .first⟩
def right : Slot := ⟨"right", .lastOfSeveral⟩
/-- The right side of a qualified name, which is also its left side if there is one part only. -/
def lastPart : Slot := ⟨"right", .last⟩
def memberName : Slot := ⟨"name", .last⟩
def namespaceName : Slot := ⟨"name", .first⟩
def callArguments : Slot := ⟨"arguments", .ofKind .argumentList⟩
def indexArguments : Slot := ⟨"arguments", .ofKind .bracketedArgumentList⟩
def initializer : Slot := ⟨"initializer", .ofKind .objectInitializer⟩
def type : Slot := ⟨"type", .first⟩
/-- A cast and an object creation name their type by role alone. -/
def statedType : Slot := ⟨"type", .nowhere⟩
def elementType : Slot := ⟨"type", .notOfKind .arrayRank⟩
def condition : Slot := ⟨"condition", .first⟩
def branch : Slot := ⟨"statement", .second⟩
def elseBranch : Slot := ⟨"else", .ofKind .elseClause⟩
def elseStatement : Slot := ⟨"statement", .first⟩
def declaration : Slot := ⟨"declaration", .ofKind .variableDecl⟩
def value : Slot := ⟨"value", .first⟩

end Slot

namespace Node

def at? (node : Node) : Position → Option Node
  | .first => node.childNodes.head?
  | .second => node.childNodes[1]?
  | .last => node.childNodes.getLast?
  | .lastOfSeveral => node.childNodes.tail.getLast?
  | .ofKind kind => node.childNodes.find? (·.kind == kind)
  | .notOfKind kind => node.childNodes.find? (·.kind != kind)
  | .nowhere => none

def pick? (node : Node) (slot : Slot) : Option Node :=
  match node.slot? slot.role with
  | some child => some child
  | none => node.at? slot.position

/-- The text of an operator: the token with that role, or the first token. -/
def operator (node : Node) : String :=
  match node.childTokens.find? (·.role == some "operator") with
  | some token => token.text
  | none =>
    match node.childTokens.head? with
    | some token => token.text
    | none => ""

theorem mem_of_at? {node child : Node} {position : Position}
    (found : node.at? position = some child) : child ∈ node.childNodes := by
  cases position with
  | first => exact List.mem_of_head? found
  | second => exact List.mem_of_getElem? found
  | last => exact List.mem_of_getLast? found
  | lastOfSeveral => exact List.mem_of_mem_tail (List.mem_of_getLast? found)
  | ofKind kind => exact List.mem_of_find?_eq_some found
  | notOfKind kind => exact List.mem_of_find?_eq_some found
  | nowhere => simp [at?] at found

theorem mem_of_pick? {node child : Node} {slot : Slot}
    (found : node.pick? slot = some child) : child ∈ node.childNodes := by
  unfold pick? at found
  split at found
  case h_1 filled =>
    simp only [Option.some.injEq] at found
    subst found
    exact List.mem_of_find?_eq_some filled
  case h_2 => exact mem_of_at? found

theorem size_lt_of_pick? {node child : Node} {slot : Slot}
    (found : node.pick? slot = some child) : child.size < node.size :=
  size_lt_of_mem (mem_of_pick? found)

variable {α : Type}

/-- The function is told that the child is smaller, so that a recursion may pass itself. Where it
has no use for that, this is a plain map. -/
def mapSlot (node : Node) (slot : Slot) (f : (child : Node) → child.size < node.size → α) :
    Option α :=
  match found : node.pick? slot with
  | some child => some (f child (size_lt_of_pick? found))
  | none => none

def mapNodes (node : Node) (f : (child : Node) → child.size < node.size → α) : List α :=
  node.childNodes.attach.map fun child => f child.val (size_lt_of_mem child.property)

@[simp] theorem mapSlot_eq_map (node : Node) (slot : Slot) (f : Node → α) :
    node.mapSlot slot (fun child _ => f child) = (node.pick? slot).map f := by
  unfold mapSlot
  split <;> simp_all

@[simp] theorem mapNodes_eq_map (node : Node) (f : Node → α) :
    node.mapNodes (fun child _ => f child) = node.childNodes.map f := by
  simp [mapNodes]

end Node

end SharpToJava
