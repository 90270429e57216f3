import SharpToJava.Tree.Slot

/-!
Places in a tree: a node together with the nodes around it. Some rules depend on where a node
stands (a block inside a block, an `if` after an `else`, the initializer of a declared variable),
so the rules walk over places, and going to a child records the node it was reached from.
-/

namespace SharpToJava

structure Place where
  node : Node
  /-- The enclosing nodes, nearest first. -/
  above : List Node := []

namespace Place

variable {α : Type}

def kind (place : Place) : NodeKind := place.node.kind

def size (place : Place) : Nat := place.node.size

def parent? (place : Place) : Option Node := place.above.head?

/-- Whether the node stands directly inside a node of `kind`. -/
def isInside (place : Place) (kind : NodeKind) : Bool :=
  place.parent?.any (·.kind == kind)

/-- The place of a child of this node. -/
def enter (place : Place) (child : Node) : Place := ⟨child, place.node :: place.above⟩

@[simp] theorem node_enter (place : Place) (child : Node) : (place.enter child).node = child := rfl

@[simp] theorem parent?_enter (place : Place) (child : Node) :
    (place.enter child).parent? = some place.node := rfl

@[simp] theorem size_enter (place : Place) (child : Node) :
    (place.enter child).size = child.size := rfl

/-- The variable that the node initializes: the node is the value of a variable declarator. -/
def declaredVariable? (place : Place) : Option String :=
  match place.above with
  | clause :: declarator :: _ =>
    if clause.kind = .equalsValueClause ∧ declarator.kind = .variableDeclarator then
      some declarator.identifier
    else none
  | _ => none

def mapSlot (place : Place) (slot : Slot) (f : (inner : Place) → inner.size < place.size → α) :
    Option α :=
  place.node.mapSlot slot fun child smaller => f (place.enter child) smaller

def mapNodes (place : Place) (f : (inner : Place) → inner.size < place.size → α) : List α :=
  place.node.mapNodes fun child smaller => f (place.enter child) smaller

/-- The child nodes of one kind. -/
def mapKind (place : Place) (kind : NodeKind)
    (f : (inner : Place) → inner.size < place.size → α) : List α :=
  (place.node.childrenOfKind kind).attach.map fun child =>
    f (place.enter child.val) (Node.size_lt_of_mem (List.mem_filter.mp child.property).1)

/-- The arguments in the argument list that a slot holds. -/
def mapArguments (place : Place) (slot : Slot)
    (f : (inner : Place) → inner.size < place.size → α) : List α :=
  (place.mapSlot slot fun list smaller =>
    list.mapKind .argument fun argument deeper => f argument (Nat.lt_trans deeper smaller)).getD []

/-- The children in source order, tokens and nodes alike. -/
def mapChildren (place : Place) (onToken : Token → α)
    (onNode : (inner : Place) → inner.size < place.size → α) : List α :=
  place.node.children.attach.map fun child =>
    match child with
    | ⟨.token token, _⟩ => onToken token
    | ⟨.node inner, member⟩ => onNode (place.enter inner) (Node.size_lt_of_mem_children member)

-- Where the size is not asked for, these are maps over the children.

@[simp] theorem mapSlot_eq_map (place : Place) (slot : Slot) (f : Place → α) :
    place.mapSlot slot (fun inner _ => f inner) =
      (place.node.pick? slot).map fun child => f (place.enter child) := by
  simp only [mapSlot, Node.mapSlot_eq_map]

@[simp] theorem mapNodes_eq_map (place : Place) (f : Place → α) :
    place.mapNodes (fun inner _ => f inner) =
      place.node.childNodes.map fun child => f (place.enter child) := by
  simp only [mapNodes, Node.mapNodes_eq_map]

@[simp] theorem mapKind_eq_map (place : Place) (kind : NodeKind) (f : Place → α) :
    place.mapKind kind (fun inner _ => f inner) =
      (place.node.childrenOfKind kind).map fun child => f (place.enter child) := by
  simp [mapKind]

/-- The arguments in the argument list that a slot holds. -/
def arguments (place : Place) (slot : Slot) : List Place :=
  match place.node.pick? slot with
  | some list => (list.childrenOfKind .argument).map (place.enter list).enter
  | none => []

@[simp] theorem mapArguments_eq_map (place : Place) (slot : Slot) (f : Place → α) :
    place.mapArguments slot (fun inner _ => f inner) = (place.arguments slot).map f := by
  unfold mapArguments arguments
  simp only [mapKind_eq_map, mapSlot_eq_map]
  split <;> simp_all [enter]

@[simp] theorem mapChildren_eq_map (place : Place) (onToken : Token → α) (onNode : Place → α) :
    place.mapChildren onToken (fun inner _ => onNode inner) =
      place.node.children.map fun child =>
        match child with
        | .token token => onToken token
        | .node inner => onNode (place.enter inner) := by
  unfold mapChildren
  conv => rhs; rw [← List.attach_map_subtype_val place.node.children, List.map_map]
  apply List.map_congr_left
  rintro ⟨child, member⟩ _
  cases child <;> rfl

end Place

namespace Child

/-- Follows child indexes, counting nodes and tokens alike, and keeps the nodes on the way. -/
def follow? (above : List Node) : List Nat → Child → Option (List Node × Child)
  | [], child => some (above, child)
  | _ :: _, .token _ => none
  | index :: path, .node inner =>
    match inner.children[index]? with
    | some child => follow? (inner :: above) path child
    | none => none

end Child

/-- The place that a path of child indexes leads to, if there is a node. -/
def Node.place? (root : Node) (path : List Nat) : Option Place :=
  match Child.follow? [] path (.node root) with
  | some (above, .node node) => some ⟨node, above⟩
  | _ => none

end SharpToJava
