import SharpToJava.Tree.Kind

/-!
The syntax tree of one compilation unit: nodes over an ordered list of child nodes and tokens.
What an analyser knows about a node (its static type, the symbol it names) is written on the node.

The queries of this module look at the children of a node; `find?`, `tokens` and `descendants` go
below them. `size_lt_of_mem` is the measure by which every recursion over a tree ends.
-/

namespace SharpToJava

structure Token where
  kind : TokenKind
  text : String
  /-- The part the token plays in its node, where the dump says so. -/
  role : Option String := none
  deriving DecidableEq, Repr, Inhabited

structure Symbol where
  kind : SymbolKind
  containingType : Option String := none
  deriving DecidableEq, Repr, Inhabited

/-- What a node says of itself, its children apart. -/
structure Label where
  kind : NodeKind
  /-- The name in the dump, where it is not the kind's own. -/
  rawName : Option String := none
  /-- The part the node plays in its parent, where the dump says so. -/
  role : Option String := none
  typeName : Option String := none
  symbol : Option Symbol := none
  deriving DecidableEq, Repr, Inhabited

/-- The name the dump used. An empty name says nothing and gives way to the kind's own. -/
def Label.kindName (label : Label) : String :=
  match label.rawName with
  | none | some "" => label.kind.name
  | some raw => raw

mutual
inductive Node where
  | mk (label : Label) (children : List Child)

/-- Nodes and tokens stand in one list, in source order. -/
inductive Child where
  | token (token : Token)
  | node (node : Node)
end

namespace Child

def node? : Child → Option Node
  | .token _ => none
  | .node found => some found

def token? : Child → Option Token
  | .token found => some found
  | .node _ => none

end Child

namespace Node

mutual
/-- Whether two trees are equal, decided node by node. -/
def decEqNode : ∀ first second : Node, Decidable (first = second)
  | .mk label children, .mk other others =>
    match decEq label other, decEqChildren children others with
    | isTrue same, isTrue alike => isTrue (same ▸ alike ▸ rfl)
    | isFalse differ, _ => isFalse fun equal => differ (Node.mk.inj equal).1
    | _, isFalse differ => isFalse fun equal => differ (Node.mk.inj equal).2

def decEqChildren : ∀ first second : List Child, Decidable (first = second)
  | [], [] => isTrue rfl
  | [], _ :: _ => isFalse nofun
  | _ :: _, [] => isFalse nofun
  | .token _ :: _, .node _ :: _ => isFalse nofun
  | .node _ :: _, .token _ :: _ => isFalse nofun
  | .token token :: rest, .token other :: others =>
    match decEq token other, decEqChildren rest others with
    | isTrue same, isTrue alike => isTrue (same ▸ alike ▸ rfl)
    | isFalse differ, _ => isFalse fun equal => differ (Child.token.inj (List.cons.inj equal).1)
    | _, isFalse differ => isFalse fun equal => differ (List.cons.inj equal).2
  | .node node :: rest, .node other :: others =>
    match decEqNode node other, decEqChildren rest others with
    | isTrue same, isTrue alike => isTrue (same ▸ alike ▸ rfl)
    | isFalse differ, _ => isFalse fun equal => differ (Child.node.inj (List.cons.inj equal).1)
    | _, isFalse differ => isFalse fun equal => differ (List.cons.inj equal).2
end

instance : DecidableEq Node := decEqNode

def label : Node → Label
  | .mk label _ => label

def children : Node → List Child
  | .mk _ children => children

def kind (node : Node) : NodeKind := node.label.kind

def role (node : Node) : Option String := node.label.role

def typeName (node : Node) : Option String := node.label.typeName

def symbol (node : Node) : Option Symbol := node.label.symbol

def kindName (node : Node) : String := node.label.kindName

instance : Inhabited Node := ⟨.mk default []⟩

def childNodes (node : Node) : List Node := node.children.filterMap Child.node?

def childTokens (node : Node) : List Token := node.children.filterMap Child.token?

/-- The first child node that plays `role`. -/
def slot? (node : Node) (role : String) : Option Node :=
  node.childNodes.find? (·.role == some role)

def slots (node : Node) (role : String) : List Node :=
  node.childNodes.filter (·.role == some role)

def token? (node : Node) (kind : TokenKind) : Option Token :=
  node.childTokens.find? (·.kind == kind)

/-- The text of the first identifier among the children, empty without one. -/
def identifier (node : Node) : String :=
  match node.token? .identifier with
  | some token => token.text
  | none => ""

def modifiers (node : Node) : List Token := node.childTokens.filter (·.kind.isModifier)

def childrenOfKind (node : Node) (kind : NodeKind) : List Node :=
  node.childNodes.filter (·.kind == kind)

def childOfKind? (node : Node) (kind : NodeKind) : Option Node :=
  node.childNodes.find? (·.kind == kind)

def firstNode? (node : Node) : Option Node := node.childNodes.head?

def lastNode? (node : Node) : Option Node := node.childNodes.getLast?

mutual
/-- The first node of `kind` below this one: a child comes before what is below it, and that
before the next child. -/
def find? (kind : NodeKind) : Node → Option Node
  | .mk _ children => findAmong? kind children

def findAmong? (kind : NodeKind) : List Child → Option Node
  | [] => none
  | .token _ :: rest => findAmong? kind rest
  | .node node :: rest =>
    if node.kind = kind then some node
    else
      match node.find? kind with
      | some found => some found
      | none => findAmong? kind rest
end

mutual
/-- Every token of the tree, in source order. -/
def tokens : Node → List Token
  | .mk _ children => tokensAmong children

def tokensAmong : List Child → List Token
  | [] => []
  | .token token :: rest => token :: tokensAmong rest
  | .node node :: rest => node.tokens ++ tokensAmong rest
end

def firstToken? (node : Node) : Option Token := node.tokens.head?

/-- The text of the first token of the tree, empty without one. -/
def firstText (node : Node) : String :=
  match node.firstToken? with
  | some token => token.text
  | none => ""

mutual
/-- Every node below this one, a node before what is below it. -/
def descendants : Node → List Node
  | .mk _ children => descendantsAmong children

def descendantsAmong : List Child → List Node
  | [] => []
  | .token _ :: rest => descendantsAmong rest
  | .node node :: rest => node :: (node.descendants ++ descendantsAmong rest)
end

mutual
/-- The number of nodes of the tree. -/
def size : Node → Nat
  | .mk _ children => sizeAmong children + 1

def sizeAmong : List Child → Nat
  | [] => 0
  | .token _ :: rest => sizeAmong rest
  | .node node :: rest => node.size + sizeAmong rest
end

theorem size_le_sizeAmong {node : Node} {children : List Child} (member : .node node ∈ children) :
    node.size ≤ sizeAmong children := by
  induction children with
  | nil => simp at member
  | cons child rest ih =>
      rcases List.mem_cons.mp member with rfl | inRest
      · simp only [sizeAmong]
        omega
      · cases child with
        | token token => simpa only [sizeAmong] using ih inRest
        | node first =>
            have bound := ih inRest
            simp only [sizeAmong]
            omega

theorem mem_childNodes {node child : Node} :
    child ∈ node.childNodes ↔ .node child ∈ node.children := by
  constructor
  · intro member
    obtain ⟨element, present, isNode⟩ := List.mem_filterMap.mp member
    cases element with
    | token token => simp [Child.node?] at isNode
    | node found =>
        simp only [Child.node?, Option.some.injEq] at isNode
        exact isNode ▸ present
  · intro present
    exact List.mem_filterMap.mpr ⟨.node child, present, rfl⟩

theorem size_lt_of_mem_children {node child : Node} (member : .node child ∈ node.children) :
    child.size < node.size := by
  cases node with
  | mk label children =>
      have bound : child.size ≤ sizeAmong children := size_le_sizeAmong member
      simp only [size]
      omega

/-- A child is smaller than its parent. -/
theorem size_lt_of_mem {node child : Node} (member : child ∈ node.childNodes) :
    child.size < node.size :=
  size_lt_of_mem_children (mem_childNodes.mp member)

mutual
theorem size_lt_of_find? {kind : NodeKind} {found : Node} :
    ∀ {node : Node}, node.find? kind = some found → found.size < node.size
  | .mk _ children, result => by
    have bound : found.size ≤ sizeAmong children :=
      size_le_of_findAmong? (by simpa only [find?] using result)
    simp only [size]
    omega

theorem size_le_of_findAmong? {kind : NodeKind} {found : Node} :
    ∀ {children : List Child}, findAmong? kind children = some found →
      found.size ≤ sizeAmong children
  | [], result => by simp [findAmong?] at result
  | .token _ :: rest, result => by
    have bound : found.size ≤ sizeAmong rest :=
      size_le_of_findAmong? (by simpa only [findAmong?] using result)
    simpa only [sizeAmong] using bound
  | .node node :: rest, result => by
    simp only [findAmong?] at result
    simp only [sizeAmong]
    split at result
    · simp only [Option.some.injEq] at result
      subst result
      omega
    · split at result
      case h_1 inner deeper =>
        have bound := size_lt_of_find? deeper
        simp only [Option.some.injEq] at result
        subst result
        omega
      case h_2 =>
        have bound := size_le_of_findAmong? result
        omega
end

end Node

end SharpToJava
