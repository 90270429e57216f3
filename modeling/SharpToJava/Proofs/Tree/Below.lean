import SharpToJava.Tree.Place
import SharpToJava.Tree.TypeText
import SharpToJava.Tree.ForParts

/-!
The nodes of a tree as one list, a node before what is below it. A query that goes below the
children of a node is a query on this list: `find?` is the first hit, and the tokens are those that
stand directly below some node of it. A property of every node of a tree passes to every node that
a rule can reach, also together with the nodes above it (`Place.Every`).
-/

namespace SharpToJava

namespace Node

/-- The node and every node below it. -/
def nodes (node : Node) : List Node := node :: node.descendants

@[simp] theorem mem_nodes_self (node : Node) : node ∈ node.nodes := by simp [nodes]

theorem mem_descendantsAmong {found : Node} {children : List Child} :
    found ∈ descendantsAmong children ↔ ∃ child, .node child ∈ children ∧ found ∈ child.nodes := by
  induction children with
  | nil => simp [descendantsAmong]
  | cons first rest ih =>
      cases first with
      | token token => simp [descendantsAmong, ih]
      | node node => simp [descendantsAmong, ih, nodes, or_assoc]

theorem mem_descendants {node found : Node} :
    found ∈ node.descendants ↔ ∃ child ∈ node.childNodes, found ∈ child.nodes := by
  cases node with
  | mk label children =>
      simp only [descendants, mem_descendantsAmong, mem_childNodes, Node.children]

theorem nodes_subset_of_mem_childNodes {node child : Node} (member : child ∈ node.childNodes) :
    child.nodes ⊆ node.nodes := by
  intro found below
  exact List.mem_cons_of_mem _ (mem_descendants.mpr ⟨child, member, below⟩)

/-- What is below a node of the tree is in the tree. -/
theorem nodes_subset_of_mem {node inner : Node} (member : inner ∈ node.nodes) :
    inner.nodes ⊆ node.nodes := by
  rcases List.mem_cons.mp member with rfl | below
  · exact List.Subset.refl _
  · obtain ⟨child, present, deeper⟩ := mem_descendants.mp below
    have smaller := size_lt_of_mem present
    exact List.Subset.trans (nodes_subset_of_mem deeper) (nodes_subset_of_mem_childNodes present)
termination_by node.size

theorem size_lt_of_mem_descendants {node found : Node} (below : found ∈ node.descendants) :
    found.size < node.size := by
  obtain ⟨child, present, deeper⟩ := mem_descendants.mp below
  have smaller := size_lt_of_mem present
  rcases List.mem_cons.mp deeper with rfl | deeper
  · exact smaller
  · exact Nat.lt_trans (size_lt_of_mem_descendants deeper) smaller
termination_by node.size

mutual
/-- Looking for a kind below a node finds the first node of that kind in the list. -/
theorem find?_eq_descendants_find? (kind : NodeKind) :
    ∀ node : Node, node.find? kind = node.descendants.find? (·.kind == kind)
  | .mk _ children => by
    simpa only [find?, descendants] using findAmong?_eq_descendantsAmong_find? kind children

theorem findAmong?_eq_descendantsAmong_find? (kind : NodeKind) :
    ∀ children : List Child,
      findAmong? kind children = (descendantsAmong children).find? (·.kind == kind)
  | [] => rfl
  | .token _ :: rest => by
    simpa only [findAmong?, descendantsAmong] using
      findAmong?_eq_descendantsAmong_find? kind rest
  | .node node :: rest => by
    have below := find?_eq_descendants_find? kind node
    have after := findAmong?_eq_descendantsAmong_find? kind rest
    simp only [findAmong?, descendantsAmong, List.find?_cons, List.find?_append, ← below, ← after]
    by_cases hit : node.kind = kind
    · simp [hit]
    · rw [if_neg hit, beq_false_of_ne hit]
      cases node.find? kind <;> rfl
end

theorem kind_of_find? {node found : Node} {kind : NodeKind}
    (hit : node.find? kind = some found) : found.kind = kind := by
  rw [find?_eq_descendants_find?] at hit
  simpa using List.find?_some hit

theorem kind_of_childOfKind? {node child : Node} {kind : NodeKind}
    (found : node.childOfKind? kind = some child) : child.kind = kind := by
  simpa using List.find?_some found

theorem mem_nodes_of_find? {node found : Node} {kind : NodeKind}
    (hit : node.find? kind = some found) : found ∈ node.nodes := by
  rw [find?_eq_descendants_find?] at hit
  exact List.mem_cons_of_mem _ (List.mem_of_find?_eq_some hit)

theorem mem_nodes_of_mem_typeArguments {node argument : Node}
    (member : argument ∈ node.typeArguments) : argument ∈ node.nodes := by
  unfold typeArguments at member
  split at member
  case h_1 list found =>
    exact nodes_subset_of_mem (mem_nodes_of_find? found)
      (nodes_subset_of_mem_childNodes member (mem_nodes_self argument))
  case h_2 => simp at member

theorem mem_childTokens {node : Node} {token : Token} :
    token ∈ node.childTokens ↔ .token token ∈ node.children := by
  constructor
  · intro member
    obtain ⟨element, present, isToken⟩ := List.mem_filterMap.mp member
    cases element with
    | token found =>
        simp only [Child.token?, Option.some.injEq] at isToken
        exact isToken ▸ present
    | node inner => simp [Child.token?] at isToken
  · intro present
    exact List.mem_filterMap.mpr ⟨.token token, present, rfl⟩

theorem mem_tokensAmong {token : Token} {children : List Child} :
    token ∈ tokensAmong children ↔
      .token token ∈ children ∨ ∃ child, .node child ∈ children ∧ token ∈ child.tokens := by
  induction children with
  | nil => simp [tokensAmong]
  | cons first rest ih =>
      cases first with
      | token first => simp [tokensAmong, ih, or_assoc]
      | node node => simp [tokensAmong, ih, or_and_right, exists_or, or_left_comm]

theorem mem_tokens_iff {node : Node} {token : Token} :
    token ∈ node.tokens ↔
      token ∈ node.childTokens ∨ ∃ child ∈ node.childNodes, token ∈ child.tokens := by
  cases node with
  | mk label children =>
      simp only [tokens, mem_tokensAmong, mem_childTokens, mem_childNodes, Node.children]

/-- The tokens of a tree are those that stand directly below its nodes. -/
theorem mem_tokens {node : Node} {token : Token} :
    token ∈ node.tokens ↔ ∃ inner ∈ node.nodes, token ∈ inner.childTokens := by
  constructor
  · intro member
    rcases mem_tokens_iff.mp member with direct | ⟨child, present, deeper⟩
    · exact ⟨node, mem_nodes_self node, direct⟩
    · have smaller := size_lt_of_mem present
      obtain ⟨inner, below, direct⟩ := mem_tokens.mp deeper
      exact ⟨inner, nodes_subset_of_mem_childNodes present below, direct⟩
  · rintro ⟨inner, below, direct⟩
    rcases List.mem_cons.mp below with rfl | below
    · exact mem_tokens_iff.mpr (.inl direct)
    · obtain ⟨child, present, deeper⟩ := mem_descendants.mp below
      have smaller := size_lt_of_mem present
      exact mem_tokens_iff.mpr (.inr ⟨child, present, mem_tokens.mpr ⟨inner, deeper, direct⟩⟩)
termination_by node.size

theorem firstText_eq {node : Node} {token : Token} (first : node.firstToken? = some token) :
    node.firstText = token.text := by
  simp only [firstText, first]

/-- A member access without a name has no child node at all. -/
theorem childNodes_eq_nil_of_memberName {node : Node} (absent : node.pick? .memberName = none) :
    node.childNodes = [] := by
  unfold pick? at absent
  split at absent
  · contradiction
  · exact List.getLast?_eq_none_iff.mp absent

theorem mem_tokens_of_firstToken? {node : Node} {token : Token}
    (first : node.firstToken? = some token) : token ∈ node.tokens :=
  List.mem_of_head? first

/-- A property of the node and of every node below it. -/
def Every (property : Node → Prop) (node : Node) : Prop := ∀ inner ∈ node.nodes, property inner

instance (property : Node → Prop) [DecidablePred property] (node : Node) :
    Decidable (node.Every property) :=
  inferInstanceAs (Decidable (∀ inner ∈ node.nodes, property inner))

variable {property : Node → Prop} {node inner : Node}

theorem Every.here (every : node.Every property) : property node := every node (mem_nodes_self node)

theorem Every.of_mem (every : node.Every property) (member : inner ∈ node.nodes) :
    inner.Every property :=
  fun deeper below => every deeper (nodes_subset_of_mem member below)

theorem Every.of_child (every : node.Every property) (member : inner ∈ node.childNodes) :
    inner.Every property :=
  every.of_mem (nodes_subset_of_mem_childNodes member (mem_nodes_self inner))

theorem every_mk {label : Label} {children : List Child} (here : property (.mk label children))
    (below : ∀ inner, .node inner ∈ children → inner.Every property) :
    (Node.mk label children).Every property := by
  intro inner member
  rcases List.mem_cons.mp member with rfl | below'
  · exact here
  · obtain ⟨child, present, deeper⟩ := mem_descendants.mp below'
    exact below child (mem_childNodes.mp present) inner deeper

theorem Every.of_pick? {slot : Slot} (every : node.Every property)
    (filled : node.pick? slot = some inner) : inner.Every property :=
  every.of_child (mem_of_pick? filled)

end Node

namespace Place

/-- A property of every node of the place: the node, those below it and those above it. -/
def Every (property : Node → Prop) (place : Place) : Prop :=
  place.node.Every property ∧ ∀ node ∈ place.above, property node

variable {property : Node → Prop} {place : Place} {child : Node}

theorem Every.here (every : place.Every property) : property place.node := every.1.here

theorem Every.enter (every : place.Every property) (member : child ∈ place.node.nodes) :
    (place.enter child).Every property := by
  constructor
  · exact every.1.of_mem member
  · intro node above
    rcases List.mem_cons.mp above with rfl | above
    · exact every.here
    · exact every.2 node above

theorem Every.enter_child (every : place.Every property) (member : child ∈ place.node.childNodes) :
    (place.enter child).Every property :=
  every.enter (Node.nodes_subset_of_mem_childNodes member (Node.mem_nodes_self child))

theorem Every.enter_pick? {slot : Slot} (every : place.Every property)
    (filled : place.node.pick? slot = some child) : (place.enter child).Every property :=
  every.enter_child (Node.mem_of_pick? filled)

theorem Every.enter_childOfKind? {kind : NodeKind} (every : place.Every property)
    (found : place.node.childOfKind? kind = some child) : (place.enter child).Every property :=
  every.enter_child (List.mem_of_find?_eq_some found)

theorem Every.enter_childrenOfKind {kind : NodeKind} (every : place.Every property)
    (member : child ∈ place.node.childrenOfKind kind) : (place.enter child).Every property :=
  every.enter_child (List.mem_filter.mp member).1

/-- An argument is two levels down: in the list that the slot holds. -/
theorem exists_of_mem_arguments {slot : Slot} {argument : Place}
    (member : argument ∈ place.arguments slot) :
    ∃ list node, list ∈ place.node.childNodes ∧ node ∈ list.childNodes ∧ node.kind = .argument ∧
      argument = (place.enter list).enter node := by
  unfold arguments at member
  split at member
  case h_1 list filled =>
    obtain ⟨node, present, rfl⟩ := List.mem_map.mp member
    obtain ⟨listed, kind⟩ := List.mem_filter.mp present
    exact ⟨list, node, Node.mem_of_pick? filled, listed, by simpa using kind, rfl⟩
  case h_2 => exact absurd member List.not_mem_nil

theorem Every.arguments {slot : Slot} {argument : Place} (every : place.Every property)
    (member : argument ∈ place.arguments slot) : argument.Every property := by
  obtain ⟨list, node, below, listed, -, rfl⟩ := exists_of_mem_arguments member
  exact (every.enter_child below).enter_child listed

theorem mem_nodes_of_mem_arguments {slot : Slot} {argument : Place}
    (member : argument ∈ place.arguments slot) : argument.node ∈ place.node.nodes := by
  obtain ⟨list, node, below, listed, -, rfl⟩ := exists_of_mem_arguments member
  exact Node.nodes_subset_of_mem_childNodes below
    (Node.nodes_subset_of_mem_childNodes listed (Node.mem_nodes_self node))

theorem kind_of_mem_arguments {slot : Slot} {argument : Place}
    (member : argument ∈ place.arguments slot) : argument.node.kind = .argument := by
  obtain ⟨list, node, -, -, kind, rfl⟩ := exists_of_mem_arguments member
  exact kind

theorem size_lt_of_mem_arguments {slot : Slot} {argument : Place}
    (member : argument ∈ place.arguments slot) : argument.size < place.size := by
  obtain ⟨list, node, below, listed, -, rfl⟩ := exists_of_mem_arguments member
  exact Nat.lt_trans (Node.size_lt_of_mem listed) (Node.size_lt_of_mem below)

end Place

end SharpToJava
