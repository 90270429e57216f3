import SharpToJava.Decl.Harvest
import SharpToJava.Proofs.Tree.Below

/-!
The order in which a tree is searched. A path of child indexes leads to a node, and in the order of
paths a node comes before what is below it and that before the next child. The nodes below a node
are listed in this order, so looking for a kind gives the node on the first path to one of that
kind.
-/

namespace SharpToJava

/-- Where a path leads does not depend on what is above its start. -/
theorem Child.map_snd_follow? (above others : List Node) (path : List Nat) (child : Child) :
    (follow? above path child).map Prod.snd = (follow? others path child).map Prod.snd := by
  induction path generalizing above others child with
  | nil => rfl
  | cons index path ih =>
      cases child with
      | token token => rfl
      | node inner =>
          simp only [follow?]
          cases inner.children[index]? with
          | none => rfl
          | some child => exact ih _ _ child

namespace Node

/-- The node that a path of child indexes leads to. -/
def below? (node : Node) (path : List Nat) : Option Node := (node.place? path).map Place.node

theorem below?_eq (node : Node) (path : List Nat) :
    node.below? path = ((Child.follow? [] path (.node node)).map Prod.snd).bind Child.node? := by
  unfold below? place?
  cases Child.follow? [] path (.node node) with
  | none => rfl
  | some reached =>
      obtain ⟨above, child⟩ := reached
      cases child <;> rfl

/-- A path goes on from the child that its first index names. -/
theorem below?_cons (node : Node) (index : Nat) (path : List Nat) :
    node.below? (index :: path) =
      (node.children[index]?.bind Child.node?).bind (·.below? path) := by
  rw [below?_eq, Child.follow?]
  cases node.children[index]? with
  | none => rfl
  | some child =>
      cases child with
      | token token => cases path <;> rfl
      | node inner =>
          simp only [Option.bind_some, Child.node?]
          rw [below?_eq, Child.map_snd_follow? _ []]

mutual
/-- Every node below this one with its path, a node before what is below it. -/
def pathed : Node → List (List Nat × Node)
  | .mk _ children => pathedAmong 0 children

/-- The same for children from an index on. -/
def pathedAmong (index : Nat) : List Child → List (List Nat × Node)
  | [] => []
  | .token _ :: rest => pathedAmong (index + 1) rest
  | .node node :: rest =>
    ([index], node) ::
      (node.pathed.map (fun entry => (index :: entry.1, entry.2)) ++ pathedAmong (index + 1) rest)
end

mutual
theorem map_snd_pathed : ∀ node : Node, node.pathed.map Prod.snd = node.descendants
  | .mk _ children => by
    rw [pathed, descendants]
    exact map_snd_pathedAmong 0 children

theorem map_snd_pathedAmong : ∀ (index : Nat) (children : List Child),
    (pathedAmong index children).map Prod.snd = descendantsAmong children
  | _, [] => by rw [pathedAmong, descendantsAmong, List.map_nil]
  | index, .token _ :: rest => by
    rw [pathedAmong, descendantsAmong]
    exact map_snd_pathedAmong (index + 1) rest
  | index, .node node :: rest => by
    have inside := map_snd_pathed node
    have after := map_snd_pathedAmong (index + 1) rest
    rw [pathedAmong, descendantsAmong, List.map_cons, List.map_append, List.map_map, after,
      ← inside]
    rfl
end

/-- The path leads to the node by way of one of the children, which are counted from an index on. -/
def LeadsAmong (start : Nat) (children : List Child) (path : List Nat) (inner : Node) : Prop :=
  ∃ index rest, path = (start + index) :: rest ∧
    (children[index]?.bind Child.node?).bind (·.below? rest) = some inner

theorem leadsAmong_cons {start : Nat} {child : Child} {later : List Child} {path : List Nat}
    {inner : Node} :
    LeadsAmong start (child :: later) path inner ↔
      (∃ rest, path = start :: rest ∧ child.node?.bind (·.below? rest) = some inner) ∨
        LeadsAmong (start + 1) later path inner := by
  unfold LeadsAmong
  constructor
  · intro found
    obtain ⟨index, rest, rfl, reached⟩ := found
    cases index with
    | zero => exact .inl ⟨rest, rfl, reached⟩
    | succ index => exact .inr ⟨index, rest, by rw [Nat.add_right_comm, Nat.add_assoc], reached⟩
  · intro found
    rcases found with here | beside
    · obtain ⟨rest, rfl, reached⟩ := here
      exact ⟨0, rest, rfl, reached⟩
    · obtain ⟨index, rest, rfl, reached⟩ := beside
      exact ⟨index + 1, rest, by rw [Nat.add_right_comm, Nat.add_assoc], reached⟩

theorem leadsAmong_children {node : Node} {path : List Nat} {inner : Node} :
    LeadsAmong 0 node.children path inner ↔ path ≠ [] ∧ node.below? path = some inner := by
  cases path with
  | nil => simp [LeadsAmong]
  | cons index rest => simp [LeadsAmong, below?_cons, and_assoc]

mutual
/-- The nodes that are listed are those that paths lead to, under these paths. -/
theorem mem_pathed : ∀ {node : Node} {path : List Nat} {inner : Node},
    (path, inner) ∈ node.pathed ↔ path ≠ [] ∧ node.below? path = some inner
  | .mk label children, path, inner => by
    rw [pathed, mem_pathedAmong, ← leadsAmong_children, Node.children]

theorem mem_pathedAmong : ∀ {start : Nat} {children : List Child} {path : List Nat} {inner : Node},
    (path, inner) ∈ pathedAmong start children ↔ LeadsAmong start children path inner
  | start, [], path, inner => by simp [pathedAmong, LeadsAmong]
  | start, .token token :: later, path, inner => by
    rw [pathedAmong, mem_pathedAmong, leadsAmong_cons]
    simp [Child.node?]
  | start, .node node :: later, path, inner => by
    have inside : ∀ rest, (rest, inner) ∈ node.pathed ↔ rest ≠ [] ∧ node.below? rest = some inner :=
      fun rest => mem_pathed
    rw [pathedAmong, List.mem_cons, List.mem_append, mem_pathedAmong, leadsAmong_cons, ← or_assoc]
    apply or_congr_left
    constructor
    · intro found
      rcases found with here | deeper
      · cases here
        exact ⟨[], rfl, rfl⟩
      · obtain ⟨⟨rest, found⟩, listed, same⟩ := List.mem_map.mp deeper
        cases same
        exact ⟨rest, rfl, ((inside rest).mp listed).2⟩
    · intro found
      obtain ⟨rest, rfl, reached⟩ := found
      -- the path ends at the child or goes on below it
      cases rest with
      | nil =>
          cases reached
          exact .inl rfl
      | cons index rest =>
          have listed := (inside (index :: rest)).mpr ⟨List.cons_ne_nil _ _, reached⟩
          exact .inr (List.mem_map.mpr ⟨_, listed, rfl⟩)
end

mutual
/-- The nodes are listed in the order of their paths. -/
theorem pairwise_pathed : ∀ node : Node,
    node.pathed.Pairwise fun first second => List.Lex (· < ·) first.1 second.1
  | .mk label children => by
    rw [pathed]
    exact pairwise_pathedAmong 0 children

theorem pairwise_pathedAmong : ∀ (start : Nat) (children : List Child),
    (pathedAmong start children).Pairwise fun first second => List.Lex (· < ·) first.1 second.1
  | start, [] => by
    rw [pathedAmong]
    exact .nil
  | start, .token token :: later => by
    rw [pathedAmong]
    exact pairwise_pathedAmong (start + 1) later
  | start, .node node :: later => by
    have inside := pairwise_pathed node
    have others := pairwise_pathedAmong (start + 1) later
    have further : ∀ rest : List Nat, ∀ entry ∈ pathedAmong (start + 1) later,
        List.Lex (· < ·) (start :: rest) entry.1 := by
      intro rest entry listed
      obtain ⟨index, path, starts, -⟩ := mem_pathedAmong.mp listed
      rw [starts]
      exact .rel (by omega)
    rw [pathedAmong, List.pairwise_cons, List.pairwise_append, List.pairwise_map]
    refine ⟨?_, inside.imp fun before => .cons before, others, ?_⟩
    · intro entry listed
      rcases List.mem_append.mp listed with deeper | beside
      · obtain ⟨⟨rest, found⟩, below, rfl⟩ := List.mem_map.mp deeper
        obtain ⟨index, rest, rfl⟩ := List.exists_cons_of_ne_nil (mem_pathed.mp below).1
        exact .cons .nil
      · exact further [] entry beside
    · intro entry deeper
      obtain ⟨⟨rest, found⟩, -, rfl⟩ := List.mem_map.mp deeper
      exact further rest
end

/-- No node below this one is of the kind. -/
def LacksBelow (node : Node) (kind : NodeKind) : Prop :=
  ∀ inner ∈ node.descendants, inner.kind ≠ kind

/-- The path to the node comes before every other path to a node of the kind. -/
def FirstBelow (node : Node) (kind : NodeKind) (found : Node) : Prop :=
  ∃ path, path ≠ [] ∧ node.below? path = some found ∧ found.kind = kind ∧
    ∀ earlier inner, earlier ≠ [] → List.Lex (· < ·) earlier path →
      node.below? earlier = some inner → inner.kind ≠ kind

theorem find?_eq_none_iff_lacksBelow {node : Node} {kind : NodeKind} :
    node.find? kind = none ↔ node.LacksBelow kind := by
  rw [find?_eq_descendants_find?, List.find?_eq_none]
  simp [LacksBelow]

/-- What is listed before an entry is what has an earlier path. -/
theorem mem_before_iff {node : Node} {before after : List (List Nat × Node)}
    {entry other : List Nat × Node} (split : node.pathed = before ++ entry :: after)
    (listed : other ∈ node.pathed) : other ∈ before ↔ List.Lex (· < ·) other.1 entry.1 := by
  have ordered := node.pairwise_pathed
  rw [split] at ordered listed
  obtain ⟨-, later, apart⟩ := List.pairwise_append.mp ordered
  constructor
  · intro member
    exact apart other member entry List.mem_cons_self
  · intro earlier
    rcases List.mem_append.mp listed with member | atOrAfter
    · exact member
    · rcases List.mem_cons.mp atOrAfter with rfl | following
      · exact absurd earlier (List.lex_irrefl Nat.lt_irrefl other.1)
      · have reversed := List.rel_of_pairwise_cons later following
        exact absurd earlier (List.lex_asymm Nat.lt_asymm reversed)

/-- Looking for a kind gives the node on the first path to one of that kind. -/
theorem find?_eq_some_iff_firstBelow {node found : Node} {kind : NodeKind} :
    node.find? kind = some found ↔ node.FirstBelow kind found := by
  rw [find?_eq_descendants_find?, ← map_snd_pathed, List.find?_map]
  constructor
  · intro hit
    obtain ⟨⟨path, inner⟩, first, rfl⟩ := Option.map_eq_some_iff.mp hit
    obtain ⟨ofKind, before, after, split, others⟩ := List.find?_eq_some_iff_append.mp first
    have listed : (path, inner) ∈ node.pathed := by simp [split]
    obtain ⟨proper, reached⟩ := mem_pathed.mp listed
    refine ⟨path, proper, reached, by simpa using ofKind, ?_⟩
    intro earlier other nonempty precedes leads
    have member := (mem_before_iff split (mem_pathed.mpr ⟨nonempty, leads⟩)).mpr precedes
    simpa using others _ member
  · intro isFirst
    obtain ⟨path, proper, reached, ofKind, least⟩ := isFirst
    have listed : (path, found) ∈ node.pathed := mem_pathed.mpr ⟨proper, reached⟩
    obtain ⟨before, after, split⟩ := List.append_of_mem listed
    apply Option.map_eq_some_iff.mpr
    refine ⟨(path, found), List.find?_eq_some_iff_append.mpr ⟨by simpa using ofKind, before, after,
      split, ?_⟩, rfl⟩
    intro other member
    have present : other ∈ node.pathed := by simp [split, member]
    obtain ⟨nonempty, leads⟩ := mem_pathed.mp present
    have differs := least other.1 other.2 nonempty ((mem_before_iff split present).mp member) leads
    simpa using differs

end Node

/-- Looking for a kind below a node gives the first node of that kind in the listing of all nodes
below it, which is the one on the first path to such a node, and nothing exactly if there is none.
So the namespace of a unit is the first one with a block, and only where there is none the first
one without. -/
theorem search_first_in_preorder (node : Node) (kind : NodeKind) :
    node.find? kind = node.descendants.find? (·.kind == kind) ∧
    (∀ found, node.find? kind = some found ↔ node.FirstBelow kind found) ∧
    (node.find? kind = none ↔ node.LacksBelow kind) ∧
    (∀ found, node.namespace? = some found ↔
      node.FirstBelow .namespaceDecl found ∨
        node.LacksBelow .namespaceDecl ∧ node.FirstBelow .fileScopedNamespaceDecl found) ∧
    (node.namespace? = none ↔
      node.LacksBelow .namespaceDecl ∧ node.LacksBelow .fileScopedNamespaceDecl) := by
  refine ⟨Node.find?_eq_descendants_find? kind node, fun found => Node.find?_eq_some_iff_firstBelow,
    Node.find?_eq_none_iff_lacksBelow, fun found => ?_, ?_⟩
  · rw [← Node.find?_eq_some_iff_firstBelow, ← Node.find?_eq_some_iff_firstBelow,
      ← Node.find?_eq_none_iff_lacksBelow, Node.namespace?]
    cases node.find? .namespaceDecl <;> simp
  · rw [← Node.find?_eq_none_iff_lacksBelow, ← Node.find?_eq_none_iff_lacksBelow, Node.namespace?]
    cases node.find? .namespaceDecl <;> simp

end SharpToJava
