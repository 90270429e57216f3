import SharpToJava.Dump.Writer
import SharpToJava.Proofs.Dump.Reading
import SharpToJava.Proofs.Likeness.Output

/-!
Dumps of trees that were read from dumps. Such a tree is written so that it is read again as the
same tree, up to names that say nothing: a node whose name in the dump was empty goes by the name
of its kind, and is no longer marked as having a name of its own.
-/

namespace SharpToJava

/-- An empty name in the dump is as good as none. -/
def Label.dropEmptyName (label : Label) : Label :=
  { label with rawName := label.rawName.filter (· != "") }

@[simp] theorem Label.kindName_dropEmptyName (label : Label) :
    label.dropEmptyName.kindName = label.kindName := by
  unfold Label.kindName Label.dropEmptyName
  cases label.rawName with
  | none => rfl
  | some name =>
      by_cases empty : name = ""
      · subst empty
        rfl
      · have kept : (some name).filter (· != "") = some name := by simp [Option.filter, empty]
        rw [kept]

namespace Node

mutual
def dropEmptyNames : Node → Node
  | .mk label children => .mk label.dropEmptyName (dropEmptyNamesAmong children)

def dropEmptyNamesAmong : List Child → List Child
  | [] => []
  | .token token :: rest => .token token :: dropEmptyNamesAmong rest
  | .node node :: rest => .node node.dropEmptyNames :: dropEmptyNamesAmong rest
end

theorem label_dropEmptyNames (node : Node) :
    node.dropEmptyNames.label = node.label.dropEmptyName := by
  cases node with
  | mk label children => simp only [dropEmptyNames, Node.label]

theorem children_dropEmptyNames (node : Node) :
    node.dropEmptyNames.children = dropEmptyNamesAmong node.children := by
  cases node with
  | mk label children => simp only [dropEmptyNames, Node.children]

theorem dropEmptyNamesAmong_nodes (children : List Child) :
    (dropEmptyNamesAmong children).filterMap Child.node? =
      (children.filterMap Child.node?).map dropEmptyNames := by
  induction children with
  | nil => rfl
  | cons child rest ih =>
      cases child <;> simp [dropEmptyNamesAmong, Child.node?, List.filterMap_cons, ih]

theorem dropEmptyNamesAmong_tokens (children : List Child) :
    (dropEmptyNamesAmong children).filterMap Child.token? = children.filterMap Child.token? := by
  induction children with
  | nil => rfl
  | cons child rest ih =>
      cases child <;> simp [dropEmptyNamesAmong, Child.token?, List.filterMap_cons, ih]

theorem childNodes_dropEmptyNames (node : Node) :
    node.dropEmptyNames.childNodes = node.childNodes.map dropEmptyNames := by
  rw [childNodes, children_dropEmptyNames, dropEmptyNamesAmong_nodes, childNodes]

theorem childTokens_dropEmptyNames (node : Node) :
    node.dropEmptyNames.childTokens = node.childTokens := by
  rw [childTokens, children_dropEmptyNames, dropEmptyNamesAmong_tokens, childTokens]

theorem kind_dropEmptyNames (node : Node) : node.dropEmptyNames.kind = node.kind := by
  rw [kind, label_dropEmptyNames]
  rfl

theorem role_dropEmptyNames (node : Node) : node.dropEmptyNames.role = node.role := by
  rw [role, label_dropEmptyNames]
  rfl

theorem pick?_dropEmptyNames (node : Node) (slot : Slot) :
    node.dropEmptyNames.pick? slot = (node.pick? slot).map dropEmptyNames := by
  have byRole : node.dropEmptyNames.slot? slot.role =
      (node.slot? slot.role).map dropEmptyNames := by
    simp only [slot?, childNodes_dropEmptyNames, List.find?_map, Function.comp_def,
      role_dropEmptyNames]
  have byPosition : node.dropEmptyNames.at? slot.position =
      (node.at? slot.position).map dropEmptyNames := by
    cases slot.position <;>
      simp only [at?, childNodes_dropEmptyNames, List.head?_map, List.getElem?_map,
        List.getLast?_map, List.find?_map, Function.comp_def, kind_dropEmptyNames,
        ← List.map_tail, Option.map_none]
  unfold pick?
  rw [byRole, byPosition]
  cases node.slot? slot.role with
  | none => rfl
  | some child => rfl

theorem rel_pick?_dropEmptyNames (node : Node) (slot : Slot) :
    Option.Rel (fun first second => first.dropEmptyNames = second) (node.pick? slot)
      (node.dropEmptyNames.pick? slot) := by
  rw [pick?_dropEmptyNames]
  cases node.pick? slot with
  | none => exact .none
  | some child => exact .some rfl

theorem kindName_dropEmptyNames (node : Node) : node.dropEmptyNames.kindName = node.kindName := by
  rw [kindName, kindName, label_dropEmptyNames, Label.kindName_dropEmptyName]

mutual
theorem descendants_dropEmptyNames : ∀ node : Node,
    node.dropEmptyNames.descendants = node.descendants.map dropEmptyNames
  | .mk label children => by
    rw [dropEmptyNames, descendants, descendants, descendantsAmong_dropEmptyNames]

theorem descendantsAmong_dropEmptyNames : ∀ children : List Child,
    descendantsAmong (dropEmptyNamesAmong children) =
      (descendantsAmong children).map dropEmptyNames
  | [] => rfl
  | .token token :: rest => by
    rw [dropEmptyNamesAmong, descendantsAmong, descendantsAmong, descendantsAmong_dropEmptyNames rest]
  | .node inner :: rest => by
    rw [dropEmptyNamesAmong, descendantsAmong, descendantsAmong, descendants_dropEmptyNames inner,
      descendantsAmong_dropEmptyNames rest, List.map_cons, List.map_append]
end

theorem kindNames_dropEmptyNames (node : Node) :
    node.dropEmptyNames.nodes.map kindName = node.nodes.map kindName := by
  simp only [nodes, descendants_dropEmptyNames, List.map_cons, List.map_map, Function.comp_def,
    kindName_dropEmptyNames]

/-- Dropping empty names leaves everything that a rule asks for. -/
theorem likeness_dropEmptyNames : Likeness fun first second => first.dropEmptyNames = second where
  kind := by
    rintro node _ rfl
    exact (kind_dropEmptyNames node).symm
  kindName := by
    rintro node _ rfl
    exact (kindName_dropEmptyNames node).symm
  typeName := by
    rintro node _ rfl
    rw [typeName, typeName, label_dropEmptyNames]
    rfl
  symbol := by
    rintro node _ rfl
    rw [symbol, symbol, label_dropEmptyNames]
    rfl
  operator := by
    rintro node _ rfl -
    rw [operator, operator, childTokens_dropEmptyNames]
  namePosition := by
    rintro node _ rfl -
    simp only [namePosition, childNodes_dropEmptyNames, List.findIdx?_map, Function.comp_def,
      role_dropEmptyNames]
  children := by
    rintro node _ rfl
    rw [children_dropEmptyNames]
    induction node.children with
    | nil => exact .nil
    | cons child rest ih =>
        cases child with
        | token token => exact .cons (.token ⟨rfl, rfl⟩) ih
        | node inner => exact .cons (.node rfl) ih
  pick? := by
    rintro node _ rfl slot -
    exact rel_pick?_dropEmptyNames node slot
  declaredType := by
    rintro _ _ declaration _ - - - rfl
    exact rel_pick?_dropEmptyNames declaration _
  elseStatement := by
    rintro _ _ clause _ - - - rfl
    exact rel_pick?_dropEmptyNames clause _

end Node

theorem TokenKind.ofName_name (kind : TokenKind) : TokenKind.ofName kind.name = kind := by
  cases kind <;> rfl

theorem SymbolKind.ofDumpName?_name (kind : SymbolKind) : ofDumpName? kind.name = some kind := by
  cases kind <;> rfl

namespace Dump

theorem symbolOrNull_toDump (written : Symbol) : symbolOrNull written.toDump = .ok (some written) := by
  obtain ⟨kind, containing⟩ := written
  have known := SymbolKind.ofDumpName?_name kind
  cases containing with
  | none =>
      change Except.ok (symbolOf kind.name none) = _
      simp only [symbolOf, known, Option.map_some]
  | some name =>
      change Except.ok (symbolOf kind.name (some name)) = _
      simp only [symbolOf, known, Option.map_some]

theorem token_toDump (written : Token) : token written.toDump = .ok written := by
  obtain ⟨kind, text, role⟩ := written
  have known := TokenKind.ofName_name kind
  cases role with
  | none =>
      change (Except.ok ⟨TokenKind.ofName kind.name, text, none⟩ : Checked Token) = _
      rw [known]
  | some role =>
      change (Except.ok ⟨TokenKind.ofName kind.name, text, some role⟩ : Checked Token) = _
      rw [known]

/-- A token is never written like a node. -/
theorem child_toDump_token (written : Token) : child written.toDump = .ok (.token written) := by
  cases read : node written.toDump with
  | error issues => exact child_eq_ok_token read (token_toDump written)
  | ok tree =>
      obtain ⟨fields, name, _, _, _, _, same, kind, _⟩ := node_eq_ok.mp read
      obtain ⟨tokenKind, text, role⟩ := written
      cases same
      -- a node has a field for its kind, and a token is written without one
      cases role <;> cases kind

/-- The label was read from a dump. -/
def Readable (label : Label) : Prop :=
  ∃ name, label = labelOf name label.role label.typeName label.symbol

/-- By the name under which it is written, a label is read again, without an empty name. -/
theorem labelOf_kindName {label : Label} (readable : Readable label) :
    labelOf label.kindName label.role label.typeName label.symbol = label.dropEmptyName := by
  obtain ⟨name, read⟩ := readable
  rw [read]
  generalize label.role = role, label.typeName = typeName, label.symbol = symbol
  -- the name of the kind itself is not kept, an empty name is kept but does not count, and any other
  -- name is kept and counts
  by_cases own : name = (NodeKind.ofName name).name
  · have named : (labelOf name role typeName symbol).kindName = name := by
      simp only [labelOf, Label.kindName, if_pos own]
      exact own.symm
    rw [named]
    simp only [labelOf, Label.dropEmptyName, if_pos own, Option.filter_none]
  by_cases empty : name = ""
  · subst empty
    rfl
  · have named : (labelOf name role typeName symbol).kindName = name := by
      simp only [labelOf, Label.kindName, if_neg own]
    rw [named]
    simp only [labelOf, Label.dropEmptyName, if_neg own]
    simp [Option.filter, empty]

/-- The fields of a node, as they are read. -/
theorem node_object_toDumpFields (label : Label) {items : List Json} {below : List Child}
    (read : items.map child = below.map .ok) :
    node (.object (label.toDumpFields ++ [("children", .array items)])) =
      .ok (.mk (labelOf label.kindName label.role label.typeName label.symbol) below) := by
  refine node_eq_ok.mpr ⟨_, label.kindName, label.role, label.typeName, label.symbol, below, rfl,
    ?_, ?_, ?_, ?_, children_eq_ok.mpr (.inr ⟨items, ?_, read⟩), ?_, rfl⟩
  all_goals
    unfold Label.toDumpFields
    cases label.role <;> cases label.typeName <;> cases label.symbol
    all_goals first | rfl | exact congrArg (Checked.inside "symbol") (symbolOrNull_toDump _)

mutual
/-- A tree whose labels were read is written so that it is read again. -/
theorem node_toDump : ∀ {tree : Node}, tree.Every (fun node => Readable node.label) →
    node tree.toDump = .ok tree.dropEmptyNames
  | .mk label children, readable => by
    have below : (Node.toDumps children).map child =
        (Node.dropEmptyNamesAmong children).map .ok :=
      map_child_toDumps fun inner member => readable.of_child (Node.mem_childNodes.mpr member)
    have here : Readable label := readable.here
    rw [Node.toDump, node_object_toDumpFields label below, labelOf_kindName here,
      Node.dropEmptyNames]

theorem map_child_toDumps : ∀ {children : List Child},
    (∀ inner, .node inner ∈ children → inner.Every fun node => Readable node.label) →
      (Node.toDumps children).map child = (Node.dropEmptyNamesAmong children).map .ok
  | [], _ => rfl
  | .token token :: rest, readable => by
    have later := map_child_toDumps fun inner member =>
      readable inner (List.mem_cons_of_mem _ member)
    rw [Node.toDumps, Node.dropEmptyNamesAmong, List.map_cons, List.map_cons, later,
      child_toDump_token]
  | .node inner :: rest, readable => by
    have later := map_child_toDumps fun inner member =>
      readable inner (List.mem_cons_of_mem _ member)
    have first := child_eq_ok_node.mpr (node_toDump (readable inner List.mem_cons_self))
    rw [Node.toDumps, Node.dropEmptyNamesAmong, List.map_cons, List.map_cons, later, first]
end

/-- The labels of a tree that was read from a dump. -/
theorem readable_of_node {json : Json} {tree : Node} (read : node json = .ok tree) :
    tree.Every fun node => Readable node.label := by
  obtain ⟨fields, name, role, typeName, symbol, below, isObject, -, -, -, -, children, -, rfl⟩ :=
    node_eq_ok.mp read
  refine Node.every_mk ⟨name, rfl⟩ fun inner member => ?_
  rcases children_eq_ok.mp children with ⟨-, rfl⟩ | ⟨items, found, itemsRead⟩
  · exact absurd member List.not_mem_nil
  · obtain ⟨item, listed, itemRead⟩ : ∃ item ∈ items, child item = .ok (.node inner) := by
      have image : (Except.ok (.node inner) : Checked Child) ∈ items.map child := by
        rw [itemsRead]
        exact List.mem_map_of_mem member
      exact List.mem_map.mp image
    -- the recursion is on the dump: an item of an array in a field is smaller than the object
    have smaller : sizeOf item < sizeOf json := by
      rw [isObject]
      have itemBound := List.sizeOf_lt_of_mem listed
      have arrayBound := Json.sizeOf_lt_of_lookup found
      simp only [Json.array.sizeOf_spec] at arrayBound
      omega
    exact readable_of_node (child_eq_ok_node.mp itemRead)
termination_by sizeOf json

end Dump

mutual
/-- Empty names are not written. -/
theorem Node.toDump_dropEmptyNames : ∀ node : Node, node.dropEmptyNames.toDump = node.toDump
  | .mk label children => by
    have fields : label.dropEmptyName.toDumpFields = label.toDumpFields := by
      unfold Label.toDumpFields
      rw [Label.kindName_dropEmptyName]
      rfl
    rw [dropEmptyNames, toDump, toDump, fields, toDumps_dropEmptyNamesAmong]

theorem Node.toDumps_dropEmptyNamesAmong : ∀ children : List Child,
    toDumps (dropEmptyNamesAmong children) = toDumps children
  | [] => rfl
  | .token token :: rest => by
    rw [dropEmptyNamesAmong, toDumps, toDumps, toDumps_dropEmptyNamesAmong rest]
  | .node inner :: rest => by
    rw [dropEmptyNamesAmong, toDumps, toDumps, inner.toDump_dropEmptyNames,
      toDumps_dropEmptyNamesAmong rest]
end

/-- A tree read from a dump survives being written and read again: it is the same tree but for
empty names, so its nodes go by the same names, and it is written and compiled the same. -/
theorem dump_round_trip (json : Json) (tree : Node) (read : Dump.node json = .ok tree) :
    ∃ again, Dump.node tree.toDump = .ok again ∧
      again = tree.dropEmptyNames ∧
      again.nodes.map Node.kindName = tree.nodes.map Node.kindName ∧
      again.toDump = tree.toDump ∧
      ∀ target enforce, compile again target enforce = compile tree target enforce := by
  refine ⟨tree.dropEmptyNames, Dump.node_toDump (Dump.readable_of_node read), rfl,
    tree.kindNames_dropEmptyNames, tree.toDump_dropEmptyNames, fun target enforce => ?_⟩
  exact (Node.likeness_dropEmptyNames.compile_eq rfl target enforce).symm

/-- A dump with an empty name: the name is gone after one round. -/
theorem dump_round_trip_empty_name :
    ∃ tree again, Dump.node (.object [("kind", .string ""),
        ("children", .array [Token.toDump ⟨.identifier, "x", none⟩])]) = .ok tree ∧
      Dump.node tree.toDump = .ok again ∧
      tree.label.rawName = some "" ∧ again.label.rawName = none ∧ again.toDump = tree.toDump := by
  have read : Dump.node (.object [("kind", .string ""),
      ("children", .array [Token.toDump ⟨.identifier, "x", none⟩])]) =
      .ok (.mk (Dump.labelOf "" none none none) [.token ⟨.identifier, "x", none⟩]) := by
    refine Dump.node_eq_ok.mpr ⟨_, "", none, none, none, _, rfl, rfl, rfl, rfl, rfl, ?_, rfl, rfl⟩
    exact Dump.children_eq_ok.mpr (.inr ⟨_, rfl, by simp [Dump.child_toDump_token]⟩)
  obtain ⟨again, readAgain, rfl, -, written, -⟩ := dump_round_trip _ _ read
  exact ⟨_, _, read, readAgain, rfl, rfl, written⟩

end SharpToJava
