import SharpToJava.Proofs.Likeness.Output

/-!
Roles say nothing new where they agree with the positions. If the child that plays a role is the one
that the rules would take without it, then a tree compiles as it does without its roles; only the
types of casts and of object creations are found by their roles alone, so these roles are kept.
-/

namespace SharpToJava

namespace NodeKind

/-- What is left of the role of a child: casts and object creations keep the role of their type. -/
def keptRole (parent : NodeKind) (role : Option String) : Option String :=
  if parent = .cast ∨ parent = .objectCreation then role.filter (· == "type") else none

theorem keptRole_eq_some {parent : NodeKind} {role : Option String} {kept : String} :
    parent.keptRole role = some kept ↔
      role = some kept ∧ parent.keptRole (some kept) = some kept := by
  unfold keptRole
  split
  · simp only [Option.filter_eq_some_iff, true_and]
  · simp

/-- Of the roles that the rules ask for, those without a position are kept. -/
theorem keptRole_of_asked {parent : NodeKind} {slot : Slot} (asked : slot ∈ parent.slots) :
    parent.keptRole (some slot.role) =
      if slot.position = .nowhere then some slot.role else none := by
  revert slot
  cases parent <;> decide

end NodeKind

namespace Node

mutual
/-- The tree without its roles; its root plays the given one. -/
def eraseRoles (kept : Option String) : Node → Node
  | .mk label children => .mk { label with role := kept } (eraseRolesAmong label.kind children)

def eraseRolesAmong (parent : NodeKind) : List Child → List Child
  | [] => []
  | .token token :: rest =>
    .token { token with role := parent.keptRole token.role } :: eraseRolesAmong parent rest
  | .node node :: rest =>
    .node (node.eraseRoles (parent.keptRole node.role)) :: eraseRolesAmong parent rest
end

/-- A tree without its roles, but for those of types that are found by role alone. -/
def withoutRoles (root : Node) : Node := root.eraseRoles none

/-- A child of the node, without the roles. -/
def erased (node child : Node) : Node := child.eraseRoles (node.kind.keptRole child.role)

variable (node : Node) (kept : Option String)

theorem label_eraseRoles : (node.eraseRoles kept).label = { node.label with role := kept } := by
  cases node
  rw [eraseRoles]
  rfl

theorem children_eraseRoles :
    (node.eraseRoles kept).children = eraseRolesAmong node.kind node.children := by
  cases node
  rw [eraseRoles]
  rfl

@[simp] theorem kind_eraseRoles : (node.eraseRoles kept).kind = node.kind := by
  rw [kind, label_eraseRoles]
  rfl

@[simp] theorem role_eraseRoles : (node.eraseRoles kept).role = kept := by
  rw [role, label_eraseRoles]

theorem childNodes_eraseRoles :
    (node.eraseRoles kept).childNodes = node.childNodes.map node.erased := by
  rw [childNodes, children_eraseRoles, childNodes]
  induction node.children with
  | nil => rfl
  | cons child rest ih =>
      cases child with
      | token token => simpa [eraseRolesAmong, List.filterMap_cons, Child.node?] using ih
      | node inner => simpa [eraseRolesAmong, List.filterMap_cons, Child.node?, erased] using ih

theorem childTokens_eraseRoles :
    (node.eraseRoles kept).childTokens =
      node.childTokens.map fun token => { token with role := node.kind.keptRole token.role } := by
  rw [childTokens, children_eraseRoles, childTokens]
  induction node.children with
  | nil => rfl
  | cons child rest ih =>
      cases child with
      | token token => simpa [eraseRolesAmong, List.filterMap_cons, Child.token?] using ih
      | node inner => simpa [eraseRolesAmong, List.filterMap_cons, Child.token?] using ih

theorem at?_eraseRoles (position : Position) :
    (node.eraseRoles kept).at? position = (node.at? position).map node.erased := by
  cases position <;>
    simp only [at?, childNodes_eraseRoles, List.head?_map, List.getElem?_map, List.getLast?_map,
      List.find?_map, Function.comp_def, erased, kind_eraseRoles, ← List.map_tail, Option.map_none]

/-- A role is found if it was kept. -/
theorem slot?_eraseRoles (role : String) :
    (node.eraseRoles kept).slot? role =
      if node.kind.keptRole (some role) = some role then (node.slot? role).map node.erased
      else none := by
  have found : ∀ child : Node, ((node.erased child).role == some role) =
      (child.role == some role && node.kind.keptRole (some role) == some role) := by
    intro child
    rw [Bool.eq_iff_iff, Bool.and_eq_true, beq_iff_eq, beq_iff_eq, beq_iff_eq, erased,
      role_eraseRoles, NodeKind.keptRole_eq_some]
  rw [slot?, childNodes_eraseRoles, List.find?_map]
  simp only [Function.comp_def, found]
  split
  case isTrue stays => simp [stays, slot?]
  case isFalse gone => simp [gone]

/-- Where the rules ask for a child by its role, the first child that plays it is the one that they
would take without it; and so for the operator. -/
structure RoleConsistent (node : Node) : Prop where
  slots : ∀ slot ∈ node.kind.slots, slot.position ≠ .nowhere →
    ∀ child, node.slot? slot.role = some child → node.at? slot.position = some child
  operator : node.kind.hasOperator = true →
    ∀ token, node.childTokens.find? (·.role == some "operator") = some token →
      node.childTokens.head? = some token

variable {node : Node} {kept : Option String}

theorem forall_eq_some_iff {α : Type} {found other : Option α} :
    (∀ item, found = some item → other = some item) ↔ found = none ∨ found = other := by
  cases found with
  | none => simp
  | some item => simp [eq_comm]

instance : DecidablePred RoleConsistent := fun node =>
  decidable_of_iff
    ((∀ slot ∈ node.kind.slots, slot.position ≠ .nowhere →
        node.slot? slot.role = none ∨ node.slot? slot.role = node.at? slot.position) ∧
      (node.kind.hasOperator = true →
        node.childTokens.find? (·.role == some "operator") = none ∨
          node.childTokens.find? (·.role == some "operator") = node.childTokens.head?))
    ⟨fun holds => ⟨fun slot asked positional => forall_eq_some_iff.mpr (holds.1 slot asked positional),
        fun written => forall_eq_some_iff.mpr (holds.2 written)⟩,
      fun consistent => ⟨fun slot asked positional =>
        forall_eq_some_iff.mp (consistent.slots slot asked positional),
        fun written => forall_eq_some_iff.mp (consistent.operator written)⟩⟩

namespace RoleConsistent

variable (consistent : node.RoleConsistent) {slot : Slot}
include consistent

theorem pick?_eq_at? (asked : slot ∈ node.kind.slots) (positional : slot.position ≠ .nowhere) :
    node.pick? slot = node.at? slot.position := by
  rw [pick?]
  cases played : node.slot? slot.role with
  | none => rfl
  | some child => exact (consistent.slots slot asked positional child played).symm

theorem pick?_eraseRoles (asked : slot ∈ node.kind.slots) :
    (node.eraseRoles kept).pick? slot = (node.pick? slot).map node.erased := by
  have stays := NodeKind.keptRole_of_asked asked
  by_cases nowhere : slot.position = .nowhere
  · rw [if_pos nowhere] at stays
    rw [pick?, slot?_eraseRoles, if_pos stays, at?_eraseRoles, pick?, nowhere]
    cases node.slot? slot.role with
    | none => rfl
    | some child => rfl
  · rw [if_neg nowhere] at stays
    rw [pick?, slot?_eraseRoles, stays, if_neg (by simp), at?_eraseRoles,
      consistent.pick?_eq_at? asked nowhere]

theorem operator_eq (written : node.kind.hasOperator = true) :
    node.operator = (node.childTokens.head?.map Token.text).getD "" := by
  rw [Node.operator]
  cases played : node.childTokens.find? (·.role == some "operator") with
  | none => cases node.childTokens.head? <;> rfl
  | some token => rw [consistent.operator written token played]; rfl

/-- The name of a namespace stands first. -/
theorem namePosition_eq_zero (around : node.kind.isNamespace = true) : node.namePosition = 0 := by
  have asked : Slot.namespaceName ∈ node.kind.slots := by
    revert around
    cases node.kind <;> decide
  have first := consistent.slots _ asked (by decide)
  change ∀ child, node.childNodes.find? (·.role == some "name") = some child →
    node.childNodes.head? = some child at first
  rw [namePosition]
  generalize node.childNodes = children at first ⊢
  cases children with
  | nil => rfl
  | cons child rest =>
      rw [List.findIdx?_cons]
      by_cases named : child.role = some "name"
      · simp [named]
      · -- a later child with the role would have to be the first
        have none : rest.find? (·.role == some "name") = none := by
          cases later : rest.find? (·.role == some "name") with
          | none => rfl
          | some other =>
              have same := first other (by simp [named, later])
              have played := List.find?_some later
              cases same
              exact absurd (by simpa using played) named
        rw [List.find?_eq_none] at none
        have nowhere : rest.findIdx? (·.role == some "name") = Option.none :=
          List.findIdx?_eq_none_iff.mpr fun other listed => by simpa using none other listed
        simp [named, nowhere]

end RoleConsistent

/-- A tree without roles cannot contradict itself. -/
theorem roleConsistent_eraseRoles (node : Node) (kept : Option String) :
    (node.eraseRoles kept).RoleConsistent where
  slots := by
    intro slot asked positional child played
    rw [kind_eraseRoles] at asked
    have gone := NodeKind.keptRole_of_asked asked
    rw [if_neg positional] at gone
    rw [slot?_eraseRoles, gone, if_neg (by simp)] at played
    cases played
  operator := by
    intro _ token played
    have listed := List.mem_of_find?_eq_some played
    rw [childTokens_eraseRoles] at listed
    obtain ⟨original, -, rfl⟩ := List.mem_map.mp listed
    have role := NodeKind.keptRole_eq_some.mp (by simpa using List.find?_some played)
    have other : node.kind.keptRole (some "operator") = none := by
      unfold NodeKind.keptRole
      split <;> rfl
    rw [other] at role
    cases role.2

/-- The second tree is the first, which has consistent roles, without them. -/
def LosesRoles (first second : Node) : Prop :=
  first.Every RoleConsistent ∧ ∃ kept, first.eraseRoles kept = second

theorem losesRoles_children {children : List Child} (parent : NodeKind)
    (consistent : ∀ child, .node child ∈ children → child.Every RoleConsistent) :
    List.Forall₂ (Child.Like LosesRoles) children (eraseRolesAmong parent children) := by
  induction children with
  | nil => exact .nil
  | cons child rest ih =>
      have later := ih fun other listed => consistent other (List.mem_cons_of_mem _ listed)
      cases child with
      | token token => exact .cons (.token ⟨rfl, rfl⟩) later
      | node inner => exact .cons (.node ⟨consistent inner List.mem_cons_self, _, rfl⟩) later

theorem losesRoles_pick? {first second : Node} (alike : first.LosesRoles second) {slot : Slot}
    (asked : slot ∈ first.kind.slots) :
    Option.Rel LosesRoles (first.pick? slot) (second.pick? slot) := by
  obtain ⟨consistent, kept, rfl⟩ := alike
  rw [consistent.here.pick?_eraseRoles asked]
  cases filled : first.pick? slot with
  | none => exact .none
  | some child => exact .some ⟨consistent.of_pick? filled, _, rfl⟩

/-- A child that is asked for by kind is of that kind. -/
theorem kind_of_pick? {first child : Node} (consistent : first.RoleConsistent) {slot : Slot}
    {kind : NodeKind} (asked : slot ∈ first.kind.slots) (byKind : slot.position = .ofKind kind)
    (filled : first.pick? slot = some child) : child.kind = kind := by
  rw [consistent.pick?_eq_at? asked (by simp [byKind]), byKind] at filled
  simpa using List.find?_some filled

theorem likeness_losesRoles : Likeness LosesRoles where
  kind := by
    rintro first _ ⟨-, kept, rfl⟩
    exact (kind_eraseRoles first kept).symm
  kindName := by
    rintro first _ ⟨-, kept, rfl⟩
    rw [kindName, kindName, label_eraseRoles]
    rfl
  typeName := by
    rintro first _ ⟨-, kept, rfl⟩
    rw [typeName, typeName, label_eraseRoles]
  symbol := by
    rintro first _ ⟨-, kept, rfl⟩
    rw [symbol, symbol, label_eraseRoles]
  operator := by
    rintro first _ ⟨consistent, kept, rfl⟩ written
    rw [consistent.here.operator_eq written, (roleConsistent_eraseRoles first kept).operator_eq
      (by rwa [kind_eraseRoles]), childTokens_eraseRoles, List.head?_map, Option.map_map]
    rfl
  namePosition := by
    rintro first _ ⟨consistent, kept, rfl⟩ around
    rw [consistent.here.namePosition_eq_zero around,
      (roleConsistent_eraseRoles first kept).namePosition_eq_zero (by rwa [kind_eraseRoles])]
  children := by
    rintro first _ ⟨consistent, kept, rfl⟩
    rw [children_eraseRoles]
    exact losesRoles_children _ fun child listed => consistent.of_child (mem_childNodes.mpr listed)
  pick? alike _ asked := losesRoles_pick? alike asked
  declaredType := by
    rintro first _ declaration other ⟨consistent, -, -⟩ statement filled inside
    have declares := kind_of_pick? consistent.here (by rw [statement]; decide) rfl filled
    exact losesRoles_pick? inside (by rw [declares]; decide)
  elseStatement := by
    rintro first _ clause other ⟨consistent, -, -⟩ branch filled inside
    have continues := kind_of_pick? consistent.here (by rw [branch]; decide) rfl filled
    exact losesRoles_pick? inside (by rw [continues]; decide)

end Node

/-- A tree with consistent roles compiles as it does without them: the runs that read off its
declarations are the same, whatever they are told and from whatever journal they start, and so are
the text, the declarations and the debug lines for every target. -/
theorem consistent_roles_redundant (root : Node) (consistent : root.Every Node.RoleConsistent) :
    (∀ profile, Place.unitDecl ⟨root, []⟩ profile = Place.unitDecl ⟨root.withoutRoles, []⟩ profile) ∧
      ∀ target enforce, compile root target enforce = compile root.withoutRoles target enforce := by
  have alike : root.LosesRoles root.withoutRoles := ⟨consistent, none, rfl⟩
  refine ⟨fun profile => ?_, fun target enforce => ?_⟩
  · exact Node.likeness_losesRoles.unitDecl ⟨alike, .none, fun _ => .none⟩ profile
  · exact Node.likeness_losesRoles.compile_eq alike target enforce

/-- `class A { int M() { return (int) a + b; } }`, with roles. -/
def Node.castSum : Node :=
  .mk { kind := .compilationUnit } [.node (.mk { kind := .classDecl } [
    .token { kind := .identifier, text := "A" },
    .node (.mk { kind := .methodDecl } [
      .node (.mk { kind := .predefinedType, role := some "type" }
        [.token { kind := .identifier, text := "int" }]),
      .token { kind := .identifier, text := "M" },
      .node (.mk { kind := .block } [.node (.mk { kind := .returnStatement } [
        .node (.mk { kind := .binary, role := some "expression" } [
          .node (.mk { kind := .cast, role := some "left" } [
            .node (.mk { kind := .predefinedType, role := some "type" }
              [.token { kind := .identifier, text := "int" }]),
            .node (.mk { kind := .identifierName, role := some "expression" }
              [.token { kind := .identifier, text := "a" }])]),
          .token { kind := .plus, text := "+", role := some "operator" },
          .node (.mk { kind := .identifierName, role := some "right" }
            [.token { kind := .identifier, text := "b" }])])])])])])]

theorem consistent_roles_redundant_castSum :
    Node.castSum.Every Node.RoleConsistent ∧
    Node.castSum.withoutRoles.nodes.filterMap Node.role = ["type"] ∧
    compile Node.castSum (some .java) true =
      compile Node.castSum.withoutRoles (some .java) true := by
  have consistent : Node.castSum.Every Node.RoleConsistent := by decide
  exact ⟨consistent, by decide, (consistent_roles_redundant Node.castSum consistent).2 _ _⟩

end SharpToJava
