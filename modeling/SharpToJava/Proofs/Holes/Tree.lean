import SharpToJava.Proofs.Tree.Below
import SharpToJava.Proofs.Weigh

/-!
Holes shared out over a tree. A phrase leaves some decisions to a run: a fresh name, the statements
of a call, a matter of convention. The rule of a node makes a few such holes by itself and leaves the
rest to the children it writes. A note on what became of a declaration counts as a hole too, one that
no rule makes. An `Allowance` is an amount for every node that covers what its rule makes and the
amounts of its children, also where a rule asks for several children by name.
-/

namespace SharpToJava

/-- What a phrase leaves to a run, as far as it is counted here. -/
inductive Hole where
  /-- A fresh name for a value nobody reads. -/
  | discard
  /-- A call, which may need a helper variable. -/
  | call
  /-- A choice that depends on whether conventions are enforced. -/
  | convention
  /-- A note on what became of a declaration. -/
  | declNote
  deriving DecidableEq, Repr

namespace Node

/-- The number of holes that the rule of a node makes by itself, at most. -/
def brings (hole : Hole) (node : Node) : Nat :=
  match hole with
  | .discard => if node.kind = .identifierName ∧ node.identifier = "_" then 1 else 0
  | .call => if node.kind = .invocation then 1 else 0
  | .convention => if node.kind = .cast then 2 else 0
  | .declNote => 0

section

variable {amount : Node → Nat} {node : Node}

/-- A measure of the children of which the tokens have no part. -/
theorem weigh_children_le {measure : Child → Nat} {children : List Child}
    (tokens : ∀ token, measure (.token token) = 0)
    (each : ∀ node, .node node ∈ children → measure (.node node) ≤ amount node) :
    weigh measure children ≤ weigh amount (children.filterMap Child.node?) := by
  induction children with
  | nil => exact Nat.le_refl _
  | cons child rest ih =>
      have others := ih fun node member => each node (List.mem_cons_of_mem _ member)
      rw [weigh_cons]
      cases child with
      | token token =>
          rw [tokens, Nat.zero_add]
          exact others
      | node node =>
          have first := each node List.mem_cons_self
          have kept : (Child.node node :: rest).filterMap Child.node? =
              node :: rest.filterMap Child.node? := List.filterMap_cons_some rfl
          rw [kept, weigh_cons]
          omega

theorem weigh_filterMap_pick? (slot : Slot) (slots : List Slot) :
    weigh amount ((slot :: slots).filterMap node.pick?) =
      weigh amount (node.pick? slot).toList + weigh amount (slots.filterMap node.pick?) := by
  cases filled : node.pick? slot <;> simp [filled]

theorem weigh_pick?_le (slot : Slot) :
    weigh amount (node.pick? slot).toList ≤ weigh amount node.childNodes := by
  cases filled : node.pick? slot with
  | none => simp
  | some child => simpa using le_weigh_of_mem (mem_of_pick? filled)

end

end Node

/-- The slots of which the rule of a kind writes more than one. -/
def NodeKind.jointSlots : NodeKind → List Slot
  | .binary | .assignment => [.left, .right]
  | .invocation => [.expression, .callArguments]
  | .elementAccess => [.expression, .indexArguments]
  | .ifStatement => [.condition, .branch, .elseBranch]
  | _ => []

structure Allowance (hole : Hole) (allowed : Node → Prop) where
  amount : Node → Nat
  covers : ∀ node, allowed node →
    node.brings hole + weigh amount node.childNodes ≤ amount node
  /-- What the rule of a node picks together is no more than its children. -/
  apart : ∀ node, allowed node →
    weigh amount (node.kind.jointSlots.filterMap node.pick?) ≤
      weigh amount node.childNodes

namespace Allowance

open Node

variable {hole : Hole} {allowed : Node → Prop} (allowance : Allowance hole allowed)
  {node inner : Node}

theorem children_le (ok : allowed node) :
    weigh allowance.amount node.childNodes ≤ allowance.amount node := by
  have covered := allowance.covers node ok
  omega

theorem child_le (ok : allowed node) (member : inner ∈ node.childNodes) :
    allowance.amount inner ≤ allowance.amount node :=
  Nat.le_trans (le_weigh_of_mem member) (allowance.children_le ok)

theorem sublist_le (ok : allowed node) {nodes : List Node} (kept : nodes.Sublist node.childNodes) :
    weigh allowance.amount nodes ≤ allowance.amount node :=
  Nat.le_trans (weigh_le_of_sublist kept) (allowance.children_le ok)

theorem pick?_le (ok : allowed node) (slot : Slot) :
    node.brings hole + weigh allowance.amount (node.pick? slot).toList ≤ allowance.amount node :=
  Nat.le_trans (Nat.add_le_add_left (weigh_pick?_le slot) _) (allowance.covers node ok)

theorem joint_le (ok : allowed node) {slots : List Slot} (joint : node.kind.jointSlots = slots) :
    node.brings hole + weigh allowance.amount (slots.filterMap node.pick?) ≤
      allowance.amount node := by
  have covered := allowance.covers node ok
  have together := allowance.apart node ok
  rw [joint] at together
  omega

theorem pair_le (ok : allowed node) {first second : Slot}
    (joint : node.kind.jointSlots = [first, second]) :
    node.brings hole + (weigh allowance.amount (node.pick? first).toList +
      weigh allowance.amount (node.pick? second).toList) ≤ allowance.amount node := by
  have together := allowance.joint_le ok joint
  rwa [weigh_filterMap_pick?, weigh_filterMap_pick?, List.filterMap_nil, weigh_nil] at together

theorem below_le {node inner : Node} (every : node.Every allowed) (member : inner ∈ node.nodes) :
    allowance.amount inner ≤ allowance.amount node := by
  rcases List.mem_cons.mp member with rfl | below
  · exact Nat.le_refl _
  · obtain ⟨child, present, deeper⟩ := mem_descendants.mp below
    have smaller := size_lt_of_mem present
    exact Nat.le_trans (below_le (every.of_child present) deeper)
      (allowance.child_le every.here present)
termination_by node.size

end Allowance

namespace Node

/-- The holes that the rules of all nodes of the tree make. -/
def total (hole : Hole) (node : Node) : Nat := weigh (brings hole) node.nodes

theorem weigh_descendantsAmong (hole : Hole) (children : List Child) :
    weigh (brings hole) (descendantsAmong children) =
      weigh (total hole) (children.filterMap Child.node?) := by
  induction children with
  | nil => rfl
  | cons child rest ih =>
      cases child with
      | token token =>
          rw [descendantsAmong, ih, List.filterMap_cons_none rfl]
      | node node =>
          have kept : (Child.node node :: rest).filterMap Child.node? =
              node :: rest.filterMap Child.node? := List.filterMap_cons_some rfl
          rw [descendantsAmong, weigh_cons, weigh_append, ih, kept, weigh_cons, total, nodes,
            weigh_cons, Nat.add_assoc]

theorem total_eq (hole : Hole) (node : Node) :
    node.total hole = node.brings hole + weigh (total hole) node.childNodes := by
  cases node with
  | mk label children =>
      rw [total, nodes, weigh_cons, descendants, weigh_descendantsAmong]
      rfl

theorem total_discard (node : Node) :
    node.total .discard =
      node.nodes.countP fun inner => inner.kind = .identifierName ∧ inner.identifier = "_" :=
  weigh_indicator _ node.nodes

theorem total_call (node : Node) :
    node.total .call = node.nodes.countP fun inner => inner.kind = .invocation :=
  weigh_indicator _ node.nodes

/-- The children that a rule writes together are told apart by their roles: the operands of a
binary operator, the callee or base and the arguments, and the parts of a branch, which are no
`else`. -/
def SlotsApart (node : Node) : Prop :=
  (node.kind = .binary ∨ node.kind = .assignment →
    (node.slot? "left").isSome ∧ (node.slot? "right").isSome) ∧
  (node.kind = .invocation ∨ node.kind = .elementAccess →
    (node.slot? "expression").isSome ∧ ∀ child ∈ node.childNodes,
      child.kind = .argumentList ∨ child.kind = .bracketedArgumentList →
        child.role = some "arguments") ∧
  (node.kind = .ifStatement →
    (node.slot? "condition").any (·.kind != .elseClause) ∧
      (node.slot? "statement").any (·.kind != .elseClause))

instance : DecidablePred SlotsApart := fun _ => inferInstanceAs (Decidable (_ ∧ _ ∧ _))

variable {node child : Node}

theorem pick?_of_slot? {slot : Slot} (filled : node.slot? slot.role = some child) :
    node.pick? slot = some child := by
  rw [pick?, filled]

theorem role_of_slot? {role : String} (filled : node.slot? role = some child) :
    child.role = some role := by
  simpa using List.find?_some filled

/-- The child in a slot plays its role, or no child does and it stands in its position. -/
theorem pick?_cases {slot : Slot} (filled : node.pick? slot = some child) :
    child.role = some slot.role ∨
      node.slot? slot.role = none ∧ node.at? slot.position = some child := by
  unfold pick? at filled
  split at filled
  case h_1 found played =>
    cases filled
    exact .inl (role_of_slot? played)
  case h_2 absent => exact .inr ⟨absent, filled⟩

theorem weigh_apart {amount : Node → Nat} {slots : List Slot}
    (different : (slots.filterMap node.pick?).Nodup) :
    weigh amount (slots.filterMap node.pick?) ≤ weigh amount node.childNodes := by
  apply weigh_le_of_nodup different
  intro found member
  obtain ⟨slot, _, filled⟩ := List.mem_filterMap.mp member
  exact mem_of_pick? filled

/-- Arguments are found by their role, if they are found at all. -/
theorem SlotsApart.role_of_arguments {slot : Slot} {kind : NodeKind} (apart : node.SlotsApart)
    (calls : node.kind = .invocation ∨ node.kind = .elementAccess)
    (named : slot = ⟨"arguments", .ofKind kind⟩)
    (listed : kind = .argumentList ∨ kind = .bracketedArgumentList)
    (filled : node.pick? slot = some child) : child.role = some "arguments" := by
  subst named
  rcases pick?_cases filled with played | ⟨_, found⟩
  · exact played
  · have sameKind : child.kind = kind := by simpa using List.find?_some found
    apply (apart.2.1 calls).2 child (mem_of_at? found)
    rw [sameKind]
    exact listed

def Disjoint (node : Node) (first second : Slot) : Prop :=
  ∀ found, node.pick? first = some found → ∀ other, node.pick? second = some other → found ≠ other

theorem disjoint_of_roles {first second : Slot} {one two : String}
    (left : ∀ found, node.pick? first = some found → found.role = some one)
    (right : ∀ found, node.pick? second = some found → found.role = some two)
    (differ : one ≠ two) : node.Disjoint first second := by
  intro found filled other filledToo same
  have role := left found filled
  rw [same, right other filledToo] at role
  exact differ (Option.some.inj role).symm

theorem pick?_of_isSome {slot : Slot} (filled : (node.slot? slot.role).isSome) :
    ∀ found, node.pick? slot = some found → found.role = some slot.role := by
  intro found picked
  rcases pick?_cases picked with played | ⟨absent, _⟩
  · exact played
  · simp [absent] at filled

/-- A part of a branch that is no `else` is not written again as its `else`. -/
theorem disjoint_elseBranch {slot : Slot}
    (noElse : (node.slot? slot.role).any (·.kind != .elseClause)) (differ : slot.role ≠ "else") :
    node.Disjoint slot .elseBranch := by
  intro found filled other filledToo same
  obtain ⟨child, played, kind⟩ := (Option.any_eq_true _ _).mp noElse
  have first : found = child := by
    rw [pick?_of_slot? played] at filled
    exact (Option.some.inj filled).symm
  subst first same
  rcases pick?_cases filledToo with role | ⟨_, position⟩
  · rw [role_of_slot? played] at role
    exact differ (Option.some.inj role)
  · have clause := List.find?_some position
    simp_all

theorem SlotsApart.nodup (apart : node.SlotsApart) :
    (node.kind.jointSlots.filterMap node.pick?).Nodup := by
  rw [List.Nodup, List.pairwise_filterMap]
  change node.kind.jointSlots.Pairwise node.Disjoint
  -- where the roles of two slots differ, so do their children; an `else` may also go by its kind
  unfold NodeKind.jointSlots
  split
  case h_1 kind =>
    have operands := apart.1 (.inl kind)
    exact List.pairwise_pair.mpr (disjoint_of_roles (pick?_of_isSome operands.1)
      (pick?_of_isSome operands.2) (by decide))
  case h_2 kind =>
    have operands := apart.1 (.inr kind)
    exact List.pairwise_pair.mpr (disjoint_of_roles (pick?_of_isSome operands.1)
      (pick?_of_isSome operands.2) (by decide))
  case h_3 kind =>
    have callee := (apart.2.1 (.inl kind)).1
    exact List.pairwise_pair.mpr (disjoint_of_roles (pick?_of_isSome callee)
      (fun found => apart.role_of_arguments (.inl kind) rfl (.inl rfl)) (by decide))
  case h_4 kind =>
    have base := (apart.2.1 (.inr kind)).1
    exact List.pairwise_pair.mpr (disjoint_of_roles (pick?_of_isSome base)
      (fun found => apart.role_of_arguments (.inr kind) rfl (.inr rfl)) (by decide))
  case h_5 kind =>
    obtain ⟨condition, branch⟩ := apart.2.2 kind
    have parts : node.Disjoint .condition .branch :=
      disjoint_of_roles (pick?_of_isSome (Option.isSome_of_any condition))
        (pick?_of_isSome (Option.isSome_of_any branch)) (by decide)
    have afterCondition : node.Disjoint .condition .elseBranch :=
      disjoint_elseBranch condition (by decide)
    have afterBranch : node.Disjoint .branch .elseBranch := disjoint_elseBranch branch (by decide)
    simp [parts, afterCondition, afterBranch]
  case h_6 => exact List.Pairwise.nil

end Node

/-- Every node is written at most once, so the tree as a whole covers its parts. -/
def Allowance.counting (hole : Hole) : Allowance hole Node.SlotsApart where
  amount := Node.total hole
  covers node _ := Nat.le_of_eq (Node.total_eq hole node).symm
  apart _ ok := Node.weigh_apart ok.nodup

end SharpToJava
