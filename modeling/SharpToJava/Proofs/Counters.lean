import SharpToJava.Compiler
import SharpToJava.Proofs.Decl.Promise
import SharpToJava.Proofs.Run.Raises

/-!
Fresh names are taken sparingly: no part of a tree is written twice, so a run makes up at most one
name for every discarded value in the tree, and at most one writer for every call.
-/

namespace SharpToJava

open RunM

namespace Place

variable {hole : Hole} {allowed : Node → Prop} (allowance : Allowance hole allowed)
  (profile : Profile) {place : Place}

theorem raises_expression (every : place.node.Every allowed) (depth : Int) :
    Raises hole (allowance.amount place.node) (place.expression profile depth) :=
  (place.phrase.raises_render profile depth).weaken (phrase_holes_le allowance every)

theorem raises_writeStatement (every : place.node.Every allowed) (fragment : Fragment) :
    Raises hole (allowance.amount place.node) (place.writeStatement profile fragment) :=
  (place.layout.raises_write profile fragment).weaken (layout_holes_le allowance place every)

theorem raises_block (every : place.node.Every allowed) (depth : Int) :
    Raises hole (allowance.amount place.node) (place.block profile depth) := by
  have statements := nodeLayouts_holes_le allowance every fun inner _ =>
    layout_holes_le allowance inner
  apply (Layout.raises_render profile _ depth).weaken
  rwa [Layout.holes_block]

theorem raises_arrowBody (every : place.node.Every allowed) (depth : Int) (returnsValue : Bool) :
    Raises hole (allowance.amount place.node) (place.arrowBody profile depth returnsValue) := by
  have written := phrase_holes_le allowance every
  apply (Layout.raises_render profile _ depth).weaken
  simpa using written

theorem raises_methodBody (every : place.node.Every allowed) (returnsValue : Bool) :
    Raises hole (allowance.amount place.node) (place.methodBody profile returnsValue) := by
  unfold methodBody
  cases found : place.node.childOfKind? .block with
  | some block =>
      have member := List.mem_of_find?_eq_some found
      have inside : (place.enter block).node.Every allowed := every.of_child member
      exact ((raises_block allowance profile inside 1).map some).weaken
        (allowance.child_le every.here member)
  | none =>
      cases arrowed : place.node.childOfKind? .arrowClause with
      | none => exact raises_pure none
      | some arrow =>
          have member := List.mem_of_find?_eq_some arrowed
          have inside := every.of_child member
          cases filled : arrow.pick? .expression with
          | none => simpa only [filled] using raises_pure none
          | some expression =>
              have within : ((place.enter arrow).enter expression).node.Every allowed :=
                inside.of_pick? filled
              have bound := Nat.le_trans
                (allowance.child_le inside.here (Node.mem_of_pick? filled))
                (allowance.child_le every.here member)
              have written := raises_arrowBody allowance profile within 1 returnsValue
              simpa only [filled] using (written.weaken bound).map some

theorem raises_initializer (every : place.node.Every allowed) :
    Raises hole (allowance.amount place.node) (place.initializer profile) := by
  unfold initializer
  split
  case h_1 clause found =>
    split
    case h_1 value filled =>
      have member := List.mem_of_find?_eq_some found
      have inside := every.of_child member
      have within : ((place.enter clause).enter value).node.Every allowed := inside.of_pick? filled
      apply ((raises_expression allowance profile within 1).map some).weaken
      exact Nat.le_trans (allowance.child_le inside.here (Node.mem_of_pick? filled))
        (allowance.child_le every.here member)
    case h_2 => exact raises_pure none
  case h_2 => exact raises_pure none

theorem raises_declarators (place : Place) {nodes : List Node}
    (each : ∀ node ∈ nodes, node.Every allowed) :
    Raises hole (weigh allowance.amount nodes) (place.declarators profile nodes) := by
  induction nodes with
  | nil => exact raises_pure []
  | cons node rest ih =>
      have others := ih fun later member => each later (List.mem_cons_of_mem _ member)
      have every : (place.enter node).node.Every allowed := each node List.mem_cons_self
      rw [weigh_cons]
      exact (raises_initializer allowance profile every).bind fun value =>
        others.map ((node.identifier, value) :: ·)

theorem raises_fieldDecl (every : place.node.Every allowed) :
    Raises hole (allowance.amount place.node) (place.fieldDecl profile) := by
  unfold fieldDecl
  split
  case h_1 =>
    exact (raises_note profile _).bind_quiet fun _ => raises_pure none
  case h_2 declaration found =>
    have member := Node.mem_nodes_of_find? found
    have inside := every.of_mem member
    have children : (declaration.childrenOfKind .variableDeclarator).Sublist
        declaration.childNodes := List.filter_sublist
    have written := (place.enter declaration).raises_declarators allowance profile
      fun node listed => inside.of_child (children.subset listed)
    have bound := Nat.le_trans (allowance.sublist_le inside.here children)
      (allowance.below_le every member)
    exact (raises_mapType profile .body _).bind_quiet fun _ => (written.weaken bound).map _

theorem raises_propertyDecl (every : place.node.Every allowed) :
    Raises hole (allowance.amount place.node) (place.propertyDecl profile) :=
  (raises_mapType profile .body _).bind_quiet fun _ =>
    (raises_initializer allowance profile every).map _

theorem raises_parameterDecl (node : Node) : Raises hole 0 (parameterDecl profile node) := by
  unfold parameterDecl
  split
  · exact (raises_mapType profile .body _).bind_quiet fun _ => raises_pure _
  · exact raises_pure none

theorem raises_methodDecl (every : place.node.Every allowed) :
    Raises hole (allowance.amount place.node) (place.methodDecl profile) := by
  have given : Raises hole 0 (collect (parameterDecl profile) (parameterNodes place.node)) := by
    apply (raises_collect fun node _ => raises_parameterDecl profile node).weaken
    simp
  exact (raises_mapType profile .returned _).bind_quiet fun returnType =>
    given.bind_quiet fun parameters =>
      (raises_methodBody allowance profile every (returnType != "void")).map _

theorem raises_bases (owner : String) (found : Bases) (entries : List Node) :
    Raises hole 0 (bases profile owner found entries) := by
  induction entries generalizing found with
  | nil => exact raises_pure found
  | cons entry rest ih =>
      apply (raises_mapType profile .body entry.typeText).bind_quiet
      intro mapped
      split
      · exact ih _
      · split
        · exact (raises_note profile _).bind_quiet fun _ => ih _
        · exact ih _

theorem raises_memberDecl (every : place.node.Every allowed) (owner : String) :
    Raises hole (allowance.amount place.node) (place.memberDecl profile owner) := by
  unfold memberDecl
  split
  case h_1 => exact (raises_methodDecl allowance profile every).map _
  case h_2 => exact (raises_fieldDecl allowance profile every).map _
  case h_3 => exact raises_pure _
  case h_4 => exact (raises_propertyDecl allowance profile every).map _
  case h_5 => exact raises_pure none
  case h_6 =>
    exact (raises_note profile _).bind_quiet fun _ => raises_pure none

theorem raises_classDecl (every : place.node.Every allowed) :
    Raises hole (allowance.amount place.node) (place.classDecl profile) := by
  have members : Raises hole (weigh allowance.amount place.node.childNodes) (collect
      (fun child => (place.enter child).memberDecl profile place.node.identifier)
      place.node.childNodes) := by
    apply raises_collect
    intro child member
    have inside : (place.enter child).node.Every allowed := every.of_child member
    exact raises_memberDecl allowance profile inside place.node.identifier
  exact (raises_bases profile _ {} _).bind_quiet fun bases =>
    (members.weaken (allowance.children_le every.here)).map _

theorem raises_topDecl (every : place.node.Every allowed) (isName : Bool) :
    Raises hole (allowance.amount place.node) (place.topDecl profile isName) := by
  unfold topDecl
  split
  case h_1 => exact (raises_classDecl allowance profile every).map _
  case h_2 => exact raises_pure _
  case h_3 =>
    cases isName with
    | true => exact raises_pure none
    | false =>
        exact (raises_note profile _).bind_quiet fun _ => raises_pure none

theorem raises_unitDecl (every : place.node.Every allowed) :
    Raises hole (allowance.amount place.node) (place.unitDecl profile) := by
  have within := every.of_mem place.mem_nodes_outline
  have tops : Raises hole (weigh (allowance.amount ∘ Prod.fst)
      place.outline.node.childNodes.zipIdx) (place.topDecls profile) := by
    apply raises_collect
    intro child member
    have inside : (place.outline.enter child.1).node.Every allowed :=
      within.of_child (List.fst_mem_of_mem_zipIdx member)
    exact raises_topDecl allowance profile inside _
  rw [← weigh_map, List.zipIdx_map_fst] at tops
  have bound := Nat.le_trans (allowance.children_le within.here)
    (allowance.below_le every place.mem_nodes_outline)
  rw [unitDecl_eq]
  exact (tops.weaken bound).map _

end Place

def Node.discardCount (node : Node) : Nat :=
  node.nodes.countP fun inner => inner.kind = .identifierName ∧ inner.identifier = "_"

def Node.callCount (node : Node) : Nat := node.nodes.countP fun inner => inner.kind = .invocation

/-- A run raises its counters by no more than one for every discarded value and every call of a
tree, whether it fails or not. -/
structure RunM.TakesNamesOf {α : Type} (node : Node) (run : RunM α) : Prop where
  discards : ∀ before : Journal,
    (run.after before).discards ≤ before.discards + node.discardCount
  writers : ∀ before : Journal,
    (run.after before).tempCount "writer" ≤ before.tempCount "writer" + node.callCount

theorem RunM.takesNamesOf_of_raises {α : Type} {node : Node} {run : RunM α}
    (raises : ∀ hole, Raises hole (node.total hole) run) : run.TakesNamesOf node where
  discards := by
    rw [Node.discardCount, ← Node.total_discard]
    exact raises .discard
  writers := by
    rw [Node.callCount, ← Node.total_call]
    exact raises .call

/-- No node is written twice, as far as fresh names tell: where the children that a rule writes
together are told apart, neither a whole run nor the writing of any part of the tree takes more
names than there are nodes to take them for. -/
theorem names_within_tree (root : Node) (apart : root.Every Node.SlotsApart) (profile : Profile) :
    let harvested := (Place.unitDecl ⟨root, []⟩ profile).after Journal.java
    (harvested.discards ≤ root.discardCount ∧ harvested.tempCount "writer" ≤ root.callCount) ∧
      ∀ place : Place, place.node ∈ root.nodes →
        (∀ depth, (place.expression profile depth).TakesNamesOf place.node) ∧
        ∀ fragment, (place.writeStatement profile fragment).TakesNamesOf place.node := by
  constructor
  · have whole : (⟨root, []⟩ : Place).node.Every Node.SlotsApart := apart
    have taken := takesNamesOf_of_raises fun hole =>
      Place.raises_unitDecl (.counting hole) profile whole
    -- nothing is counted in a fresh journal
    have discards := taken.discards Journal.java
    have writers := taken.writers Journal.java
    exact ⟨by rwa [show Journal.java.discards = 0 from rfl, Nat.zero_add] at discards,
      by rwa [show Journal.java.tempCount "writer" = 0 from rfl, Nat.zero_add] at writers⟩
  · intro place member
    have inside := apart.of_mem member
    exact ⟨fun depth => takesNamesOf_of_raises fun hole =>
        Place.raises_expression (.counting hole) profile inside depth,
      fun fragment => takesNamesOf_of_raises fun hole =>
        Place.raises_writeStatement (.counting hole) profile inside fragment⟩

/-- `class A { void M() { _ = File.WriteAllText(p, t); } }` -/
def Node.discardedWrite : Node :=
  .mk { kind := .unknown } [.node (.mk { kind := .classDecl } [
    .token { kind := .identifier, text := "A" },
    .node (.mk { kind := .methodDecl } [
      .node (.mk { kind := .predefinedType } [.token { kind := .identifier, text := "void" }]),
      .token { kind := .identifier, text := "M" },
      .node (.mk { kind := .block } [.node (.mk { kind := .expressionStatement } [
        .node (.mk { kind := .assignment } [
          .node (.mk { kind := .identifierName, role := some "left" }
            [.token { kind := .identifier, text := "_" }]),
          .token { kind := .equals, text := "=" },
          .node (.mk { kind := .invocation, role := some "right" } [
            .node (.mk { kind := .memberAccess, role := some "expression" } [
              .node (.mk { kind := .identifierName }
                [.token { kind := .identifier, text := "File" }]),
              .node (.mk { kind := .identifierName }
                [.token { kind := .identifier, text := "WriteAllText" }])]),
            .node (.mk { kind := .argumentList, role := some "arguments" } [
              .node (.mk { kind := .argument } [.node (.mk { kind := .identifierName }
                [.token { kind := .identifier, text := "p" }])]),
              .node (.mk { kind := .argument } [.node (.mk { kind := .identifierName }
                [.token { kind := .identifier, text := "t" }])])])])])])])])])]

theorem names_within_discardedWrite :
    let harvested :=
      (Place.unitDecl ⟨Node.discardedWrite, []⟩ (Profile.java true)).after Journal.java
    harvested.discards ≤ 1 ∧ harvested.tempCount "writer" ≤ 1 := by
  have within := (names_within_tree Node.discardedWrite (by decide) (Profile.java true)).1
  have counts : Node.discardedWrite.discardCount = 1 ∧ Node.discardedWrite.callCount = 1 := by
    decide
  rwa [counts.1, counts.2] at within

end SharpToJava
