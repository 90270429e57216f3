import SharpToJava.Proofs.GuardedStatement
import SharpToJava.Proofs.Run.Outcome

/-!
How deep a statement leaves its fragment. A rule comes back to the depth it started from, whatever
is nested in it; a node that has no rule is descended, and then each of its brace tokens counts. So
a statement leaves its fragment deeper by the brace tokens of the nodes that were descended on the
way (`Node.descents`).
-/

namespace SharpToJava

namespace Fragment

@[simp] theorem depth_shift (fragment : Fragment) (levels : Int) :
    (fragment.shift levels).depth = fragment.depth + levels := rfl

@[simp] theorem depth_append (fragment : Fragment) (added : String) :
    (fragment.append added).depth = fragment.depth := by
  unfold append
  split <;> rfl

end Fragment

namespace Layout

variable {profile : Profile} {layout : Layout} {levels further : Int}

/-- Whatever the fragment, writing the layout leaves it so many levels deeper. -/
def Levels (profile : Profile) (levels : Int) (layout : Layout) : Prop :=
  ∀ fragment : Fragment, (layout.write profile fragment).Gives
    fun after => after.depth = fragment.depth + levels

theorem levels_phrase (content : Phrase) : (Layout.phrase content).Levels profile 0 := by
  intro fragment
  simp only [write]
  exact RunM.gives_bind fun text => RunM.gives_pure (by rw [Fragment.depth_append, Int.add_zero])

theorem levels_text (written : String) : (Layout.text written).Levels profile 0 :=
  levels_phrase _

theorem levels_indent : Layout.indent.Levels profile 0 := by
  intro fragment
  simp only [write]
  exact RunM.gives_pure (by rw [Fragment.depth_append, Int.add_zero])

theorem levels_shift (levels : Int) : (Layout.shift levels).Levels profile levels := by
  intro fragment
  simp only [write]
  exact RunM.gives_pure rfl

theorem levels_nil : (Layout.join []).Levels profile 0 := by
  intro fragment
  simp only [write, writeAll]
  exact RunM.gives_pure (Int.add_zero _).symm

theorem Levels.cons {rest : List Layout} (first : layout.Levels profile levels)
    (later : (Layout.join rest).Levels profile further) :
    (Layout.join (layout :: rest)).Levels profile (levels + further) := by
  intro fragment
  simp only [write, writeAll]
  refine (first fragment).bind fun between moved => ?_
  have remaining := later between
  simp only [write] at remaining
  refine remaining.weaken fun after movedAgain => ?_
  rw [movedAgain, moved, Int.add_assoc]

/-- A layout that comes back to its depth does not count. -/
theorem Levels.after {rest : List Layout} (first : layout.Levels profile 0)
    (later : (Layout.join rest).Levels profile levels) :
    (Layout.join (layout :: rest)).Levels profile levels := by
  have both := first.cons later
  rwa [Int.zero_add] at both

theorem Levels.followed {rest : List Layout} (first : layout.Levels profile levels)
    (later : (Layout.join rest).Levels profile 0) :
    (Layout.join (layout :: rest)).Levels profile levels := by
  have both := first.cons later
  rwa [Int.add_zero] at both

theorem Levels.alone (only : layout.Levels profile levels) :
    (Layout.join [layout]).Levels profile levels := only.followed levels_nil

theorem levels_byLineStart {choose : Bool → Layout}
    (each : ∀ fresh, (choose fresh).Levels profile levels) :
    (Layout.byLineStart choose).Levels profile levels := by
  intro fragment
  simp only [write]
  exact each _ fragment

theorem levels_finishLine : Layout.finishLine.Levels profile 0 := by
  apply levels_byLineStart
  intro fresh
  cases fresh with
  | false => exact levels_text _
  | true => exact levels_nil

theorem Levels.deeper (inner : layout.Levels profile levels) :
    layout.deeper.Levels profile levels := by
  have around := (levels_shift 1).cons (inner.cons (levels_shift (-1)).alone)
  rwa [Int.add_comm levels, ← Int.add_assoc, Int.add_right_neg, Int.zero_add] at around

theorem levels_statement (content : Phrase) : (Layout.statement content).Levels profile 0 :=
  levels_indent.after ((levels_phrase content).after (levels_text _).alone)

theorem Levels.block {inline : Bool} {statements : List Layout}
    (inside : (Layout.join statements).Levels profile levels) :
    (Layout.block inline statements).Levels profile levels := by
  have opening : (if inline then Layout.text " \x7b\n" else
      .join [.indent, Layout.text "\x7b\n"]).Levels profile 0 := by
    cases inline with
    | true => exact levels_text _
    | false => exact levels_indent.after (levels_text _).alone
  have closing : (Layout.join [.indent, Layout.text "\x7d"]).Levels profile 0 :=
    levels_indent.after (levels_text _).alone
  exact opening.after (inside.deeper.followed closing)

end Layout

namespace Token

/-- How much deeper the lines after a token are, where its node is descended. -/
def levels (token : Token) : Int :=
  match token.kind with
  | .openBrace => 1
  | .closeBrace => -1
  | _ => 0

/-- How much deeper the lines after all the tokens are. -/
def totalLevels : List Token → Int
  | [] => 0
  | token :: rest => token.levels + totalLevels rest

theorem totalLevels_append (first second : List Token) :
    totalLevels (first ++ second) = totalLevels first + totalLevels second := by
  induction first with
  | nil => simp [totalLevels]
  | cons token rest ih => rw [List.cons_append, totalLevels, totalLevels, ih, Int.add_assoc]

theorem totalLevels_eq (tokens : List Token) :
    totalLevels tokens =
      tokens.countP (·.kind = .openBrace) - tokens.countP (·.kind = .closeBrace) := by
  induction tokens with
  | nil => rfl
  | cons token rest ih =>
      rw [totalLevels, ih, List.countP_cons, List.countP_cons]
      unfold levels
      split <;> simp_all <;> omega

theorem levels_descentLayout {profile : Profile} (token : Token) :
    token.descentLayout.Levels profile token.levels := by
  unfold levels
  split
  case h_1 kind =>
    rw [descentLayout, kind]
    exact (Layout.levels_text _).after (Layout.levels_shift 1).alone
  case h_2 kind =>
    rw [descentLayout, kind]
    exact (Layout.levels_shift (-1)).cons (Layout.levels_finishLine.after
      (Layout.levels_indent.after (Layout.levels_text _).alone))
  case h_3 notOpening notClosing =>
    unfold descentLayout
    split
    case h_1 kind => exact absurd kind notOpening
    case h_2 kind => exact absurd kind notClosing
    case h_3 => exact Layout.levels_text _
    case h_4 => exact Layout.levels_text _

end Token

namespace NodeKind

/-- Kinds that a rule writes where a statement should be. -/
def hasStatementRule (kind : NodeKind) : Bool := kind.isStatement || kind = .arrayType

/-- Kinds that are written as statements where the node above has no rule: statements, and nodes
that nobody knows. -/
def isPassedOn (kind : NodeKind) : Bool := kind.isStatement || kind = .unknown

end NodeKind

namespace Node

/-- The statements directly below a node: all children of a block, or what a branch or a loop is
for. -/
def statements (node : Node) : List Node :=
  if node.kind = .block then node.childNodes else node.governed?.toList

/-- The statements that the rule for a node writes as such. What stands where the `else` of a
branch should be counts as one, whatever its kind. -/
def heldStatements (node : Node) : List Node :=
  node.statements ++
    if node.kind = .ifStatement then
      ((node.pick? .elseBranch).bind (·.pick? .elseStatement)).toList
    else []

/-- The nodes below a node that are written as statements in its course: those that its rule holds,
or some of the children where there is no rule. -/
def passedOn (node : Node) : List Node :=
  if node.kind.hasStatementRule then node.heldStatements
  else node.childNodes.filter (·.kind.isPassedOn)

theorem mem_descendants_of_heldStatements {node statement : Node}
    (held : statement ∈ node.heldStatements) : statement ∈ node.descendants := by
  have child : ∀ inner ∈ node.childNodes, inner ∈ node.descendants := fun inner member =>
    mem_descendants.mpr ⟨inner, member, mem_nodes_self inner⟩
  rcases List.mem_append.mp held with direct | other
  · unfold statements at direct
    split at direct
    · exact child _ direct
    · exact child _ (mem_childNodes_of_governed? (Option.mem_toList.mp direct))
  · split at other
    case isTrue =>
      obtain ⟨clause, filled, held⟩ := Option.bind_eq_some_iff.mp (Option.mem_toList.mp other)
      exact mem_descendants.mpr ⟨clause, mem_of_pick? filled,
        nodes_subset_of_mem_childNodes (mem_of_pick? held) (mem_nodes_self statement)⟩
    case isFalse => exact absurd other List.not_mem_nil

theorem mem_descendants_of_passedOn {node statement : Node} (passed : statement ∈ node.passedOn) :
    statement ∈ node.descendants := by
  unfold passedOn at passed
  split at passed
  · exact mem_descendants_of_heldStatements passed
  · exact mem_descendants.mpr ⟨statement, (List.mem_filter.mp passed).1, mem_nodes_self statement⟩

/-- The nodes that are descended while a node is written as a statement, in order. A node that a
branch holds twice is descended twice. -/
def descents (node : Node) : List Node :=
  (if node.kind.hasStatementRule then [] else [node]) ++
    node.passedOn.attach.flatMap fun statement => statement.val.descents
termination_by node.size
decreasing_by
  exact size_lt_of_mem_descendants (mem_descendants_of_passedOn statement.property)

theorem descents_eq (node : Node) :
    node.descents =
      (if node.kind.hasStatementRule then [] else [node]) ++ node.passedOn.flatMap descents := by
  rw [descents, List.flatMap_subtype (g := descents) fun _ _ => rfl, List.unattach_attach]

/-- Only nodes without a rule are descended. -/
theorem of_mem_descents {node inner : Node} (descended : inner ∈ node.descents) :
    inner ∈ node.nodes ∧ inner.kind.hasStatementRule = false := by
  rw [descents_eq] at descended
  rcases List.mem_append.mp descended with here | deeper
  · split at here
    · exact absurd here List.not_mem_nil
    · rename_i noRule
      rw [List.mem_singleton.mp here]
      exact ⟨mem_nodes_self node, Bool.eq_false_iff.mpr noRule⟩
  · obtain ⟨statement, passed, below⟩ := List.mem_flatMap.mp deeper
    have inside := mem_descendants_of_passedOn passed
    have smaller := size_lt_of_mem_descendants inside
    obtain ⟨within, noRule⟩ := of_mem_descents below
    exact ⟨nodes_subset_of_mem (List.mem_cons_of_mem _ inside) within, noRule⟩
termination_by node.size

/-- The rule for the node holds only statements that have a rule themselves. -/
def HoldsRules (node : Node) : Prop :=
  ∀ statement ∈ node.heldStatements, statement.kind.hasStatementRule = true

/-- Under rules alone nothing is descended, however deep they are nested. -/
theorem descents_eq_nil {node : Node} (rule : node.kind.hasStatementRule = true)
    (every : node.Every HoldsRules) : node.descents = [] := by
  rw [descents_eq, if_pos rule, passedOn, if_pos rule, List.nil_append, List.flatMap_eq_nil_iff]
  intro statement held
  have inside := mem_descendants_of_heldStatements held
  have smaller := size_lt_of_mem_descendants inside
  exact descents_eq_nil (every.here statement held) (every.of_mem (List.mem_cons_of_mem _ inside))
termination_by node.size

/-- The tokens directly below the nodes that are descended. -/
def descendedTokens (node : Node) : List Token := node.descents.flatMap childTokens

/-- How much deeper a statement leaves its fragment. -/
def deepening (node : Node) : Int := Token.totalLevels node.descendedTokens

/-- How much deeper all the statements leave it. -/
def deepeningAmong : List Node → Int
  | [] => 0
  | node :: rest => node.deepening + deepeningAmong rest

theorem deepeningAmong_eq (nodes : List Node) :
    deepeningAmong nodes = Token.totalLevels ((nodes.flatMap descents).flatMap childTokens) := by
  induction nodes with
  | nil => rfl
  | cons node rest ih =>
      rw [deepeningAmong, ih, deepening, descendedTokens, List.flatMap_cons, List.flatMap_append,
        Token.totalLevels_append]

theorem deepeningAmong_append (first second : List Node) :
    deepeningAmong (first ++ second) = deepeningAmong first + deepeningAmong second := by
  induction first with
  | nil => simp [deepeningAmong]
  | cons node rest ih => rw [List.cons_append, deepeningAmong, deepeningAmong, ih, Int.add_assoc]

variable {node : Node}

/-- A rule adds nothing to what the statements add that it holds. -/
theorem deepening_of_rule (rule : node.kind.hasStatementRule = true) :
    node.deepening = deepeningAmong node.heldStatements := by
  rw [deepening, descendedTokens, descents_eq, if_pos rule, passedOn, if_pos rule,
    List.nil_append, deepeningAmong_eq]

theorem deepening_of_descent (noRule : node.kind.hasStatementRule = false) :
    node.deepening = Token.totalLevels node.childTokens +
      deepeningAmong (node.childNodes.filter (·.kind.isPassedOn)) := by
  have without : ¬node.kind.hasStatementRule = true := by simp [noRule]
  rw [deepening, descendedTokens, descents_eq, if_neg without, passedOn, if_neg without,
    List.flatMap_append, Token.totalLevels_append, List.flatMap_singleton, deepeningAmong_eq]

/-- What a child adds where its node is descended. -/
def share (child : Node) : Int := if child.kind.isPassedOn then child.deepening else 0

theorem share_of_passedOn (passed : node.kind.isPassedOn = true) : node.share = node.deepening :=
  if_pos passed

theorem share_of_dropped (noStatement : ¬node.kind.isStatement = true)
    (known : node.kind ≠ .unknown) : node.share = 0 :=
  if_neg (by simp [NodeKind.isPassedOn, noStatement, known])

theorem deepening_block (kind : node.kind = .block) :
    node.deepening = deepeningAmong node.childNodes := by
  rw [deepening_of_rule (by rw [kind]; rfl)]
  simp [heldStatements, statements, kind]

theorem deepening_for (kind : node.kind = .forStatement) :
    node.deepening = deepeningAmong node.forStatement?.toList := by
  rw [deepening_of_rule (by rw [kind]; rfl)]
  simp [heldStatements, statements, governed?, kind]

theorem deepening_if (kind : node.kind = .ifStatement) :
    node.deepening = deepeningAmong (node.pick? .branch).toList +
      deepeningAmong ((node.pick? .elseBranch).bind (·.pick? .elseStatement)).toList := by
  rw [deepening_of_rule (by rw [kind]; rfl),
    heldStatements, deepeningAmong_append]
  simp [statements, governed?, kind]

theorem deepening_else (kind : node.kind = .elseClause) :
    node.deepening = deepeningAmong (node.pick? .elseStatement).toList := by
  rw [deepening_of_rule (by rw [kind]; rfl)]
  simp [heldStatements, statements, governed?, kind]

/-- Rules that hold no statements come back to their depth. -/
theorem deepening_leaf {kind : NodeKind} (is : node.kind = kind)
    (leaf : kind ∈ [.expressionStatement, .returnStatement, .continueStatement, .breakStatement,
      .localDeclStatement, .variableDecl, .arrayType]) : node.deepening = 0 := by
  have rule : node.kind.hasStatementRule = true := by
    rw [is]
    exact (show ∀ kind ∈ _, kind.hasStatementRule = true by decide) kind leaf
  have holdsNone : node.heldStatements = [] := by
    simp only [List.mem_cons, List.not_mem_nil, or_false] at leaf
    rcases leaf with rfl | rfl | rfl | rfl | rfl | rfl | rfl <;>
      simp [heldStatements, statements, governed?, is]
  rw [deepening_of_rule rule, holdsNone, deepeningAmong]

end Node

namespace Layout

variable {profile : Profile} {build : Node → Layout}

/-- Statements in a row add up. -/
theorem levels_each {nodes : List Node}
    (each : ∀ node ∈ nodes, (build node).Levels profile node.deepening) :
    (Layout.join (nodes.map build)).Levels profile (Node.deepeningAmong nodes) := by
  induction nodes with
  | nil => exact levels_nil
  | cons node rest ih =>
      obtain ⟨first, later⟩ := List.forall_mem_cons.mp each
      exact first.cons (ih later)

theorem levels_optional {found : Option Node} {otherwise : Layout}
    (absent : otherwise.Levels profile 0)
    (present : ∀ node, found = some node → (build node).Levels profile node.deepening) :
    ((found.map build).getD otherwise).Levels profile (Node.deepeningAmong found.toList) := by
  cases found with
  | none => exact absent
  | some node =>
      have only := present node rfl
      rwa [← Int.add_zero node.deepening] at only

theorem ofOption_eq_getD (found : Option Layout) : ofOption found = found.getD empty := by
  cases found <;> rfl

/-- Where a node is descended, its tokens count, and of its children those that are passed on. -/
theorem levels_children {children : List Child}
    (each : ∀ inner, .node inner ∈ children → (build inner).Levels profile inner.share) :
    (Layout.join (children.map fun child =>
      match child with
      | .token token => token.descentLayout
      | .node inner => build inner)).Levels profile
        (Token.totalLevels (children.filterMap Child.token?) +
          Node.deepeningAmong ((children.filterMap Child.node?).filter (·.kind.isPassedOn))) := by
  induction children with
  | nil => exact levels_nil
  | cons child rest ih =>
      have later := ih fun inner member => each inner (List.mem_cons_of_mem _ member)
      cases child with
      | token token =>
          have both := token.levels_descentLayout.cons later
          rwa [← Int.add_assoc] at both
      | node inner =>
          have both := (each inner List.mem_cons_self).cons later
          rw [Int.add_left_comm] at both
          simp only [List.filterMap_cons, Child.token?, Child.node?, List.filter_cons]
          unfold Node.share at both
          split at both
          case isTrue passed => rwa [if_pos passed, Node.deepeningAmong]
          case isFalse dropped => rwa [if_neg dropped, ← Int.zero_add (Node.deepeningAmong _)]

end Layout

namespace Place

/-- A block adds up its statements, wherever it stands. -/
theorem levels_blockNodes (profile : Profile) (inline : Bool) {place : Place}
    (kind : place.kind = .block)
    (smaller : ∀ inner : Place, inner.size < place.size →
      inner.layout.Levels profile inner.node.deepening) :
    (Layout.block inline (place.node.childNodes.map fun child =>
      (place.enter child).layout)).Levels profile place.node.deepening := by
  rw [Node.deepening_block kind]
  apply Layout.Levels.block
  apply Layout.levels_each
  intro child member
  exact smaller (place.enter child) (Node.size_lt_of_mem member)

mutual
/-- A statement leaves its fragment deeper by the braces of the nodes that are descended. -/
theorem layout_deepens (place : Place) (profile : Profile) :
    place.layout.Levels profile place.node.deepening := by
  unfold layout
  split
  case h_1 kind =>
    have inside := fun inline => levels_blockNodes profile inline kind
      fun inner smaller => inner.layout_deepens profile
    simp only [mapNodes_eq_map]
    split
    · exact (inside false).followed (Layout.levels_text _).alone
    · exact inside true
  case h_2 kind =>
    rw [Node.deepening_leaf kind (by decide)]
    exact Layout.levels_statement _
  case h_3 kind =>
    have body : ((place.mapForStatement fun body _ => body.bodyLayout).getD
        (Layout.text ";\n")).Levels profile place.node.deepening := by
      rw [mapForStatement_eq_map, Node.deepening_for kind]
      apply Layout.levels_optional (Layout.levels_text _)
      intro statement found
      have smaller : statement.size < place.size := Node.size_lt_of_forStatement? found
      exact (place.enter statement).bodyLayout_deepens profile
    exact Layout.levels_indent.after ((Layout.levels_phrase _).after body.alone)
  case h_4 kind => exact place.ifLayout_deepens profile kind
  case h_5 kind =>
    rw [Node.deepening_else kind]
    exact place.elseLayout_deepens profile
  case h_6 kind =>
    rw [Node.deepening_leaf kind (by decide)]
    exact Layout.levels_statement _
  case h_7 kind =>
    rw [Node.deepening_leaf kind (by decide)]
    exact Layout.levels_statement _
  case h_8 kind =>
    rw [Node.deepening_leaf kind (by decide)]
    exact Layout.levels_statement _
  case h_9 kind =>
    rw [Node.deepening_leaf kind (by decide)]
    split
    · exact Layout.levels_statement _
    · exact Layout.levels_nil
  case h_10 kind =>
    rw [Node.deepening_leaf kind (by decide)]
    exact Layout.levels_phrase _
  case h_11 kind =>
    rw [Node.deepening_leaf kind (by decide)]
    exact Layout.levels_phrase _
  case h_12 =>
    have noRule : place.kind.hasStatementRule = false := by
      cases kind : place.kind <;> simp_all [NodeKind.hasStatementRule, NodeKind.isStatement]
    exact (Layout.levels_phrase _).after (Layout.levels_indent.after
      ((place.descentLayout_deepens profile noRule).followed Layout.levels_finishLine.alone))
termination_by 3 * place.size + 1

theorem bodyLayout_deepens (place : Place) (profile : Profile) :
    place.bodyLayout.Levels profile place.node.deepening := by
  unfold bodyLayout
  split
  case isTrue kind =>
    have inside := levels_blockNodes profile true kind fun inner smaller =>
      inner.layout_deepens profile
    simp only [mapNodes_eq_map]
    exact inside.followed (Layout.levels_text _).alone
  case isFalse => exact (Layout.levels_text _).after (place.layout_deepens profile).deeper.alone
termination_by 3 * place.size + 2

theorem ifLayout_deepens (place : Place) (profile : Profile) (kind : place.kind = .ifStatement) :
    place.ifLayout.Levels profile place.node.deepening := by
  have lead : (if place.isInside .elseClause then Layout.empty else .indent).Levels profile 0 := by
    split
    · exact Layout.levels_nil
    · exact Layout.levels_indent
  have body : ((place.mapSlot .branch fun body _ => body.bodyLayout).getD
      (Layout.text ";\n")).Levels profile
        (Node.deepeningAmong (place.node.pick? .branch).toList) := by
    rw [mapSlot_eq_map]
    apply Layout.levels_optional (Layout.levels_text _)
    intro statement filled
    have smaller : statement.size < place.size := Node.size_lt_of_pick? filled
    exact (place.enter statement).bodyLayout_deepens profile
  have other : (Layout.ofOption
      (place.mapSlot .elseBranch fun other _ => other.elseLayout)).Levels profile
        (Node.deepeningAmong
          ((place.node.pick? .elseBranch).bind (·.pick? .elseStatement)).toList) := by
    rw [mapSlot_eq_map]
    cases filled : place.node.pick? .elseBranch with
    | none => exact Layout.levels_nil
    | some clause =>
        -- whatever its kind, the clause is written as one, so only what it holds counts
        have smaller : clause.size < place.size := Node.size_lt_of_pick? filled
        exact (place.enter clause).elseLayout_deepens profile
  unfold ifLayout
  rw [Node.deepening_if kind]
  exact lead.after ((Layout.levels_phrase _).after (body.cons other.alone))
termination_by 3 * place.size

theorem elseLayout_deepens (place : Place) (profile : Profile) :
    place.elseLayout.Levels profile
      (Node.deepeningAmong (place.node.pick? .elseStatement).toList) := by
  unfold elseLayout
  simp only [mapSlot_eq_map, mapNodes_eq_map]
  rw [Layout.ofOption_eq_getD]
  apply Layout.levels_optional Layout.levels_nil
  intro statement filled
  have smaller : statement.size < place.size := Node.size_lt_of_pick? filled
  split
  case h_1 kind =>
    have chained := (place.enter statement).ifLayout_deepens profile kind
    exact Layout.levels_indent.after ((Layout.levels_text _).after chained.alone)
  case h_2 kind =>
    have inside := levels_blockNodes profile true kind fun inner deeper =>
      have : inner.size < place.size := Nat.lt_trans deeper smaller
      inner.layout_deepens profile
    exact Layout.levels_indent.after ((Layout.levels_text _).after
      (inside.followed (Layout.levels_text _).alone))
  case h_3 =>
    have below := (place.enter statement).layout_deepens profile
    exact Layout.levels_indent.after ((Layout.levels_text _).after below.deeper.alone)
termination_by 3 * place.size

theorem descentLayout_deepens (place : Place) (profile : Profile)
    (noRule : place.kind.hasStatementRule = false) :
    place.descentLayout.Levels profile place.node.deepening := by
  unfold descentLayout
  simp only [mapChildren_eq_map]
  rw [Node.deepening_of_descent noRule]
  apply Layout.levels_children
  intro child member
  have smaller : child.size < place.size := Node.size_lt_of_mem_children member
  simp only [show (place.enter child).kind = child.kind from rfl]
  split
  case isTrue kind =>
    -- a declaration is passed on as a part of a line, and has no depth of its own
    rw [Node.share_of_passedOn (by rw [kind]; rfl), Node.deepening_leaf kind (by decide)]
    exact Layout.levels_phrase _
  split
  case isTrue statement =>
    rw [Node.share_of_passedOn (Bool.or_eq_true_iff.mpr (.inl statement))]
    apply Layout.levels_byLineStart
    intro fresh
    cases fresh with
    | false => exact (place.enter child).bodyLayout_deepens profile
    | true => exact (place.enter child).layout_deepens profile
  case isFalse noStatement =>
    split
    case isTrue expression =>
      have known : child.kind ≠ .unknown := by
        intro unknown
        rw [unknown] at expression
        cases expression
      rw [Node.share_of_dropped noStatement known]
      exact Layout.levels_phrase _
    split
    case isTrue unknown =>
      have descended : (place.enter child).descentLayout.Levels profile child.deepening := by
        apply (place.enter child).descentLayout_deepens profile
        rw [show (place.enter child).kind = _ from unknown]
        rfl
      rw [Node.share_of_passedOn (by rw [unknown]; rfl)]
      apply (Layout.levels_phrase _).after
      apply Layout.Levels.alone
      apply Layout.levels_byLineStart
      intro fresh
      cases fresh with
      | false => exact descended
      | true =>
          exact Layout.levels_indent.after (descended.followed Layout.levels_finishLine.alone)
    case isFalse known =>
      rw [Node.share_of_dropped noStatement known]
      exact Layout.levels_phrase _
termination_by 3 * place.size
end

end Place

/-- A statement that is written leaves its fragment deeper by the opening brace tokens and less deep
by the closing ones that stand directly below the nodes which were descended. These are nodes
without a rule, so where every statement has a rule, the fragment is as deep as before. -/
theorem statement_depth (place : Place) (profile : Profile) (fragment written : Fragment)
    (before after : Journal)
    (done : (place.writeStatement profile fragment).run before = .ok written after) :
    written.depth = fragment.depth +
        place.node.descendedTokens.countP (·.kind = .openBrace) -
        place.node.descendedTokens.countP (·.kind = .closeBrace) ∧
    (∀ inner ∈ place.node.descents,
      inner ∈ place.node.nodes ∧ inner.kind.hasStatementRule = false) ∧
    (place.kind.hasStatementRule = true → place.node.Every Node.HoldsRules →
      written.depth = fragment.depth) := by
  have deepened := place.layout_deepens profile fragment before written after done
  refine ⟨?_, fun inner => Node.of_mem_descents, fun rule every => ?_⟩
  · rw [deepened, Node.deepening, Token.totalLevels_eq, Int.add_sub_assoc]
  · rw [deepened, Node.deepening, Node.descendedTokens, Node.descents_eq_nil rule every]
    exact Int.add_zero _

/-- `if (a) fixed { fixed { { break; }` and then `else { fixed } }`: blocks and branches around
three nodes that have no rule. -/
def Place.unclosedBranch : Place where
  node := .mk { kind := .ifStatement } [
    .node (.mk { kind := .identifierName } [.token { kind := .identifier, text := "a" }]),
    .node (.mk { kind := .unknown } [
      .token { kind := .openBrace, text := "\x7b" },
      .node (.mk { kind := .unknown } [
        .token { kind := .openBrace, text := "\x7b" },
        .node (.mk { kind := .block } [
          .token { kind := .openBrace, text := "\x7b" },
          .node (.mk { kind := .breakStatement } []),
          .token { kind := .closeBrace, text := "\x7d" }])])]),
    .node (.mk { kind := .elseClause } [.node (.mk { kind := .block } [
      .token { kind := .openBrace, text := "\x7b" },
      .node (.mk { kind := .unknown } [.token { kind := .closeBrace, text := "\x7d" }]),
      .token { kind := .closeBrace, text := "\x7d" }])])]

/-- Of the braces of the branch only those of the three nodes count: two open and one closes. -/
theorem statement_depth_unclosedBranch :
    ∃ written after,
      (Place.unclosedBranch.writeStatement (Profile.java true) { depth := 1 }).run Journal.java =
        .ok written after ∧ written.depth = 1 + 2 - 1 := by
  have ends : ((Place.unclosedBranch.writeStatement (Profile.java true)
      { depth := 1 }).result? Journal.java).isSome = true := by decide +kernel
  obtain ⟨written, found⟩ := Option.isSome_iff_exists.mp ends
  obtain ⟨after, ran⟩ := RunM.exists_of_result? found
  have opening : Place.unclosedBranch.node.descendedTokens.countP (·.kind = .openBrace) = 2 := by
    decide +kernel
  have closing : Place.unclosedBranch.node.descendedTokens.countP (·.kind = .closeBrace) = 1 := by
    decide +kernel
  have depth := (statement_depth _ _ _ _ _ _ ran).1
  rw [opening, closing] at depth
  exact ⟨written, after, ran, depth⟩

end SharpToJava
