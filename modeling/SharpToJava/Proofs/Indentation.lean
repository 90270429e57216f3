import SharpToJava.Proofs.Layout.Position
import SharpToJava.Proofs.Likeness.Rules
import SharpToJava.Proofs.Phrase.Shift

/-!
A block one level deeper. Written at two depths side by side, statements give the same text but for
the tabs: on the deeper side there is one more after every new line. Right after a new line the tab
is still owed, and it is paid by the indentation of the next statement or of the closing brace.
-/

namespace SharpToJava

/-- Two fragments one level apart. The second has one more tab after every new line of the first,
but for what is still owed at its end. -/
structure Fragment.Shifted (owed : String) (depth : Int) (first second : Fragment) : Prop where
  shallow : first.depth = depth
  deep : second.depth = depth + 1
  text : second.text ++ owed = Text.shiftLines first.text

namespace Fragment.Shifted

variable {owed : String} {depth : Int} {first second : Fragment}

/-- Where nothing is owed, what is appended may leave something. -/
theorem append (shifted : first.Shifted "" depth second) {written moved : String}
    (both : moved ++ owed = Text.shiftLines written) :
    (first.append written).Shifted owed depth (second.append moved) where
  shallow := by rw [depth_append, shifted.shallow]
  deep := by rw [depth_append, shifted.deep]
  text := by
    have before := shifted.text
    rw [String.append_empty] at before
    rw [text_append, text_append, Text.shiftLines_append, ← before, ← both, String.append_assoc]

/-- The tab that is owed is the one that the deeper line has more. -/
theorem indent (shifted : first.Shifted "\t" depth second) (positive : 0 ≤ depth) :
    (first.append first.indent).Shifted "" depth (second.append second.indent) where
  shallow := by rw [depth_append, shifted.shallow]
  deep := by rw [depth_append, shifted.deep]
  text := by
    rw [String.append_empty, text_append, text_append, Fragment.indent, Fragment.indent,
      shifted.shallow, shifted.deep, Text.indentation_succ positive, Text.shiftLines_append,
      ← shifted.text, Text.shiftLines_of_not_mem (newline_not_mem_indentation depth),
      String.append_assoc]

theorem shift (shifted : first.Shifted owed depth second) (levels : Int) :
    (first.shift levels).Shifted owed (depth + levels) (second.shift levels) where
  shallow := by rw [depth_shift, shifted.shallow]
  deep := by
    rw [depth_shift, shifted.deep]
    omega
  text := shifted.text

end Fragment.Shifted

namespace Layout

variable {profile : Profile} {depth : Int} {layout : Layout} {before between after : String}

/-- Written one level apart, the layout goes in step and leaves the second text shifted, with what
is owed before and after it. -/
def Carries (profile : Profile) (depth : Int) (before after : String) (layout : Layout) : Prop :=
  ∀ first second : Fragment, first.Shifted before depth second →
    RunM.InStep (Fragment.Shifted after depth) (layout.write profile first)
      (layout.write profile second)

theorem carries_nil (owed : String) : (Layout.join []).Carries profile depth owed owed := by
  intro first second shifted
  simp only [write, writeAll]
  exact RunM.inStep_pure shifted

theorem Carries.cons {rest : List Layout} (here : layout.Carries profile depth before between)
    (later : (Layout.join rest).Carries profile depth between after) :
    (Layout.join (layout :: rest)).Carries profile depth before after := by
  intro first second shifted
  simp only [write, writeAll]
  refine (here first second shifted).bind fun result value moved => ?_
  have remaining := later result value moved
  simpa only [write] using remaining

theorem carries_join {layouts : List Layout} {owed : String}
    (each : ∀ layout ∈ layouts, layout.Carries profile depth owed owed) :
    (Layout.join layouts).Carries profile depth owed owed := by
  induction layouts with
  | nil => exact carries_nil owed
  | cons layout rest ih =>
      exact (each layout List.mem_cons_self).cons
        (ih fun other member => each other (List.mem_cons_of_mem _ member))

theorem carries_ofOption {found : Option Layout} {owed : String}
    (each : ∀ layout ∈ found, layout.Carries profile depth owed owed) :
    (Layout.ofOption found).Carries profile depth owed owed := by
  cases found with
  | none => exact carries_nil owed
  | some layout => exact each layout rfl

theorem carries_text {written : String} (both : written ++ after = Text.shiftLines written) :
    (Layout.text written).Carries profile depth "" after := by
  intro first second shifted
  simp only [text, write, Phrase.render_text, pure_bind]
  exact RunM.inStep_pure (shifted.append both)

theorem carries_newline : newline.Carries profile depth "" "\t" := carries_text rfl

theorem carries_phrase {content : Phrase} (within : content.Within Wording.oneLine)
    (brings : profile.types.Brings (· ≠ '\n')) (positive : 0 ≤ depth) :
    (Layout.phrase content).Carries profile depth "" "" := by
  intro first second shifted
  simp only [write]
  rw [shifted.shallow, shifted.deep, within.render_shiftLines brings positive]
  refine (RunM.inStep_map (fun _ => rfl) _).bind fun written moved both => ?_
  exact RunM.inStep_pure (shifted.append (by rw [both, String.append_empty]))

theorem carries_indent (positive : 0 ≤ depth) : Layout.indent.Carries profile depth "\t" "" := by
  intro first second shifted
  simp only [write]
  exact RunM.inStep_pure (shifted.indent positive)

theorem Carries.deeper (inner : layout.Carries profile (depth + 1) before after) :
    layout.deeper.Carries profile depth before after := by
  intro first second shifted
  simp only [Layout.deeper, write, writeAll, pure_bind]
  refine (inner _ _ (shifted.shift 1)).bind fun result value moved => RunM.inStep_pure ?_
  have back := moved.shift (-1)
  rwa [Int.add_neg_cancel_right] at back

theorem carries_statement {content : Phrase} (within : content.Within Wording.oneLine)
    (brings : profile.types.Brings (· ≠ '\n')) (positive : 0 ≤ depth) :
    (Layout.statement content).Carries profile depth "\t" "\t" := by
  have ended : (Layout.text ";\n").Carries profile depth "" "\t" := carries_text rfl
  exact (carries_indent positive).cons
    ((carries_phrase within brings positive).cons (ended.cons (carries_nil _)))

section Block

variable {statements : List Layout} (positive : 0 ≤ depth)
  (each : ∀ statement ∈ statements, statement.Carries profile (depth + 1) "\t" "\t")
include positive each

/-- The statements of a block start and end with a tab owed; the closing brace settles that. -/
theorem carries_closed :
    (Layout.join [.deeper (.join statements), .indent, .text "\x7d"]).Carries profile depth
      "\t" "" := by
  have brace : (Layout.text "\x7d").Carries profile depth "" "" := carries_text rfl
  exact (carries_join each).deeper.cons ((carries_indent positive).cons (brace.cons (carries_nil _)))

theorem carries_block : (Layout.block true statements).Carries profile depth "" "" := by
  have opened : (Layout.text " \x7b\n").Carries profile depth "" "\t" := carries_text rfl
  exact opened.cons (carries_closed positive each)

theorem carries_ownBlock : (Layout.block false statements).Carries profile depth "\t" "" := by
  have brace : (Layout.text "\x7b\n").Carries profile depth "" "\t" := carries_text rfl
  have opened := (carries_indent positive).cons (brace.cons (carries_nil _))
  exact opened.cons (carries_closed positive each)

end Block

end Layout

/-- Kinds with a rule that writes a statement. -/
def NodeKind.isRuled : NodeKind → Bool
  | .block | .expressionStatement | .forStatement | .ifStatement | .elseClause
  | .returnStatement | .continueStatement | .breakStatement | .localDeclStatement => true
  | _ => false

namespace Node

/-- Every statement has a rule. -/
def HoldsRuled (node : Node) : Prop :=
  ∀ statement ∈ node.heldStatements, statement.kind.isRuled = true

instance : DecidablePred HoldsRuled := fun node =>
  inferInstanceAs (Decidable (∀ statement ∈ node.heldStatements, _))

/-- A branch that goes on with a branch does so in an `else` clause. -/
def ChainsByElse (node : Node) : Prop :=
  node.kind = .ifStatement → ∀ clause ∈ (node.pick? .elseBranch).toList,
    ((clause.pick? .elseStatement).any fun statement => statement.kind == .ifStatement) = true →
      clause.kind = .elseClause

instance : DecidablePred ChainsByElse := fun _ => inferInstanceAs (Decidable (_ → _))

end Node

/-- A place whose statements have rules and whose words stay on one line. -/
structure Place.Steady (place : Place) : Prop where
  ruled : place.node.Every Node.HoldsRuled
  chained : place.node.Every Node.ChainsByElse
  words : place.Every Wording.oneLine.Accepts

namespace Place

variable {profile : Profile} {place : Place} {child : Node}

theorem Steady.enter_child (steady : place.Steady) (member : child ∈ place.node.childNodes) :
    (place.enter child).Steady :=
  ⟨steady.ruled.of_child member, steady.chained.of_child member, steady.words.enter_child member⟩

theorem Steady.enter_pick? {slot : Slot} (steady : place.Steady)
    (filled : place.node.pick? slot = some child) : (place.enter child).Steady :=
  steady.enter_child (Node.mem_of_pick? filled)

/-- What a branch or a loop is for is not inside an `else` clause, unless its owner is one. -/
theorem isInside_enter_of_ne {kind : NodeKind} (differs : place.kind ≠ kind) :
    (place.enter child).isInside kind = false :=
  beq_false_of_ne differs

theorem carries_nodes (kind : place.kind = .block) (steady : place.Steady) {depth : Int}
    (smaller : ∀ inner : Place, inner.size < place.size → inner.Steady →
      inner.kind.isRuled = true → (inner.kind = .block → inner.isInside .block = true) →
      (inner.kind = .ifStatement → inner.isInside .elseClause = false) →
        inner.layout.Carries profile depth "\t" "\t") :
    ∀ layout ∈ place.node.childNodes.map fun child => (place.enter child).layout,
      layout.Carries profile depth "\t" "\t" := by
  intro layout member
  obtain ⟨child, present, rfl⟩ := List.mem_map.mp member
  exact smaller _ (Node.size_lt_of_mem present) (steady.enter_child present)
    (steady.ruled.here _ (Node.mem_heldStatements_of_block kind present))
    (fun _ => beq_iff_eq.mpr kind) fun _ => isInside_enter_of_ne (by simp [kind])

mutual
/-- A statement starts a line and ends it, at whatever depth. -/
theorem layout_carries (brings : profile.types.Brings (· ≠ '\n')) (place : Place)
    (steady : place.Steady) (ruled : place.kind.isRuled = true)
    (inBlock : place.kind = .block → place.isInside .block = true)
    (apart : place.kind = .ifStatement → place.isInside .elseClause = false) {depth : Int}
    (positive : 0 ≤ depth) : place.layout.Carries profile depth "\t" "\t" := by
  have below : 0 ≤ depth + 1 := by omega
  unfold layout
  split
  case h_1 kind =>
    have inside := carries_nodes kind steady fun inner smaller steady ruled inBlock apart =>
      inner.layout_carries brings steady ruled inBlock apart below
    simp only [mapNodes_eq_map, inBlock kind, if_true]
    exact (Layout.carries_ownBlock positive inside).cons
      (Layout.carries_newline.cons (Layout.carries_nil _))
  case h_2 => exact Layout.carries_statement (slotPhrase_within steady.words _) brings positive
  case h_3 kind =>
    have header := Layout.carries_phrase (forHeaderPhrase_within steady.words) brings positive
    have body : ((place.mapForStatement fun body _ => body.bodyLayout).getD
        (Layout.text ";\n")).Carries profile depth "" "\t" := by
      rw [mapForStatement_eq_map]
      cases found : place.node.forStatement? with
      | none => exact Layout.carries_text rfl
      | some statement =>
          have smaller : statement.size < place.size := Node.size_lt_of_forStatement? found
          have governed : place.node.governed? = some statement := by
            rw [Node.governed?, show place.node.kind = _ from kind]
            exact found
          exact (place.enter statement).bodyLayout_carries brings
            (steady.enter_child (Node.mem_childNodes_of_forStatement? found))
            (steady.ruled.here _ (Node.mem_heldStatements_of_governed? governed))
            (isInside_enter_of_ne (by simp [kind])) positive
    exact (Layout.carries_indent positive).cons
      (header.cons (body.cons (Layout.carries_nil _)))
  case h_4 kind =>
    have branch := place.ifLayout_carries brings steady kind positive
    rwa [apart kind] at branch
  case h_5 kind =>
    refine place.elseLayout_carries brings steady (fun statement held => ?_)
      (fun _ _ _ => kind) positive
    apply steady.ruled.here
    apply Node.mem_heldStatements_of_governed?
    rw [Node.governed?, show place.node.kind = _ from kind]
    exact held
  case h_6 =>
    exact Layout.carries_statement (.pair (.plain (by decide))
      (.ledBy (Wording.oneLine.plain _ (by decide)) (slotPhrase_within steady.words _)))
      brings positive
  case h_7 => exact Layout.carries_statement (.plain (by decide)) brings positive
  case h_8 => exact Layout.carries_statement (.plain (by decide)) brings positive
  case h_9 =>
    split
    case h_1 declaration filled =>
      exact Layout.carries_statement
        (declarationPhrase_within (steady.enter_pick? filled).words) brings positive
    case h_2 => exact Layout.carries_nil _
  case h_10 kind => simp [NodeKind.isRuled, kind] at ruled
  case h_11 kind => simp [NodeKind.isRuled, kind] at ruled
  case h_12 notBlock _ _ _ _ _ _ _ _ _ _ =>
    unfold NodeKind.isRuled at ruled
    split at ruled <;> contradiction
termination_by 3 * place.size + 1

theorem bodyLayout_carries (brings : profile.types.Brings (· ≠ '\n')) (place : Place)
    (steady : place.Steady) (ruled : place.kind.isRuled = true)
    (apart : place.isInside .elseClause = false) {depth : Int} (positive : 0 ≤ depth) :
    place.bodyLayout.Carries profile depth "" "\t" := by
  have below : 0 ≤ depth + 1 := by omega
  unfold bodyLayout
  split
  case isTrue kind =>
    have inside := carries_nodes kind steady fun inner smaller steady ruled inBlock apart =>
      inner.layout_carries brings steady ruled inBlock apart below
    simp only [mapNodes_eq_map]
    exact (Layout.carries_block positive inside).cons
      (Layout.carries_newline.cons (Layout.carries_nil _))
  case isFalse notBlock =>
    have inner := place.layout_carries brings steady ruled (fun kind => absurd kind notBlock)
      (fun _ => apart) below
    exact Layout.carries_newline.cons (inner.deeper.cons (Layout.carries_nil _))
termination_by 3 * place.size + 2

theorem ifLayout_carries (brings : profile.types.Brings (· ≠ '\n')) (place : Place)
    (steady : place.Steady) (kind : place.kind = .ifStatement) {depth : Int}
    (positive : 0 ≤ depth) :
    place.ifLayout.Carries profile depth (if place.isInside .elseClause then "" else "\t")
      "\t" := by
  have lead : (if place.isInside .elseClause then Layout.empty else .indent).Carries profile depth
      (if place.isInside .elseClause then "" else "\t") "" := by
    split
    · exact Layout.carries_nil _
    · exact Layout.carries_indent positive
  have header : (Layout.phrase (.join
      [.text "if (", place.slotPhrase .condition, .text ")"])).Carries profile depth "" "" :=
    Layout.carries_phrase (.triple (.plain (by decide)) (slotPhrase_within steady.words _)
      (.plain (by decide))) brings positive
  have body : ((place.mapSlot .branch fun body _ => body.bodyLayout).getD
      (Layout.text ";\n")).Carries profile depth "" "\t" := by
    rw [mapSlot_eq_map]
    cases filled : place.node.pick? .branch with
    | none => exact Layout.carries_text rfl
    | some statement =>
        have smaller : statement.size < place.size := Node.size_lt_of_pick? filled
        have governed : place.node.governed? = some statement := by
          rw [Node.governed?, show place.node.kind = _ from kind]
          exact filled
        exact (place.enter statement).bodyLayout_carries brings (steady.enter_pick? filled)
          (steady.ruled.here _ (Node.mem_heldStatements_of_governed? governed))
          (isInside_enter_of_ne (by simp [kind])) positive
  have other : (Layout.ofOption
      (place.mapSlot .elseBranch fun other _ => other.elseLayout)).Carries profile depth
        "\t" "\t" := by
    refine Layout.carries_ofOption fun layout member => ?_
    rw [mapSlot_eq_map] at member
    obtain ⟨clause, filled, rfl⟩ := Option.map_eq_some_iff.mp member
    have smaller : clause.size < place.size := Node.size_lt_of_pick? filled
    refine (place.enter clause).elseLayout_carries brings (steady.enter_pick? filled)
      (fun _ held => steady.ruled.here _ (Node.mem_heldStatements_of_else kind filled held))
      (fun statement held branch => ?_) positive
    have picked : clause.pick? .elseStatement = some statement := held
    exact steady.chained.here kind clause (by simp [filled]) (by simp [picked, branch])
  unfold ifLayout
  exact lead.cons (header.cons (body.cons (other.cons (Layout.carries_nil _))))
termination_by 3 * place.size

theorem elseLayout_carries (brings : profile.types.Brings (· ≠ '\n')) (place : Place)
    (steady : place.Steady)
    (ruled : ∀ statement, place.node.pick? .elseStatement = some statement →
      statement.kind.isRuled = true)
    (chained : ∀ statement, place.node.pick? .elseStatement = some statement →
      statement.kind = .ifStatement → place.kind = .elseClause) {depth : Int}
    (positive : 0 ≤ depth) : place.elseLayout.Carries profile depth "\t" "\t" := by
  have below : 0 ≤ depth + 1 := by omega
  unfold elseLayout
  refine Layout.carries_ofOption fun layout member => ?_
  simp only [mapSlot_eq_map, mapNodes_eq_map] at member
  obtain ⟨statement, filled, rfl⟩ := Option.map_eq_some_iff.mp member
  have smaller : statement.size < place.size := Node.size_lt_of_pick? filled
  have within := steady.enter_pick? filled
  have lead : Layout.indent.Carries profile depth "\t" "" := Layout.carries_indent positive
  split
  case h_1 kind =>
    have word : (Layout.text "else ").Carries profile depth "" "" := Layout.carries_text rfl
    have branch := (place.enter statement).ifLayout_carries brings within kind positive
    have inside : (place.enter statement).isInside .elseClause = true :=
      beq_iff_eq.mpr (chained statement filled kind)
    rw [inside] at branch
    exact lead.cons (word.cons (branch.cons (Layout.carries_nil _)))
  case h_2 kind =>
    have word : (Layout.text "else").Carries profile depth "" "" := Layout.carries_text rfl
    have inside := carries_nodes kind within fun inner deeper steady ruled inBlock apart =>
      have : inner.size < place.size := Nat.lt_trans deeper smaller
      inner.layout_carries brings steady ruled inBlock apart below
    exact lead.cons (word.cons ((Layout.carries_block positive inside).cons
      (Layout.carries_newline.cons (Layout.carries_nil _))))
  case h_3 notBranch notBlock =>
    have word : (Layout.text "else\n").Carries profile depth "" "\t" := Layout.carries_text rfl
    have inner := (place.enter statement).layout_carries brings within (ruled statement filled)
      (fun kind => absurd kind notBlock) (fun kind => absurd kind notBranch) below
    exact lead.cons (word.cons (inner.deeper.cons (Layout.carries_nil _)))
termination_by 3 * place.size
end

/-- What is around a block makes no difference to it. -/
theorem block_eq_alone (place : Place) (kind : place.kind = .block) (profile : Profile)
    (depth : Int) : place.block profile depth = Place.block ⟨place.node, []⟩ profile depth := by
  have alike : ∀ statement, (place.enter statement).Like Eq
      (Place.enter ⟨place.node, []⟩ statement) := by
    intro statement
    refine ⟨rfl, .some rfl, fun value => ?_⟩
    -- a block is no clause, so nobody asks what is around it
    have notClause : (place.enter statement).isInside .equalsValueClause = false :=
      isInside_enter_of_ne (by simp [kind])
    rw [notClause] at value
    cases value
  unfold block
  simp only [Likeness.refl.layout (alike _)]

theorem Steady.shifts_block (steady : place.Steady) (kind : place.kind = .block)
    (brings : profile.types.Brings (· ≠ '\n')) {depth : Int} (positive : 0 ≤ depth) :
    place.block profile (depth + 1) = Text.shiftLines <$> place.block profile depth := by
  have below : 0 ≤ depth + 1 := by omega
  have inside := carries_nodes kind steady fun inner _ steady ruled inBlock apart =>
    inner.layout_carries brings steady ruled inBlock apart below
  have start : ({ depth } : Fragment).Shifted "" depth { depth := depth + 1 } := ⟨rfl, rfl, rfl⟩
  refine RunM.InStep.eq_map ?_
  refine (Layout.carries_block positive inside _ _ start).bind fun first second shifted => ?_
  exact RunM.inStep_pure (by rw [← shifted.text, String.append_empty])

end Place

/-- One level deeper a block is written the same, in step, with one more tab after every new
line. -/
theorem block_shiftLines (place : Place) (kind : place.kind = .block)
    (ruled : place.node.Every Node.HoldsRuled) (chained : place.node.Every Node.ChainsByElse)
    (clean : place.node.OnOneLine) (enforce : Bool) (depth : Int) (positive : 0 ≤ depth) :
    place.block (Profile.java enforce) (depth + 1) =
      Text.shiftLines <$> place.block (Profile.java enforce) depth := by
  rw [place.block_eq_alone kind, place.block_eq_alone kind]
  have steady : Place.Steady ⟨place.node, []⟩ :=
    ⟨ruled, chained, Place.every_accepts_oneLine (by simpa using clean)⟩
  exact steady.shifts_block kind TypeMap.java_brings_no_newline positive

/-- `if (a) File.WriteAllText(p, t); else if (b) { for (;;) break; }`. -/
def Place.chainOfBranches : Place where
  node := .mk { kind := .block } [.node (.mk { kind := .ifStatement } [
    .node (.mk { kind := .identifierName } [.token { kind := .identifier, text := "a" }]),
    .node Node.wholeFileWrite,
    .node (.mk { kind := .elseClause } [.node (.mk { kind := .ifStatement } [
      .node (.mk { kind := .identifierName } [.token { kind := .identifier, text := "b" }]),
      .node (.mk { kind := .block } [.node (.mk { kind := .forStatement } [
        .token { kind := .openParen, text := "(" },
        .token { kind := .semicolon, text := ";" },
        .token { kind := .semicolon, text := ";" },
        .token { kind := .closeParen, text := ")" },
        .node (.mk { kind := .breakStatement } [])])])])])])]

theorem block_shiftLines_chainOfBranches :
    Place.chainOfBranches.kind = .block ∧ Place.chainOfBranches.node.Every Node.HoldsRuled ∧
    Place.chainOfBranches.node.Every Node.ChainsByElse ∧ Place.chainOfBranches.node.OnOneLine ∧
    Place.chainOfBranches.block (Profile.java true) (1 + 1) =
      Text.shiftLines <$> Place.chainOfBranches.block (Profile.java true) 1 := by
  have ruled : Place.chainOfBranches.node.Every Node.HoldsRuled := by decide
  have chained : Place.chainOfBranches.node.Every Node.ChainsByElse := by decide
  have clean : Place.chainOfBranches.node.OnOneLine := by decide
  exact ⟨rfl, ruled, chained, clean,
    block_shiftLines _ rfl ruled chained clean true 1 (by decide)⟩

/-- `if (a) break;` and then `if (b) if (c) continue;` where its `else` should be. -/
def Place.branchForElse : Place where
  node := .mk { kind := .block } [.node (.mk { kind := .ifStatement } [
    .node (.mk { kind := .identifierName, role := some "condition" }
      [.token { kind := .identifier, text := "a" }]),
    .node (.mk { kind := .breakStatement, role := some "statement" } []),
    .node (.mk { kind := .ifStatement, role := some "else" } [
      .node (.mk { kind := .identifierName, role := some "condition" }
        [.token { kind := .identifier, text := "b" }]),
      .node (.mk { kind := .ifStatement, role := some "statement" } [
        .node (.mk { kind := .identifierName, role := some "condition" }
          [.token { kind := .identifier, text := "c" }]),
        .node (.mk { kind := .continueStatement, role := some "statement" } [])])])])]

/-- The inner branch starts behind `else` on the same line, but with the tabs of a line. -/
theorem block_not_shiftLines_branchForElse :
    Place.branchForElse.kind = .block ∧
    (Place.branchForElse.node.Every fun node =>
      ∀ statement ∈ node.statements, statement.kind.isRuled = true) ∧
    Place.branchForElse.node.OnOneLine ∧
    Place.branchForElse.block (Profile.java true) (0 + 1) ≠
      Text.shiftLines <$> Place.branchForElse.block (Profile.java true) 0 := by
  refine ⟨rfl, by decide, by decide, fun same => ?_⟩
  have texts := congrArg (fun run : RunM String =>
    match run.run Journal.java with
    | .ok text _ => text
    | .error _ _ => "") same
  exact absurd texts (by decide +kernel)

end SharpToJava
