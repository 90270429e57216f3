import SharpToJava.Proofs.Holes.Phrase
import SharpToJava.Proofs.Layout.Wording

/-!
The holes of a layout, counted. The parts of a statement are different children of its node, so
that the layout of a place has no more holes than an allowance gives its node.
-/

namespace SharpToJava

namespace Layout

mutual
/-- How often a layout leaves this to a run, at most. -/
def holes (hole : Hole) : Layout → Nat
  | .phrase content => content.holes hole
  | .indent | .shift _ => 0
  | .join parts => holesAmong hole parts
  | .byLineStart choose => max ((choose true).holes hole) ((choose false).holes hole)

def holesAmong (hole : Hole) : List Layout → Nat
  | [] => 0
  | layout :: rest => layout.holes hole + holesAmong hole rest
end

variable {hole : Hole}

@[simp] theorem holes_phrase (content : Phrase) :
    (phrase content).holes hole = content.holes hole := by simp [holes]

@[simp] theorem holes_indent : indent.holes hole = 0 := by simp [holes]

@[simp] theorem holes_shift (levels : Int) : (shift levels).holes hole = 0 := by simp [holes]

@[simp] theorem holes_join (parts : List Layout) :
    (join parts).holes hole = holesAmong hole parts := by simp [holes]

@[simp] theorem holesAmong_nil : holesAmong hole [] = 0 := by simp [holesAmong]

@[simp] theorem holesAmong_cons (layout : Layout) (rest : List Layout) :
    holesAmong hole (layout :: rest) = layout.holes hole + holesAmong hole rest := by
  simp [holesAmong]

theorem holes_byLineStart_le {choose : Bool → Layout} {bound : Nat}
    (each : ∀ fresh, (choose fresh).holes hole ≤ bound) :
    (byLineStart choose).holes hole ≤ bound := by
  rw [holes]
  exact Nat.max_le.mpr ⟨each true, each false⟩

@[simp] theorem holes_empty : empty.holes hole = 0 := by simp [empty]

@[simp] theorem holes_text (written : String) : (text written).holes hole = 0 := by simp [text]

@[simp] theorem holes_note (entry : Note) (remark : ¬entry.isOfDeclaration) :
    (note entry).holes hole = 0 := by simp [note, remark]

@[simp] theorem holes_newline : newline.holes hole = 0 := by simp [newline]

@[simp] theorem holes_finishLine : finishLine.holes hole = 0 := by simp [finishLine, holes]

@[simp] theorem holes_deeper (layout : Layout) : layout.deeper.holes hole = layout.holes hole := by
  simp [deeper]

@[simp] theorem holes_statement (content : Phrase) :
    (statement content).holes hole = content.holes hole := by
  simp [statement]

@[simp] theorem holes_block (inline : Bool) (statements : List Layout) :
    (block inline statements).holes hole = holesAmong hole statements := by
  cases inline <;> simp [block]

theorem holes_token (token : Token) : token.descentLayout.holes hole = 0 := by
  unfold Token.descentLayout
  split <;> simp

theorem holesAmong_eq_weigh (parts : List Layout) :
    holesAmong hole parts = weigh (holes hole) parts := by
  induction parts with
  | nil => simp
  | cons part rest ih => simp [ih]

theorem holesAmong_le {build : Node → Layout} {amount : Node → Nat} {nodes : List Node}
    (each : ∀ node ∈ nodes, (build node).holes hole ≤ amount node) :
    holesAmong hole (nodes.map build) ≤ weigh amount nodes := by
  rw [holesAmong_eq_weigh, weigh_map]
  exact weigh_mono each

end Layout

namespace Node

theorem upTo_append_past_sublist (kind : TokenKind) (children : List Child) :
    (upTo kind children ++ past kind children).Sublist children := by
  have whole : upTo kind children ++
      children.dropWhile (fun child => !isTokenOf kind child) = children :=
    List.takeWhile_append_dropWhile
  have kept := (List.tail_sublist
    (children.dropWhile fun child => !isTokenOf kind child)).append_left (upTo kind children)
  rwa [whole] at kept

theorem getLast?_sublist {α : Type} (items : List α) : items.getLast?.toList.Sublist items := by
  cases last : items.getLast? with
  | none => exact List.nil_sublist items
  | some item => exact List.singleton_sublist.mpr (List.mem_of_getLast? last)

/-- The parts of a loop are different children, in order. -/
theorem forParts_sublist (node : Node) :
    (node.forInitializers ++ (node.forCondition?.toList ++ node.forIncrementors) ++
      node.forStatement?.toList).Sublist node.childNodes := by
  have sections : (upTo .semicolon node.forHeader ++
      (upTo .semicolon (past .semicolon node.forHeader) ++
        past .semicolon (past .semicolon node.forHeader))).Sublist node.forHeader :=
    ((upTo_append_past_sublist _ _).append_left _).trans (upTo_append_past_sublist _ _)
  have whole := (sections.append_right (past .closeParen node.children)).trans
    (upTo_append_past_sublist _ _)
  have nodes := whole.filterMap Child.node?
  simp only [List.filterMap_append] at nodes
  exact (((List.Sublist.refl _).append
    ((getLast?_sublist _).append (List.Sublist.refl _))).append (getLast?_sublist _)).trans nodes

end Node

namespace Place

variable {hole : Hole} {allowed : Node → Prop} (allowance : Allowance hole allowed) {place : Place}
  (every : place.node.Every allowed)
include every

theorem slotPhrase_holes_le (slot : Slot) :
    (place.slotPhrase slot).holes hole ≤ weigh allowance.amount (place.node.pick? slot).toList := by
  rw [slotPhrase]
  cases filled : place.node.pick? slot with
  | none => simp
  | some child =>
      have inside : (place.enter child).node.Every allowed := every.of_pick? filled
      simpa using phrase_holes_le allowance inside

theorem slotPhrase_holes_le_amount (slot : Slot) :
    (place.slotPhrase slot).holes hole ≤ allowance.amount place.node := by
  have inner := slotPhrase_holes_le allowance every slot
  have bound := allowance.pick?_le every.here slot
  omega

theorem declaratorPhrase_holes_le :
    place.declaratorPhrase.holes hole ≤ allowance.amount place.node := by
  rw [declaratorPhrase]
  cases found : place.node.childOfKind? .equalsValueClause with
  | none => simp
  | some clause =>
      have member : clause ∈ place.node.childNodes := List.mem_of_find?_eq_some found
      have inside : (place.enter clause).node.Every allowed := every.of_child member
      have value := slotPhrase_holes_le_amount allowance inside .value
      have bound := allowance.child_le every.here member
      simpa using Nat.le_trans value bound

theorem declarationPhrase_holes_le :
    place.declarationPhrase.holes hole ≤ allowance.amount place.node := by
  have kept : (place.node.childrenOfKind .variableDeclarator).Sublist place.node.childNodes :=
    List.filter_sublist
  have declarators := Phrase.holesAmong_le fun declarator listed =>
    have inside : (place.enter declarator).node.Every allowed := every.of_child (kept.subset listed)
    declaratorPhrase_holes_le allowance inside
  rw [declarationPhrase]
  simpa using Nat.le_trans declarators (allowance.sublist_le every.here kept)

theorem forInitializerPhrase_holes_le :
    place.forInitializerPhrase.holes hole ≤ allowance.amount place.node := by
  rw [forInitializerPhrase]
  split
  · exact declarationPhrase_holes_le allowance every
  · exact phrase_holes_le allowance every

theorem forHeaderPhrase_holes_le :
    place.forHeaderPhrase.holes hole ≤
      weigh allowance.amount (place.node.forInitializers ++
        (place.node.forCondition?.toList ++ place.node.forIncrementors)) := by
  have inside : ∀ {part : Node}, part ∈ place.node.childNodes →
      (place.enter part).node.Every allowed := every.of_child
  have initializers : _ ≤ weigh allowance.amount place.node.forInitializers :=
    Phrase.holesAmong_le fun part listed =>
      forInitializerPhrase_holes_le allowance
        (inside (Node.mem_childNodes_of_forInitializers listed))
  have incrementors : _ ≤ weigh allowance.amount place.node.forIncrementors :=
    Phrase.holesAmong_le fun part listed =>
      phrase_holes_le allowance (inside (Node.mem_childNodes_of_forIncrementors listed))
  have condition : (Phrase.ofOption (place.node.forCondition?.map fun part =>
      (place.enter part).phrase)).holes hole ≤
        weigh allowance.amount place.node.forCondition?.toList := by
    cases found : place.node.forCondition? with
    | none => simp [Phrase.ofOption]
    | some part =>
        simpa [Phrase.ofOption] using phrase_holes_le allowance
          (inside (Node.mem_childNodes_of_forCondition? found))
  simp only [forHeaderPhrase, Phrase.holes_join, Phrase.holesAmong_cons, Phrase.holes_text,
    Phrase.holes_separated, Phrase.holesAmong_nil, weigh_append]
  omega

theorem nodeLayouts_holes_le
    (smaller : ∀ inner : Place, inner.size < place.size → inner.node.Every allowed →
      inner.layout.holes hole ≤ allowance.amount inner.node) :
    Layout.holesAmong hole (place.node.childNodes.map fun child => (place.enter child).layout) ≤
      allowance.amount place.node := by
  apply Nat.le_trans _ (allowance.children_le every.here)
  apply Layout.holesAmong_le
  intro child member
  exact smaller (place.enter child) (Node.size_lt_of_mem member) (every.of_child member)

end Place

namespace Place

variable {hole : Hole} {allowed : Node → Prop} (allowance : Allowance hole allowed)

mutual
/-- The layout of a statement has no more holes than the allowance gives its node. -/
theorem layout_holes_le (place : Place) (every : place.node.Every allowed) :
    place.layout.holes hole ≤ allowance.amount place.node := by
  unfold layout
  split
  case h_1 =>
    have statements := nodeLayouts_holes_le allowance every fun inner smaller =>
      inner.layout_holes_le
    simp only [mapNodes_eq_map]
    split
    · simpa using statements
    · simpa using statements
  case h_2 => simpa using slotPhrase_holes_le_amount allowance every .expression
  case h_3 =>
    have header := forHeaderPhrase_holes_le allowance every
    have body : ((place.mapForStatement fun body _ => body.bodyLayout).getD
        (Layout.text ";\n")).holes hole ≤
          weigh allowance.amount place.node.forStatement?.toList := by
      rw [mapForStatement_eq_map]
      cases found : place.node.forStatement? with
      | none => simp
      | some statement =>
          have smaller : statement.size < place.size := Node.size_lt_of_forStatement? found
          simpa using (place.enter statement).bodyLayout_holes_le
            (every.of_child (Node.mem_childNodes_of_forStatement? found))
    have parts := allowance.sublist_le every.here (Node.forParts_sublist place.node)
    rw [weigh_append] at parts
    simp only [Layout.holes_join, Layout.holesAmong_cons, Layout.holes_indent, Layout.holes_phrase,
      Layout.holesAmong_nil]
    omega
  case h_4 kind => exact place.ifLayout_holes_le kind every
  case h_5 => exact place.elseLayout_holes_le every
  case h_6 =>
    have value := slotPhrase_holes_le_amount allowance every .expression
    simpa [Phrase.holes] using value
  case h_7 => simp
  case h_8 => simp
  case h_9 =>
    cases filled : place.node.pick? .declaration with
    | none => simp
    | some declaration =>
        have member := Node.mem_of_pick? filled
        have inside : (place.enter declaration).node.Every allowed := every.of_child member
        have written := declarationPhrase_holes_le allowance inside
        simpa using Nat.le_trans written (allowance.child_le every.here member)
  case h_10 => simpa using declarationPhrase_holes_le allowance every
  case h_11 => simpa using phrase_holes_le allowance every
  case h_12 => simpa [Note.isOfDeclaration] using place.descentLayout_holes_le every
termination_by 3 * place.size + 1

theorem bodyLayout_holes_le (place : Place) (every : place.node.Every allowed) :
    place.bodyLayout.holes hole ≤ allowance.amount place.node := by
  unfold bodyLayout
  split
  · have statements := nodeLayouts_holes_le allowance every fun inner smaller =>
      inner.layout_holes_le
    simpa using statements
  · simpa using place.layout_holes_le every
termination_by 3 * place.size + 2

theorem ifLayout_holes_le (place : Place) (kind : place.kind = .ifStatement)
    (every : place.node.Every allowed) :
    place.ifLayout.holes hole ≤ allowance.amount place.node := by
  have condition := slotPhrase_holes_le allowance every .condition
  have body : ((place.mapSlot .branch fun body _ => body.bodyLayout).getD
      (Layout.text ";\n")).holes hole ≤ weigh allowance.amount (place.node.pick? .branch).toList := by
    rw [mapSlot_eq_map]
    cases filled : place.node.pick? .branch with
    | none => simp
    | some statement =>
        have smaller : statement.size < place.size := Node.size_lt_of_pick? filled
        simpa using (place.enter statement).bodyLayout_holes_le (every.of_pick? filled)
  have other : (Layout.ofOption
      (place.mapSlot .elseBranch fun other _ => other.elseLayout)).holes hole ≤
        weigh allowance.amount (place.node.pick? .elseBranch).toList := by
    rw [mapSlot_eq_map]
    cases filled : place.node.pick? .elseBranch with
    | none => simp [Layout.ofOption]
    | some clause =>
        have smaller : clause.size < place.size := Node.size_lt_of_pick? filled
        simpa [Layout.ofOption] using
          (place.enter clause).elseLayout_holes_le (every.of_pick? filled)
  have parts := allowance.joint_le every.here (congrArg NodeKind.jointSlots kind)
  simp only [NodeKind.jointSlots, Node.weigh_filterMap_pick?, List.filterMap_nil,
    weigh_nil] at parts
  have lead : (if place.isInside .elseClause then Layout.empty else .indent).holes hole = 0 := by
    split <;> simp
  unfold ifLayout
  simp only [Layout.holes_join, Layout.holesAmong_cons, Layout.holes_phrase, Layout.holesAmong_nil,
    Phrase.holes_join, Phrase.holesAmong_cons, Phrase.holes_text, Phrase.holesAmong_nil]
  omega
termination_by 3 * place.size

theorem elseLayout_holes_le (place : Place) (every : place.node.Every allowed) :
    place.elseLayout.holes hole ≤ allowance.amount place.node := by
  unfold elseLayout
  simp only [mapSlot_eq_map, mapNodes_eq_map]
  cases filled : place.node.pick? .elseStatement with
  | none => simp [Layout.ofOption]
  | some statement =>
      have member := Node.mem_of_pick? filled
      have smaller : statement.size < place.size := Node.size_lt_of_mem member
      have inside : (place.enter statement).node.Every allowed := every.of_child member
      have bound := allowance.child_le every.here member
      simp only [Option.map_some, Layout.ofOption]
      split
      case h_1 kind =>
        have chained := (place.enter statement).ifLayout_holes_le kind inside
        simpa using Nat.le_trans chained bound
      case h_2 =>
        have statements := nodeLayouts_holes_le allowance inside fun inner deeper =>
          have : inner.size < place.size := Nat.lt_trans deeper smaller
          inner.layout_holes_le
        simpa using Nat.le_trans statements bound
      case h_3 =>
        have below := (place.enter statement).layout_holes_le inside
        simpa using Nat.le_trans below bound
termination_by 3 * place.size

theorem descentLayout_holes_le (place : Place) (every : place.node.Every allowed) :
    place.descentLayout.holes hole ≤ allowance.amount place.node := by
  unfold descentLayout
  rw [mapChildren_eq_map, Layout.holes_join, Layout.holesAmong_eq_weigh, weigh_map]
  apply Nat.le_trans _ (allowance.children_le every.here)
  apply Node.weigh_children_le (fun token => Layout.holes_token token)
  intro child member
  have present := Node.mem_childNodes.mpr member
  have smaller : child.size < place.size := Node.size_lt_of_mem present
  have inside : (place.enter child).node.Every allowed := every.of_child present
  simp only [Function.comp_apply]
  split
  · simpa using declarationPhrase_holes_le allowance inside
  split
  · apply Layout.holes_byLineStart_le
    intro fresh
    cases fresh with
    | false => exact (place.enter child).bodyLayout_holes_le inside
    | true => exact (place.enter child).layout_holes_le inside
  split
  · simpa using phrase_holes_le allowance inside
  split
  · have descended := (place.enter child).descentLayout_holes_le inside
    have lines : (Layout.byLineStart fun fresh =>
        if fresh then .join [.indent, (place.enter child).descentLayout, Layout.finishLine]
        else (place.enter child).descentLayout).holes hole ≤ allowance.amount child := by
      apply Layout.holes_byLineStart_le
      intro fresh
      cases fresh with
      | false => exact descended
      | true => simpa using descended
    simpa [Note.isOfDeclaration] using lines
  · simp [Note.isOfDeclaration]
termination_by 3 * place.size
end

end Place

end SharpToJava
