import SharpToJava.Proofs.Likeness.Tree

/-!
The rules for expressions and statements ask of a tree only what a `Likeness` keeps, so phrases and
layouts are the same for related trees.
-/

namespace SharpToJava

/-- Places whose nodes are related, and the nodes around them too, as far as a rule looks up: to
the parent, and from a value to the declarator. -/
structure Place.Like (like : Node → Node → Prop) (first second : Place) : Prop where
  node : like first.node second.node
  parent : Option.Rel like first.parent? second.parent?
  declarator : first.isInside .equalsValueClause = true →
    Option.Rel like first.above.tail.head? second.above.tail.head?

theorem Place.Like.enter {like : Node → Node → Prop} {first second : Place}
    (alike : first.Like like second) {child other : Node} (inside : like child other) :
    (first.enter child).Like like (second.enter other) :=
  ⟨inside, .some alike.node, fun _ => alike.parent⟩

theorem Node.kind_of_callsEnumParse {node : Node} (parses : node.callsEnumParse = true) :
    node.kind = .invocation := by
  rw [Node.callsEnumParse, Bool.and_eq_true, beq_iff_eq] at parses
  exact parses.1

theorem Token.Like.descentText {first second : Token} (alike : first.Like second) :
    first.descentText = second.descentText := by
  unfold Token.descentText
  rw [alike.kind, alike.text]

namespace Likeness

variable {like : Node → Node → Prop} (likeness : Likeness like)
include likeness

section

variable {first second : Node} (alike : like first second)
include alike

theorem literalText : first.literalText = second.literalText := by
  have found := likeness.firstToken? alike
  unfold Node.literalText
  generalize first.firstToken? = token, second.firstToken? = other at found ⊢
  cases found with
  | none => rfl
  | some both => simp only [both.kind, both.text]

omit alike in
theorem listVariable?
    (filled : Option.Rel like (first.pick? .expression) (second.pick? .expression)) :
    first.listVariable? = second.listVariable? := by
  unfold Node.listVariable?
  generalize first.pick? .expression = base, second.pick? .expression = other at filled ⊢
  cases filled with
  | none => rfl
  | some both => simp only [likeness.kind both, likeness.typeName both, likeness.identifier both]

theorem callsEnumParse : first.callsEnumParse = second.callsEnumParse := by
  unfold Node.callsEnumParse
  by_cases call : first.kind = .invocation
  · have asked : Slot.expression ∈ first.kind.slots := by rw [call]; decide
    rw [likeness.kind alike, likeness.slotTypeText (likeness.pick? alike asked)]
  · rw [← likeness.kind alike, beq_false_of_ne call, Bool.false_and, Bool.false_and]

omit alike in
theorem isTextArgument
    (filled : Option.Rel like (first.pick? .expression) (second.pick? .expression)) :
    first.isTextArgument = second.isTextArgument := by
  unfold Node.isTextArgument
  generalize first.pick? .expression = inner, second.pick? .expression = other at filled ⊢
  cases filled with
  | none => rfl
  | some both => simp only [Option.any_some, likeness.typeName both]

theorem member (base : Phrase) : Phrase.member base first = Phrase.member base second := by
  unfold Phrase.member
  rw [likeness.identifier alike, likeness.symbol alike]

end

section

variable {first second : Place} (alike : first.Like like second)
include alike

theorem placeKind : first.kind = second.kind := likeness.kind alike.node

theorem arguments {slot : Slot} (asked : slot ∈ first.kind.slots) :
    List.Forall₂ (Place.Like like) (first.arguments slot) (second.arguments slot) := by
  have filled := likeness.pick? alike.node asked
  unfold Place.arguments
  generalize first.node.pick? slot = list, second.node.pick? slot = other at filled ⊢
  cases filled with
  | none => exact .nil
  | some both =>
      refine List.rel_map (fun child other inside => ?_) (likeness.childrenOfKind both .argument)
      exact (alike.enter both).enter inside

theorem isInside (kind : NodeKind) : first.isInside kind = second.isInside kind := by
  have parents := alike.parent
  unfold Place.isInside
  generalize first.parent? = parent, second.parent? = other at parents ⊢
  cases parents with
  | none => rfl
  | some both => simp only [Option.any_some, likeness.kind both]

theorem declaredVariable? : first.declaredVariable? = second.declaredVariable? := by
  obtain ⟨-, parents, declarators⟩ := alike
  unfold Place.isInside at declarators
  unfold Place.parent? at parents declarators
  unfold Place.declaredVariable?
  generalize first.above = above, second.above = others at parents declarators ⊢
  rcases above with - | ⟨clause, rest⟩ <;> rcases others with - | ⟨other, others⟩ <;>
    cases parents
  case nil.nil.none => rfl
  case cons.cons.some both =>
    have sameKind := likeness.kind both
    by_cases value : clause.kind = .equalsValueClause
    · have around := declarators (by simp [value])
      rcases rest with - | ⟨declarator, rest⟩ <;> rcases others with - | ⟨another, others⟩ <;>
        cases around
      case nil.nil.none => rfl
      case cons.cons.some outer =>
        simp only [sameKind, likeness.kind outer, likeness.identifier outer]
    · have neither : other.kind ≠ .equalsValueClause := sameKind ▸ value
      rcases rest with - | ⟨declarator, rest⟩ <;> rcases others with - | ⟨another, others⟩ <;>
        simp [value, neither]

end

section Recursion

variable {first second : Place} (alike : first.Like like second)
  (smaller : ∀ inner : Place, inner.size < first.size → ∀ other, inner.Like like other →
    inner.phrase = other.phrase)
include alike smaller

theorem slotPhrases (slot : Slot) (asked : slot ∈ first.kind.slots) :
    (first.node.pick? slot).map (fun child => (first.enter child).phrase) =
      (second.node.pick? slot).map fun child => (second.enter child).phrase :=
  map_eq_of_rel (likeness.pick? alike.node asked) fun _ filled _ inside =>
    smaller _ (Node.size_lt_of_pick? filled) _ (alike.enter inside)

theorem argumentPhrases (slot : Slot) (asked : slot ∈ first.kind.slots) :
    (first.arguments slot).map Place.phrase = (second.arguments slot).map Place.phrase :=
  map_eq_of_forall₂ (likeness.arguments alike asked) fun _ member _ both =>
    smaller _ (Place.size_lt_of_mem_arguments member) _ both

theorem nodePhrases :
    first.node.childNodes.map (fun child => (first.enter child).phrase) =
      second.node.childNodes.map fun child => (second.enter child).phrase :=
  map_eq_of_forall₂ (likeness.childNodes alike.node) fun _ member _ inside =>
    smaller _ (Node.size_lt_of_mem member) _ (alike.enter inside)

theorem kindPhrases (kind : NodeKind) :
    (first.node.childrenOfKind kind).map (fun child => (first.enter child).phrase) =
      (second.node.childrenOfKind kind).map fun child => (second.enter child).phrase :=
  map_eq_of_forall₂ (likeness.childrenOfKind alike.node kind) fun _ member _ inside =>
    smaller _ (Node.size_lt_of_mem (List.mem_filter.mp member).1) _ (alike.enter inside)

end Recursion

/-- Related places have the same phrase. -/
theorem phrase {first second : Place} (alike : first.Like like second) :
    first.phrase = second.phrase := by
  have ih : ∀ inner : Place, inner.size < first.size → ∀ other, inner.Like like other →
      inner.phrase = other.phrase := fun inner below other both => phrase both
  have slots := likeness.slotPhrases alike ih
  have arguments := likeness.argumentPhrases alike ih
  have picked : ∀ slot ∈ first.kind.slots,
      Option.Rel like (first.node.pick? slot) (second.node.pick? slot) :=
    fun slot => likeness.pick? alike.node
  have operators := likeness.operator alike.node
  -- both sides follow the rule of the kind that they share, so one split serves them both
  rw [Place.phrase, Place.phrase, ← likeness.kind alike.node]
  simp only [Place.mapSlot_eq_map, Place.mapArguments_eq_map, Place.mapNodes_eq_map,
    Place.mapKind_eq_map, Place.mapChildren_eq_map]
  unfold Place.kind at slots arguments picked
  generalize first.node.kind = kind at slots arguments picked operators ⊢
  split
  case h_1 =>
    rw [likeness.listVariable? (picked .expression (by decide)), slots .expression (by decide),
      arguments .indexArguments (by decide)]
  case h_2 =>
    rw [slots .expression (by decide)]
    have names := picked .memberName (by decide)
    generalize first.node.pick? .memberName = name, second.node.pick? .memberName = other at names ⊢
    cases names with
    | none => rfl
    | some both => exact likeness.member both _
  case h_3 => rw [slots .expression (by decide), arguments .callArguments (by decide)]
  case h_4 =>
    rw [likeness.slotTypeText (picked .statedType (by decide))]
    refine congrArg (Option.getD · _) (map_eq_of_rel (picked .castOperand (by decide)) ?_)
    intro operand filled other inside
    have below : operand.size < first.size := Node.size_lt_of_pick? filled
    have deeper := alike.enter inside
    rw [← likeness.callsEnumParse deeper.node, ih (first.enter operand) below _ deeper]
    by_cases parses : operand.callsEnumParse = true
    case neg => simp only [Place.node_enter, parses, Bool.false_eq_true, if_false]
    case pos =>
      have call := Node.kind_of_callsEnumParse parses
      have asked : Slot.callArguments ∈ (first.enter operand).kind.slots := by
        change Slot.callArguments ∈ operand.kind.slots
        rw [call]
        decide
      have texts : ((first.enter operand).arguments .callArguments).map (fun argument =>
          if argument.node.isTextArgument then some argument.phrase else none) =
          ((second.enter other).arguments .callArguments).map fun argument =>
            if argument.node.isTextArgument then some argument.phrase else none := by
        refine map_eq_of_forall₂ (likeness.arguments deeper asked) fun argument member other both => ?_
        have inner : Slot.expression ∈ argument.node.kind.slots := by
          rw [Place.kind_of_mem_arguments member]
          decide
        rw [likeness.isTextArgument (likeness.pick? both.node inner),
          ih _ (Nat.lt_trans (Place.size_lt_of_mem_arguments member) below) _ both]
      rw [texts]
  case h_5 =>
    have members : (first.node.pick? .initializer).map (fun list =>
        (first.enter list).node.childNodes.map fun member =>
          ((first.enter list).enter member).phrase) =
        (second.node.pick? .initializer).map fun list =>
          (second.enter list).node.childNodes.map fun member =>
            ((second.enter list).enter member).phrase := by
      refine map_eq_of_rel (picked .initializer (by decide)) fun list filled other inside => ?_
      refine likeness.nodePhrases (alike.enter inside) fun inner below other both => ?_
      exact ih inner (Nat.lt_trans below (Node.size_lt_of_pick? filled)) other both
    rw [likeness.slotTypeText (picked .statedType (by decide)), likeness.declaredVariable? alike,
      arguments .callArguments (by decide), members]
  case h_6 => rw [slots .left (by decide), slots .right (by decide), operators rfl]
  case h_7 => rw [slots .left (by decide), slots .right (by decide), operators rfl]
  case h_8 => rw [slots .operand (by decide), operators rfl]
  case h_9 => rw [slots .operand (by decide), operators rfl]
  case h_10 => rw [likeness.literalText alike.node]
  case h_11 => rw [slots .expression (by decide)]
  case h_12 => rw [slots .expression (by decide)]
  case h_13 => rw [likeness.kindPhrases alike ih]
  case h_14 =>
    have found := likeness.find? .variableDesignation alike.node
    generalize first.node.find? .variableDesignation = designation,
      second.node.find? .variableDesignation = other at found ⊢
    cases found with
    | none => rfl
    | some both => simp only [likeness.identifier both]
  case h_15 => rw [likeness.identifier alike.node]
  case h_16 => rw [slots .expression (by decide)]
  case h_17 =>
    have found := likeness.firstToken? alike.node
    generalize first.node.firstToken? = token, second.node.firstToken? = other at found ⊢
    cases found with
    | none => rfl
    | some both => simp only [both.text]
  case h_18 =>
    rw [likeness.slotTypeText (picked .type (by decide))]
    refine congrArg (fun ranks => Phrase.join (_ :: ranks)) ?_
    refine map_eq_of_forall₂ (likeness.childrenOfKind alike.node _) fun rank member other inside => ?_
    have below : rank.size < first.size := Node.size_lt_of_mem (List.mem_filter.mp member).1
    refine congrArg (fun sizes => Phrase.join [_, .join sizes, _]) ?_
    refine map_eq_of_forall₂ (likeness.childNodes inside) fun size held other both => ?_
    have deeper := (alike.enter inside).enter both
    rw [likeness.placeKind deeper, ih _ (Nat.lt_trans (Node.size_lt_of_mem held) below) _ deeper]
  case h_19 => rw [likeness.nodePhrases alike ih]
  case h_20 => rw [likeness.identifier alike.node]
  case h_21 => rw [likeness.typeText alike.node]
  case h_22 => rw [likeness.typeText alike.node]
  case h_23 => rw [likeness.typeText alike.node]
  case h_24 =>
    have found := head?_rel (likeness.childNodes alike.node)
    unfold Node.firstNode?
    generalize first.node.childNodes.head? = inner, second.node.childNodes.head? = other at found ⊢
    cases found with
    | none => rfl
    | some both => simp only [likeness.typeText both]
  case h_25 =>
    rw [likeness.kindName alike.node]
    refine congrArg (fun parts => Phrase.join [_, .join parts]) ?_
    refine map_eq_of_forall₂ (likeness.children alike.node) fun child member other both => ?_
    cases both with
    | token both => simp only [both.descentText]
    | node inside =>
        have deeper := alike.enter inside
        simp only
        rw [likeness.placeKind deeper, likeness.kindName deeper.node,
          ih _ (Node.size_lt_of_mem_children member) _ deeper]
termination_by first.size

section

variable {first second : Place} (alike : first.Like like second)
include alike

theorem slotPhrase {slot : Slot}
    (filled : Option.Rel like (first.node.pick? slot) (second.node.pick? slot)) :
    first.slotPhrase slot = second.slotPhrase slot := by
  unfold Place.slotPhrase
  generalize first.node.pick? slot = child, second.node.pick? slot = other at filled ⊢
  cases filled with
  | none => rfl
  | some both => exact likeness.phrase (alike.enter both)

theorem declaratorPhrase : first.declaratorPhrase = second.declaratorPhrase := by
  have found := rel_and (likeness.childOfKind? alike.node .equalsValueClause) fun _ =>
    Node.kind_of_childOfKind?
  unfold Place.declaratorPhrase
  rw [likeness.identifier alike.node]
  generalize first.node.childOfKind? .equalsValueClause = clause,
    second.node.childOfKind? .equalsValueClause = other at found ⊢
  cases found with
  | none => rfl
  | @some clause other both =>
      have asked : Slot.value ∈ clause.kind.slots := by rw [both.2]; decide
      simp only [likeness.slotPhrase (alike.enter both.1) (likeness.pick? both.1 asked)]

theorem declarationPhrase
    (types : Option.Rel like (first.node.pick? .type) (second.node.pick? .type)) :
    first.declarationPhrase = second.declarationPhrase := by
  have declarators := map_eq_of_forall₂ (likeness.childrenOfKind alike.node .variableDeclarator)
    fun _ _ _ inside => likeness.declaratorPhrase (alike.enter inside)
  unfold Place.declarationPhrase
  rw [likeness.slotTypeText types, declarators]

theorem forInitializerPhrase : first.forInitializerPhrase = second.forInitializerPhrase := by
  unfold Place.forInitializerPhrase
  rw [← likeness.placeKind alike, likeness.phrase alike]
  split
  case isTrue declares =>
    have asked : Slot.type ∈ first.kind.slots := by rw [declares]; decide
    exact likeness.declarationPhrase alike (likeness.pick? alike.node asked)
  case isFalse => rfl

theorem forHeaderPhrase : first.forHeaderPhrase = second.forHeaderPhrase := by
  have initializers := map_eq_of_forall₂ (likeness.forInitializers alike.node)
    fun _ _ _ inside => likeness.forInitializerPhrase (alike.enter inside)
  have condition := map_eq_of_rel (likeness.forCondition? alike.node)
    fun _ _ _ inside => likeness.phrase (alike.enter inside)
  have incrementors := map_eq_of_forall₂ (likeness.forIncrementors alike.node)
    fun _ _ _ inside => likeness.phrase (alike.enter inside)
  unfold Place.forHeaderPhrase
  rw [initializers, condition, incrementors]

end

omit likeness in
theorem descentLayout_token {first second : Token} (alike : first.Like second) :
    first.descentLayout = second.descentLayout := by
  unfold Token.descentLayout
  rw [alike.kind, alike.descentText]

theorem nodeLayouts {first second : Place} (alike : first.Like like second)
    (smaller : ∀ inner : Place, inner.size < first.size → ∀ other, inner.Like like other →
      inner.layout = other.layout) :
    first.node.childNodes.map (fun child => (first.enter child).layout) =
      second.node.childNodes.map fun child => (second.enter child).layout :=
  map_eq_of_forall₂ (likeness.childNodes alike.node) fun _ member _ inside =>
    smaller _ (Node.size_lt_of_mem member) _ (alike.enter inside)

mutual
/-- Related places have the same layout. -/
theorem layout {first second : Place} (alike : first.Like like second) :
    first.layout = second.layout := by
  have statements := likeness.nodeLayouts alike fun inner smaller other => layout
  have picked : ∀ slot ∈ first.kind.slots,
      Option.Rel like (first.node.pick? slot) (second.node.pick? slot) :=
    fun slot => likeness.pick? alike.node
  rw [Place.layout, Place.layout, ← likeness.placeKind alike]
  simp only [Place.mapNodes_eq_map, Place.mapForStatement_eq_map]
  generalize shared : first.kind = kind at picked ⊢
  split
  case h_1 => rw [statements, likeness.isInside alike]
  case h_2 => rw [likeness.slotPhrase alike (picked .expression (by decide))]
  case h_3 =>
    have bodies : first.node.forStatement?.map (fun body => (first.enter body).bodyLayout) =
        second.node.forStatement?.map fun body => (second.enter body).bodyLayout := by
      refine map_eq_of_rel (likeness.forStatement? alike.node) fun body found other inside => ?_
      have smaller : body.size < first.size := Node.size_lt_of_forStatement? found
      exact bodyLayout (alike.enter inside)
    rw [likeness.forHeaderPhrase alike, bodies]
  case h_4 => exact ifLayout alike shared
  case h_5 => exact elseLayout alike (picked .elseStatement (by decide))
  case h_6 => rw [likeness.slotPhrase alike (picked .expression (by decide))]
  case h_7 => rfl
  case h_8 => rfl
  case h_9 =>
    have declarations : (first.node.pick? .declaration).map (fun declaration =>
        (first.enter declaration).declarationPhrase) =
        (second.node.pick? .declaration).map fun declaration =>
          (second.enter declaration).declarationPhrase := by
      refine map_eq_of_rel (picked .declaration (by decide)) fun found filled other inside => ?_
      exact likeness.declarationPhrase (alike.enter inside)
        (likeness.declaredType alike.node shared filled inside)
    generalize first.node.pick? .declaration = found,
      second.node.pick? .declaration = other at declarations ⊢
    cases found with
    | none =>
        cases other with
        | none => rfl
        | some => cases declarations
    | some declaration =>
        cases other with
        | none => cases declarations
        | some => exact congrArg Layout.statement (Option.some.inj declarations)
  case h_10 => rw [likeness.declarationPhrase alike (picked .type (by decide))]
  case h_11 => rw [likeness.phrase alike]
  case h_12 => rw [likeness.kindName alike.node, descentLayout alike]
termination_by 3 * first.size + 1

theorem bodyLayout {first second : Place} (alike : first.Like like second) :
    first.bodyLayout = second.bodyLayout := by
  have statements := likeness.nodeLayouts alike fun inner smaller other => layout
  rw [Place.bodyLayout, Place.bodyLayout]
  simp only [Place.mapNodes_eq_map]
  rw [likeness.placeKind alike, statements, layout alike]
termination_by 3 * first.size + 2

theorem ifLayout {first second : Place} (alike : first.Like like second)
    (branches : first.kind = .ifStatement) : first.ifLayout = second.ifLayout := by
  have picked : ∀ slot ∈ NodeKind.ifStatement.slots,
      Option.Rel like (first.node.pick? slot) (second.node.pick? slot) :=
    fun slot asked => likeness.pick? alike.node
      ((show first.node.kind = .ifStatement from branches) ▸ asked)
  have bodies : (first.node.pick? .branch).map (fun body => (first.enter body).bodyLayout) =
      (second.node.pick? .branch).map fun body => (second.enter body).bodyLayout := by
    refine map_eq_of_rel (picked .branch (by decide)) fun body filled other inside => ?_
    have smaller : body.size < first.size := Node.size_lt_of_pick? filled
    exact bodyLayout (alike.enter inside)
  have clauses : (first.node.pick? .elseBranch).map (fun clause => (first.enter clause).elseLayout) =
      (second.node.pick? .elseBranch).map fun clause => (second.enter clause).elseLayout := by
    refine map_eq_of_rel (picked .elseBranch (by decide)) fun clause filled other inside => ?_
    have smaller : clause.size < first.size := Node.size_lt_of_pick? filled
    exact elseLayout (alike.enter inside)
      (likeness.elseStatement alike.node branches filled inside)
  rw [Place.ifLayout, Place.ifLayout]
  simp only [Place.mapSlot_eq_map]
  rw [likeness.isInside alike, likeness.slotPhrase alike (picked .condition (by decide)), bodies,
    clauses]
termination_by 3 * first.size

theorem elseLayout {first second : Place} (alike : first.Like like second)
    (picked : Option.Rel like (first.node.pick? .elseStatement) (second.node.pick? .elseStatement)) :
    first.elseLayout = second.elseLayout := by
  rw [Place.elseLayout, Place.elseLayout]
  simp only [Place.mapSlot_eq_map, Place.mapNodes_eq_map]
  refine congrArg Layout.ofOption (map_eq_of_rel picked ?_)
  intro statement filled other inside
  have smaller : statement.size < first.size := Node.size_lt_of_pick? filled
  have deeper := alike.enter inside
  rw [← likeness.placeKind deeper]
  split
  case h_1 branches => rw [ifLayout deeper branches]
  case h_2 =>
    have statements := likeness.nodeLayouts deeper fun inner below other =>
      have : inner.size < first.size := Nat.lt_trans below smaller
      layout
    rw [statements]
  case h_3 => rw [layout deeper]
termination_by 3 * first.size

theorem descentLayout {first second : Place} (alike : first.Like like second) :
    first.descentLayout = second.descentLayout := by
  rw [Place.descentLayout, Place.descentLayout]
  simp only [Place.mapChildren_eq_map]
  refine congrArg Layout.join (map_eq_of_forall₂ (likeness.children alike.node) ?_)
  intro child member other both
  cases both with
  | token both => exact descentLayout_token both
  | @node child other inside =>
      have smaller : child.size < first.size := Node.size_lt_of_mem_children member
      have deeper := alike.enter inside
      simp only
      rw [← likeness.placeKind deeper, layout deeper, bodyLayout deeper, likeness.phrase deeper,
        descentLayout deeper, likeness.kindName deeper.node, likeness.kindName alike.node]
      split
      case isTrue declares =>
        have asked : Slot.type ∈ (first.enter child).kind.slots := by rw [declares]; decide
        rw [likeness.declarationPhrase deeper (likeness.pick? inside asked)]
      case isFalse => rfl
termination_by 3 * first.size
end

end Likeness

end SharpToJava
