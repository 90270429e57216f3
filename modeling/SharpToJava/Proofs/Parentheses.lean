import Mathlib.Data.List.Basic
import SharpToJava.Proofs.Phrase.Balance
import SharpToJava.Proofs.Tree.Brackets

/-!
Parentheses of an expression. The rules write their parentheses in pairs, some across the words of
one phrase, and where a node is descended the parentheses of its tokens are copied. So if the
parenthesis tokens of each node are nested and no other text of the tree brings in a parenthesis,
the parentheses of the Java text are nested, with conventions enforced. An enum that is read from a
text is written `T.valueOf(` and closed behind the text; so there has to be one.
-/

namespace SharpToJava

namespace Node

/-- The arguments of a call. -/
def callArguments (node : Node) : List Node :=
  ((node.pick? .callArguments).map (·.childrenOfKind .argument)).getD []

/-- Parenthesis tokens are clean, and a text is given where an enum is read from one. -/
structure ParenClean (node : Node) : Prop extends node.BracketClean TokenBrackets.parentheses where
  parses : node.kind = .cast → ∀ operand ∈ node.pick? .castOperand,
    operand.callsEnumParse = true → operand.callArguments.any isTextArgument = true

theorem parenClean_iff {node : Node} :
    node.ParenClean ↔ node.BracketClean TokenBrackets.parentheses ∧
      (node.kind = .cast → ∀ operand ∈ node.pick? .castOperand,
        operand.callsEnumParse = true → operand.callArguments.any isTextArgument = true) :=
  ⟨fun clean => ⟨clean.toBracketClean, clean.parses⟩, fun ⟨tokens, parses⟩ => ⟨tokens, parses⟩⟩

instance : DecidablePred ParenClean := fun _ => decidable_of_iff _ parenClean_iff.symm

variable {node : Node}

theorem ParenClean.free_identifier (clean : node.ParenClean) :
    Brackets.parentheses.Free node.identifier.toList :=
  BracketClean.free_identifier clean.toBracketClean (by decide) (by decide)

theorem Every.brackets (clean : node.Every ParenClean) :
    node.Every (BracketClean TokenBrackets.parentheses) :=
  fun inner below => (clean inner below).toBracketClean

theorem nested_typeText (clean : node.Every ParenClean) :
    Brackets.parentheses.Nested node.typeText.toList := by
  refine @holds_typeText (fun text => Brackets.parentheses.Nested text.toList) ?_ ?_ node ?_
  · intro first second before later
    rw [String.toList_append]
    exact before.append later
  · decide
  · intro inner below
    have inside := Every.brackets (clean.of_mem below)
    exact ⟨.of_free (clean inner below).free_identifier,
      fun shows => .of_free (free_firstText inside shows), nested_tokenText inside⟩

theorem nested_slotTypeText (clean : node.Every ParenClean) (slot : Slot) :
    Brackets.parentheses.Nested (node.slotTypeText slot).toList := by
  unfold slotTypeText
  split
  case h_1 type filled => exact nested_typeText (clean.of_pick? filled)
  case h_2 => decide

/-- A token leaves its own parenthesis behind where its node is descended. -/
theorem ParenClean.same_descentText (clean : node.ParenClean) {token : Token}
    (member : token ∈ node.childTokens) :
    Brackets.parentheses.Same token.descentText.toList
      (TokenBrackets.parentheses.char? token).toList := by
  unfold Token.descentText
  split
  case h_1 kind =>
    have noBracket : TokenBrackets.parentheses.char? token = none := by
      rw [TokenBrackets.char?, kind]
      rfl
    rw [noBracket]
    exact Brackets.same_nil (clean.others token member noBracket)
  case h_3 kind =>
    rw [TokenBrackets.char?, kind]
    exact .refl _
  case h_4 kind =>
    rw [TokenBrackets.char?, kind]
    exact .refl _
  case h_13 notOpening notClosing _ _ _ _ _ _ _ _ =>
    rw [TokenBrackets.char?_eq_none notOpening notClosing]
    exact .refl _
  all_goals
    rename_i kind
    rw [TokenBrackets.char?, kind]
    exact Brackets.nested_iff_same.mp (by decide)

end Node

namespace Place

/-- The tree is clean, and what the variables around are called has no parenthesis. -/
structure ParenClean (place : Place) : Prop where
  below : place.node.Every Node.ParenClean
  around : ∀ node ∈ place.above, Brackets.parentheses.Free node.identifier.toList

namespace ParenClean

variable {place : Place} {child : Node}

theorem enter (clean : place.ParenClean) (member : child ∈ place.node.childNodes) :
    (place.enter child).ParenClean where
  below := clean.below.of_child member
  around := List.forall_mem_cons.mpr ⟨clean.below.here.free_identifier, clean.around⟩

theorem arguments (clean : place.ParenClean) {slot : Slot} {argument : Place}
    (member : argument ∈ place.arguments slot) : argument.ParenClean := by
  obtain ⟨list, node, below, listed, -, rfl⟩ := exists_of_mem_arguments member
  exact (clean.enter below).enter listed

theorem tokens (clean : place.ParenClean) :
    place.node.Every (Node.BracketClean TokenBrackets.parentheses) :=
  Node.Every.brackets clean.below

theorem balanced_operator (clean : place.ParenClean) (has : place.node.kind.hasOperator) :
    (Phrase.text place.node.operator).Balanced :=
  Phrase.balanced_text (.of_free (Node.free_operator clean.tokens.here has))

theorem balanced_spacedOperator (clean : place.ParenClean) (has : place.node.kind.hasOperator) :
    (Phrase.text (" " ++ place.node.operator ++ " ")).Balanced := by
  have free : Brackets.parentheses.Free (" " ++ place.node.operator ++ " ").toList := by
    rw [String.toList_append, String.toList_append]
    have leading : Brackets.parentheses.Free (" " : String).toList := by decide
    exact (leading.append (Node.free_operator clean.tokens.here has)).append leading
  exact Phrase.balanced_text (.of_free free)

theorem free_declaredVariable? (clean : place.ParenClean) :
    ∀ name ∈ place.declaredVariable?, Brackets.parentheses.Free name.toList := by
  intro name found
  obtain ⟨declarator, above, rfl⟩ := exists_of_declaredVariable? found
  exact clean.around declarator above

theorem free_listVariable? (clean : place.ParenClean) :
    ∀ name ∈ place.node.listVariable?, Brackets.parentheses.Free name.toList := by
  intro name found
  obtain ⟨base, filled, rfl⟩ := exists_of_listVariable? found
  exact (clean.below.of_pick? filled).here.free_identifier

end ParenClean

variable {place : Place}

theorem map_node_arguments (place : Place) :
    (place.arguments .callArguments).map node = place.node.callArguments := by
  unfold arguments Node.callArguments
  split
  case h_1 list filled =>
    rw [filled, List.map_map]
    exact List.map_id _
  case h_2 absent => rw [absent]; rfl

/-- If some argument is a text, the phrase of one of them is found. -/
theorem exists_textArgument (place : Place)
    (given : place.node.callArguments.any Node.isTextArgument = true) :
    ∃ argument ∈ place.arguments .callArguments,
      ((place.arguments .callArguments).map fun argument =>
        if argument.node.isTextArgument then some argument.phrase else none).findSome? id =
          some argument.phrase := by
  rw [← map_node_arguments, List.any_map] at given
  obtain ⟨text, listed, isText⟩ := List.any_eq_true.mp given
  cases found : ((place.arguments .callArguments).map fun argument =>
      if argument.node.isTextArgument then some argument.phrase else none).findSome? id with
  | none =>
      have absent := List.findSome?_eq_none_iff.mp found _ (List.mem_map_of_mem listed)
      rw [Function.comp_apply] at isText
      simp [isText] at absent
  | some phrase =>
      obtain ⟨candidate, mapped, isPhrase⟩ := List.exists_of_findSome?_eq_some found
      obtain ⟨argument, present, rfl⟩ := List.mem_map.mp mapped
      obtain ⟨-, same⟩ := Option.ite_none_right_eq_some.mp isPhrase
      exact ⟨argument, present, same.symm⟩

section Recursion

-- What a rule finds in the slots, among the arguments and among the children of a node is balanced
-- if the phrases of smaller places are.

variable (clean : place.ParenClean)
  (smaller : ∀ inner : Place, inner.size < place.size → inner.ParenClean → inner.phrase.Balanced)
include clean smaller

theorem balanced_slot (slot : Slot) :
    (Phrase.ofOption (place.mapSlot slot fun inner _ => inner.phrase)).Balanced := by
  refine Phrase.balanced_ofOption fun phrase member => ?_
  rw [mapSlot_eq_map] at member
  obtain ⟨child, filled, rfl⟩ := Option.map_eq_some_iff.mp member
  exact smaller _ (Node.size_lt_of_pick? filled) (clean.enter (Node.mem_of_pick? filled))

theorem balanced_arguments (slot : Slot) :
    ∀ phrase ∈ place.mapArguments slot fun inner _ => inner.phrase, phrase.Balanced := by
  intro phrase member
  rw [mapArguments_eq_map] at member
  obtain ⟨argument, present, rfl⟩ := List.mem_map.mp member
  exact smaller _ (size_lt_of_mem_arguments present) (clean.arguments present)

theorem balanced_nodes :
    ∀ phrase ∈ place.mapNodes fun inner _ => inner.phrase, phrase.Balanced := by
  intro phrase member
  rw [mapNodes_eq_map] at member
  obtain ⟨child, present, rfl⟩ := List.mem_map.mp member
  exact smaller _ (Node.size_lt_of_mem present) (clean.enter present)

/-- What is left of a child of a descended node has the parenthesis that the child is, if any. -/
theorem shaped_descent {child : Child} (present : child ∈ place.node.children) :
    (match child with
      | .token token => Phrase.text token.descentText
      | .node inner =>
        if (place.enter inner).kind.survivesDescent then (place.enter inner).phrase
        else .note (.dropped inner.kindName place.node.kindName)).Shaped
      (child.token?.bind TokenBrackets.parentheses.char?).toList := by
  cases child with
  | token token =>
      exact (Phrase.shaped_text _).alike
        (clean.below.here.same_descentText (Node.mem_childTokens.mpr present))
  | node inner =>
      simp only
      split
      · exact smaller _ (Node.size_lt_of_mem_children present)
          (clean.enter (Node.mem_childNodes.mpr present))
      · exact Phrase.balanced_note _

/-- Where a node is descended, what is left of its children has the parentheses of its tokens. -/
theorem balanced_descent :
    (Phrase.join (place.mapChildren (fun token => .text token.descentText) fun inner _ =>
      if inner.kind.survivesDescent then inner.phrase
      else .note (.dropped inner.node.kindName place.node.kindName))).Balanced := by
  rw [mapChildren_eq_map]
  have shaped := Phrase.shaped_join_map fun child present => shaped_descent clean smaller present
  refine shaped.balanced ?_
  have nested := clean.below.here.nested
  rwa [Node.childTokens, List.filterMap_filterMap, List.filterMap_eq_flatMap_toList] at nested

end Recursion

open Phrase in
/-- The phrase of an expression in a clean tree is balanced. -/
theorem balanced_phrase (clean : place.ParenClean) : place.phrase.Balanced := by
  fun_induction Place.phrase place with
  | case1 place node kind ih =>
      exact .element clean.free_listVariable? (balanced_slot clean ih _)
        (balanced_arguments clean ih _)
  | case2 place node kind name filled ih =>
      exact .member (balanced_slot clean ih _) (clean.below.of_pick? filled).here.free_identifier
  | case3 => exact balanced_memberWithoutName
  | case4 place node kind ih =>
      exact .call (balanced_slot clean ih _) (balanced_arguments clean ih _)
  | case5 place node kind type ihArgument ih =>
      have stated : Brackets.parentheses.Nested type.toList :=
        Node.nested_slotTypeText clean.below _
      simp only [mapSlot_eq_map, mapArguments_eq_map]
      cases filled : place.node.pick? .castOperand with
      | none => exact .cast stated balanced_empty
      | some operand =>
          have inside := clean.enter (Node.mem_of_pick? filled)
          have below := Node.size_lt_of_pick? filled
          simp only [Option.map_some, Option.getD_some]
          split
          -- the text is an argument of the operand; behind it `valueOf(` is closed
          case isTrue parses =>
            have given := clean.below.here.parses kind operand filled parses
            obtain ⟨argument, present, found⟩ := (place.enter operand).exists_textArgument given
            rw [found]
            exact .enumParse stated (ihArgument (place.enter operand) below argument
              (size_lt_of_mem_arguments present) (inside.arguments present))
          case isFalse => exact .cast stated (ih (place.enter operand) below inside)
  | case6 place node kind ih ihMember =>
      refine balanced_creation (Node.nested_slotTypeText clean.below _) clean.free_declaredVariable?
        (balanced_arguments clean ih _) fun list found => ?_
      simp only [mapSlot_eq_map] at found
      obtain ⟨child, filled, rfl⟩ := Option.map_eq_some_iff.mp found
      exact balanced_nodes (clean.enter (Node.mem_of_pick? filled))
        (ihMember (place.enter child) (Node.size_lt_of_pick? filled))
  | case7 place node kind ih =>
      exact .triple (balanced_slot clean ih _) (clean.balanced_spacedOperator (by rw [kind]; rfl))
        (balanced_slot clean ih _)
  | case8 place node kind ih =>
      exact .triple (balanced_slot clean ih _) (clean.balanced_spacedOperator (by rw [kind]; rfl))
        (balanced_slot clean ih _)
  | case9 place node kind ih =>
      exact .pair (balanced_slot clean ih _) (clean.balanced_operator (by rw [kind]; rfl))
  | case10 place node kind ih =>
      exact .pair (clean.balanced_operator (by rw [kind]; rfl)) (balanced_slot clean ih _)
  | case11 place node kind =>
      exact balanced_text (.of_free (Node.free_literalText clean.tokens kind))
  | case12 place node kind ih => exact balanced_slot clean ih _
  | case13 place node kind ih => exact balanced_slot clean ih _
  | case14 place node kind ih =>
      refine balanced_parenthesized fun phrase member => ?_
      rw [mapKind_eq_map] at member
      obtain ⟨argument, present, rfl⟩ := List.mem_map.mp member
      have child := (List.mem_filter.mp present).1
      exact ih _ (Node.size_lt_of_mem child) (clean.enter child)
  | case15 place node kind designation found =>
      have below := clean.below.of_mem (Node.mem_nodes_of_find? found)
      exact balanced_text (.of_free below.here.free_identifier)
  | case16 => exact balanced_empty
  | case17 place node kind => exact balanced_text (.of_free clean.below.here.free_identifier)
  | case18 place node kind ih => exact (balanced_slot clean ih _).between (by decide)
  | case19 place node kind token first =>
      exact balanced_text (.of_free (Node.free_firstToken clean.tokens (.inr (.inl kind)) first))
  | case20 => exact balanced_text (by decide)
  | case21 place node kind ih =>
      refine balanced_join fun part member => ?_
      rcases List.mem_cons.mp member with rfl | later
      · exact balanced_type (Node.nested_slotTypeText clean.below _)
      · simp only [mapKind_eq_map, mapNodes_eq_map] at later
        obtain ⟨rank, present, rfl⟩ := List.mem_map.mp later
        have child := (List.mem_filter.mp present).1
        refine Balanced.between (balanced_join fun part listed => ?_) (by decide)
        obtain ⟨size, held, rfl⟩ := List.mem_map.mp listed
        split
        · exact balanced_empty
        · exact ih (place.enter rank) (Node.size_lt_of_mem child) _ (Node.size_lt_of_mem held)
            ((clean.enter child).enter held)
  | case22 place node kind ih =>
      refine balanced_join fun part member => ?_
      rcases List.mem_cons.mp member with rfl | later
      · exact balanced_text (by decide)
      · exact balanced_nodes clean ih part later
  | case23 => exact balanced_discard
  | case24 place node kind => exact balanced_text (.of_free clean.below.here.free_identifier)
  | case25 place node kind => exact balanced_type (Node.nested_typeText clean.below)
  | case26 place node kind => exact balanced_type (Node.nested_typeText clean.below)
  | case27 place node kind => exact balanced_type (Node.nested_typeText clean.below)
  | case28 place node kind inner first =>
      exact balanced_type (Node.nested_typeText (clean.below.of_child (List.mem_of_head? first)))
  | case29 => exact balanced_empty
  | case30 place =>
      rename_i ih
      refine .pair ?_ (balanced_descent clean ih)
      split
      · exact balanced_note _
      · exact balanced_empty

end Place

/-- With conventions enforced, the parentheses of the Java text of an expression are nested. -/
theorem expression_parentheses_nested (place : Place) (clean : place.ParenClean) (depth : Int)
    (before after : Journal) (text : String)
    (ran : (place.expression (Profile.java true) depth).run before = .ok text after) :
    Brackets.parentheses.Nested text.toList :=
  Brackets.nested_iff_same.mpr (place.balanced_phrase clean depth before text after ran)

/-- `Use((Color)Enum.Parse(typeof(Color), name), typeof(Color))`. -/
def Place.parsedColor : Place where
  node :=
    let color (role : Option String) : Node :=
      .mk { kind := .identifierName, role } [.token { kind := .identifier, text := "Color" }]
    let colorType : Node := .mk { kind := .argument } [.node (.mk { kind := .unknown } [
      .token { kind := .unknown, text := "typeof" },
      .token { kind := .openParen, text := "(" },
      .node (color none),
      .token { kind := .closeParen, text := ")" }])]
    .mk { kind := .invocation } [
      .node (.mk { kind := .identifierName } [.token { kind := .identifier, text := "Use" }]),
      .node (.mk { kind := .argumentList } [
        .node (.mk { kind := .argument } [.node (.mk { kind := .cast } [
          .token { kind := .openParen, text := "(" },
          .node (color (some "type")),
          .token { kind := .closeParen, text := ")" },
          .node (.mk { kind := .invocation } [
            .node (.mk { kind := .memberAccess } [
              .node (.mk { kind := .identifierName }
                [.token { kind := .identifier, text := "Enum" }]),
              .token { kind := .dot, text := "." },
              .node (.mk { kind := .identifierName }
                [.token { kind := .identifier, text := "Parse" }])]),
            .node (.mk { kind := .argumentList } [
              .node colorType,
              .node (.mk { kind := .argument } [
                .node (.mk { kind := .identifierName, typeName := some "String" }
                  [.token { kind := .identifier, text := "name" }])])])])])]),
        .node colorType])]

theorem expression_parentheses_nested_parsedColor :
    Place.parsedColor.ParenClean ∧ ∃ after,
      (Place.parsedColor.expression (Profile.java true) 1).run Journal.java =
        .ok "Use(Color.valueOf(name), (Color))" after ∧
      Brackets.parentheses.Nested ("Use(Color.valueOf(name), (Color))" : String).toList := by
  have clean : Place.parsedColor.ParenClean := ⟨by decide +kernel, by decide⟩
  have written : (match (Place.parsedColor.expression (Profile.java true) 1).run Journal.java with
      | .ok text _ => text
      | .error _ _ => "") = "Use(Color.valueOf(name), (Color))" := by decide +kernel
  refine ⟨clean, ?_⟩
  cases ran : (Place.parsedColor.expression (Profile.java true) 1).run Journal.java with
  | error fault after => simp [ran] at written
  | ok text after =>
      rw [ran] at written
      subst written
      exact ⟨after, rfl, expression_parentheses_nested _ clean 1 _ after _ ran⟩

end SharpToJava
