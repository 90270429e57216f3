import SharpToJava.Proofs.Holes.Tree
import SharpToJava.Proofs.Phrase.Wording

/-!
The holes of a phrase, counted. The rule of an expression writes each child at most once and makes
only the holes that its kind brings, so the phrase of a place has no more holes than an allowance
gives its node.
-/

namespace SharpToJava

/-- Whether the note says what became of a declaration, not of an expression or a statement. -/
def Note.isOfDeclaration : Note → Bool
  | .skippedTopLevel _ | .skippedMember _ _ | .fieldWithoutDeclaration | .replacedBase _ _ _ => true
  | _ => false

namespace Phrase

mutual
/-- How often a phrase leaves this to a run, at most. -/
def holes (hole : Hole) : Phrase → Nat
  | .text _ | .type _ | .unimportedType _ | .newline | .memberWithoutName => 0
  | .discard => if hole = .discard then 1 else 0
  | .note entry => if hole = .declNote ∧ entry.isOfDeclaration then 1 else 0
  | .join parts => holesAmong hole parts
  | .ledBy _ body => body.holes hole
  | .byConvention enforced otherwise =>
    (if hole = .convention then 1 else 0) + enforced.holes hole + otherwise.holes hole
  | .call callee arguments =>
    (if hole = .call then 1 else 0) + callee.holes hole + holesAmong hole arguments

def holesAmong (hole : Hole) : List Phrase → Nat
  | [] => 0
  | phrase :: rest => phrase.holes hole + holesAmong hole rest
end

variable {hole : Hole}

@[simp] theorem holes_text (written : String) : (text written).holes hole = 0 := by simp [holes]

@[simp] theorem holes_type (source : String) : (type source).holes hole = 0 := by simp [holes]

@[simp] theorem holes_unimportedType (source : String) :
    (unimportedType source).holes hole = 0 := by simp [holes]

@[simp] theorem holes_note (entry : Note) (remark : ¬entry.isOfDeclaration) :
    (note entry).holes hole = 0 := by simp [holes, remark]

@[simp] theorem holes_newline : newline.holes hole = 0 := by simp [holes]

@[simp] theorem holes_join (parts : List Phrase) :
    (join parts).holes hole = holesAmong hole parts := by simp [holes]

@[simp] theorem holesAmong_nil : holesAmong hole [] = 0 := by simp [holesAmong]

@[simp] theorem holesAmong_cons (phrase : Phrase) (rest : List Phrase) :
    holesAmong hole (phrase :: rest) = phrase.holes hole + holesAmong hole rest := by
  simp [holesAmong]

@[simp] theorem holes_empty : empty.holes hole = 0 := by simp [empty]

theorem holesAmong_eq_weigh (parts : List Phrase) :
    holesAmong hole parts = weigh (holes hole) parts := by
  induction parts with
  | nil => simp
  | cons part rest ih => simp [ih]

/-- Words around each part make no difference. -/
theorem holesAmong_map {wrap : Phrase → Phrase}
    (same : ∀ part, (wrap part).holes hole = part.holes hole) (parts : List Phrase) :
    holesAmong hole (parts.map wrap) = holesAmong hole parts := by
  simp [holesAmong_eq_weigh, weigh_map, Function.comp_def, same]

theorem holesAmong_le {build : Node → Phrase} {amount : Node → Nat} {nodes : List Node}
    (each : ∀ node ∈ nodes, (build node).holes hole ≤ amount node) :
    holesAmong hole (nodes.map build) ≤ weigh amount nodes := by
  rw [holesAmong_eq_weigh, weigh_map]
  exact weigh_mono each

@[simp] theorem holes_separated (separator : String) (parts : List Phrase) :
    (separated separator parts).holes hole = holesAmong hole parts := by
  rw [separated, holes_join]
  induction parts with
  | nil => rfl
  | cons first rest ih =>
      cases rest with
      | nil => simp
      | cons second rest =>
          rw [List.intersperse_cons_cons, holesAmong_cons, holesAmong_cons, ih, holes_text,
            Nat.zero_add, ← holesAmong_cons]

@[simp] theorem holes_parenthesized (parts : List Phrase) :
    (parenthesized parts).holes hole = holesAmong hole parts := by
  simp [parenthesized]

theorem holes_member_le (base : Phrase) (name : Node) :
    (member base name).holes hole ≤ base.holes hole := by
  unfold member
  split
  · simp
  · split <;> simp

theorem holes_element_le (list : Option String) (base : Phrase) (indexes : List Phrase) :
    (element list base indexes).holes hole ≤ base.holes hole + holesAmong hole indexes := by
  unfold element
  split
  · simp only [holes_join, holesAmong_cons, holes_text, holesAmong_nil]
    omega
  · apply Nat.le_of_eq
    rw [holes_join, holesAmong_cons, holesAmong_map (by simp)]

theorem holes_cast_le (type : String) (operand : Phrase) :
    (cast type operand).holes hole ≤
      (if hole = .convention then 2 else 0) + operand.holes hole := by
  simp only [cast, holes, holesAmong, empty]
  split <;> omega

theorem holes_enumParse_le (type : String) (argument : Option Phrase) :
    (enumParse type argument).holes hole ≤
      (if hole = .convention then 2 else 0) + (ofOption argument).holes hole := by
  cases argument with
  | none =>
      simp only [enumParse, ofOption, holes, holesAmong, empty, Note.isOfDeclaration]
      split <;> simp
  | some phrase =>
      simp only [enumParse, ofOption, holes, holesAmong, empty]
      split <;> omega

theorem holes_creation_le (type : String) (holder : Option String) (arguments : List Phrase)
    (initializer : Option (List Phrase)) :
    (creation type holder arguments initializer).holes hole ≤
      holesAmong hole (initializer.getD arguments) := by
  simp only [creation, holes_join, holesAmong_cons, holes_text, holes_type, holesAmong_nil,
    Nat.zero_add, Nat.add_zero]
  split
  · simp
  · simp
  · simp [Note.isOfDeclaration]
  · rw [holes_join, holesAmong_cons, holesAmong_map (by simp)]
    simp

end Phrase

namespace Node

variable {node : Node} (hole : Hole)

theorem brings_invocation (kind : node.kind = .invocation) :
    (if hole = .call then 1 else 0) ≤ node.brings hole := by
  cases hole <;> simp [brings, kind]

theorem brings_cast (kind : node.kind = .cast) :
    (if hole = .convention then 2 else 0) ≤ node.brings hole := by
  cases hole <;> simp [brings, kind]

theorem brings_discard (kind : node.kind = .identifierName) (unread : node.identifier = "_") :
    (if hole = .discard then 1 else 0) ≤ node.brings hole := by
  cases hole <;> simp [brings, kind, unread]

end Node

namespace Place

variable {hole : Hole} {allowed : Node → Prop} (allowance : Allowance hole allowed) {place : Place}

section Recursion

-- What a rule finds in the slots, among the arguments and among the children of a node stays
-- within the allowance if smaller places do.

variable (every : place.node.Every allowed)
  (smaller : ∀ inner : Place, inner.size < place.size → inner.node.Every allowed →
    inner.phrase.holes hole ≤ allowance.amount inner.node)
include every smaller

theorem holesAmong_nodes_le {nodes : List Node} (kept : nodes.Sublist place.node.childNodes) :
    Phrase.holesAmong hole (nodes.map fun child => (place.enter child).phrase) ≤
      allowance.amount place.node := by
  apply Nat.le_trans _ (allowance.sublist_le every.here kept)
  apply Phrase.holesAmong_le
  intro child listed
  have member := kept.subset listed
  exact smaller (place.enter child) (Node.size_lt_of_mem member) (every.of_child member)

theorem holes_slot_le (slot : Slot) :
    (Phrase.ofOption (place.mapSlot slot fun inner _ => inner.phrase)).holes hole ≤
      weigh allowance.amount (place.node.pick? slot).toList := by
  rw [mapSlot_eq_map]
  cases filled : place.node.pick? slot with
  | none => simp [Phrase.ofOption]
  | some child =>
      have bound := smaller (place.enter child) (Node.size_lt_of_pick? filled)
        (every.of_pick? filled)
      simpa [Phrase.ofOption] using bound

theorem holes_slot_le_amount (slot : Slot) :
    (Phrase.ofOption (place.mapSlot slot fun inner _ => inner.phrase)).holes hole ≤
      allowance.amount place.node := by
  have inner := holes_slot_le allowance every smaller slot
  have bound := allowance.pick?_le every.here slot
  omega

theorem holesAmong_arguments_le (slot : Slot) :
    Phrase.holesAmong hole (place.mapArguments slot fun inner _ => inner.phrase) ≤
      weigh allowance.amount (place.node.pick? slot).toList := by
  rw [mapArguments_eq_map, arguments]
  cases filled : place.node.pick? slot with
  | none => simp
  | some list =>
      have kept : (list.childrenOfKind .argument).Sublist (place.enter list).node.childNodes :=
        List.filter_sublist
      have bound := holesAmong_nodes_le allowance (every.of_pick? filled)
        (fun inner below => smaller inner (Nat.lt_trans below (Node.size_lt_of_pick? filled))) kept
      simpa [List.map_map, Function.comp_def] using bound

theorem holesAmong_descent_le {dropped : Node → Note}
    (remarks : ∀ inner, ¬(dropped inner).isOfDeclaration) :
    Phrase.holesAmong hole (place.node.children.map fun child =>
      match child with
      | .token token => .text token.descentText
      | .node inner =>
        if (place.enter inner).kind.survivesDescent then (place.enter inner).phrase
        else .note (dropped inner)) ≤ allowance.amount place.node := by
  apply Nat.le_trans _ (allowance.children_le every.here)
  rw [Phrase.holesAmong_eq_weigh, weigh_map]
  apply Node.weigh_children_le (fun token => Phrase.holes_text token.descentText)
  intro inner member
  simp only [Function.comp_apply]
  split
  · exact smaller (place.enter inner) (Node.size_lt_of_mem_children member)
      (every.of_child (Node.mem_childNodes.mpr member))
  · simp [remarks]

omit smaller in
theorem holes_textArgument_le
    (smaller : ∀ argument : Place, argument.size < place.size → argument.node.Every allowed →
      argument.phrase.holes hole ≤ allowance.amount argument.node) :
    (Phrase.ofOption (((place.arguments .callArguments).map fun argument =>
      if argument.node.isTextArgument then some argument.phrase else none).findSome? id)).holes hole ≤
        allowance.amount place.node := by
  cases chosen : ((place.arguments .callArguments).map fun argument =>
      if argument.node.isTextArgument then some argument.phrase else none).findSome? id with
  | none => simp [Phrase.ofOption]
  | some phrase =>
      obtain ⟨candidate, listed, isPhrase⟩ := List.exists_of_findSome?_eq_some chosen
      obtain ⟨argument, present, rfl⟩ := List.mem_map.mp listed
      obtain ⟨-, same⟩ := Option.ite_none_right_eq_some.mp isPhrase
      cases same
      have below := mem_nodes_of_mem_arguments present
      exact Nat.le_trans (smaller argument (size_lt_of_mem_arguments present) (every.of_mem below))
        (allowance.below_le every below)

omit smaller in
theorem holesAmong_ranks_le
    (deeper : ∀ rank : Place, rank.size < place.size → ∀ size : Place, size.size < rank.size →
      size.node.Every allowed → size.phrase.holes hole ≤ allowance.amount size.node) :
    Phrase.holesAmong hole ((place.node.childrenOfKind .arrayRank).map fun rank =>
      .join [.text "[", .join (rank.childNodes.map fun size =>
        if size.kind = .omittedArraySize then Phrase.empty
        else ((place.enter rank).enter size).phrase), .text "]"]) ≤ allowance.amount place.node := by
  have kept : (place.node.childrenOfKind .arrayRank).Sublist place.node.childNodes :=
    List.filter_sublist
  apply Nat.le_trans _ (allowance.sublist_le every.here kept)
  apply Phrase.holesAmong_le
  intro rank listed
  have member := kept.subset listed
  have inside := every.of_child member
  have sizes : Phrase.holesAmong hole (rank.childNodes.map fun size =>
      if size.kind = .omittedArraySize then Phrase.empty
      else ((place.enter rank).enter size).phrase) ≤ weigh allowance.amount rank.childNodes := by
    apply Phrase.holesAmong_le
    intro size present
    split
    · simp
    · exact deeper (place.enter rank) (Node.size_lt_of_mem member) _ (Node.size_lt_of_mem present)
        (inside.of_child present)
  have bound := allowance.children_le inside.here
  simp only [Phrase.holes_join, Phrase.holesAmong_cons, Phrase.holes_text, Phrase.holesAmong_nil]
  omega

end Recursion

/-- The phrase of an expression has no more holes than the allowance gives its node. -/
theorem phrase_holes_le (every : place.node.Every allowed) :
    place.phrase.holes hole ≤ allowance.amount place.node := by
  fun_induction Place.phrase place with
  | case1 place node kind ih =>
      have base := holes_slot_le allowance every ih .expression
      have indexes := holesAmong_arguments_le allowance every ih .indexArguments
      have both := allowance.pair_le every.here (by rw [kind]; rfl)
      exact Nat.le_trans (Phrase.holes_element_le _ _ _) (by omega)
  | case2 place node kind name filled ih =>
      exact Nat.le_trans (Phrase.holes_member_le _ _) (holes_slot_le_amount allowance every ih _)
  | case3 => simp [Phrase.holes]
  | case4 place node kind ih =>
      have callee := holes_slot_le allowance every ih .expression
      have arguments := holesAmong_arguments_le allowance every ih .callArguments
      have own : _ ≤ place.node.brings hole := Node.brings_invocation hole kind
      have both := allowance.pair_le every.here (by rw [kind]; rfl)
      rw [Phrase.holes]
      omega
  | case5 place node kind type ihArgument ih =>
      have own : _ ≤ place.node.brings hole := Node.brings_cast hole kind
      have bound := allowance.pick?_le every.here .castOperand
      simp only [mapSlot_eq_map, mapArguments_eq_map]
      cases filled : place.node.pick? .castOperand with
      | none =>
          apply Nat.le_trans (Phrase.holes_cast_le _ _)
          rw [Phrase.holes_empty]
          omega
      | some operand =>
          have inside := every.of_pick? filled
          have below := Node.size_lt_of_pick? filled
          rw [filled, Option.toList_some, weigh_cons, weigh_nil] at bound
          rw [Option.map_some, Option.getD_some]
          split
          -- the text of an enum is an argument of the operand, two levels down
          · have inner : (Phrase.ofOption _).holes hole ≤ allowance.amount operand :=
              holes_textArgument_le allowance inside (ihArgument (place.enter operand) below)
            exact Nat.le_trans (Phrase.holes_enumParse_le _ _) (by omega)
          · have inner : _ ≤ allowance.amount operand := ih (place.enter operand) below inside
            exact Nat.le_trans (Phrase.holes_cast_le _ _) (by omega)
  | case6 place node kind ih ihMember =>
      apply Nat.le_trans (Phrase.holes_creation_le _ _ _ _)
      simp only [mapSlot_eq_map, mapNodes_eq_map]
      cases filled : place.node.pick? .initializer with
      | none =>
          have arguments := holesAmong_arguments_le allowance every ih .callArguments
          have bound := allowance.pick?_le every.here .callArguments
          exact Nat.le_trans arguments (by omega)
      | some list =>
          have members := holesAmong_nodes_le allowance (every.of_pick? filled)
            (ihMember (place.enter list) (Node.size_lt_of_pick? filled)) (List.Sublist.refl _)
          exact Nat.le_trans members (allowance.child_le every.here (Node.mem_of_pick? filled))
  | case7 place node kind ih | case8 place node kind ih =>
      have left := holes_slot_le allowance every ih .left
      have right := holes_slot_le allowance every ih .right
      have both := allowance.pair_le every.here (by rw [kind]; rfl)
      simp only [Phrase.holes_join, Phrase.holesAmong_cons, Phrase.holes_text, Phrase.holesAmong_nil]
      omega
  | case9 place node kind ih | case10 place node kind ih =>
      simpa using holes_slot_le_amount allowance every ih .operand
  | case11 => simp
  | case12 place node kind ih | case13 place node kind ih =>
      exact holes_slot_le_amount allowance every ih _
  | case14 place node kind ih =>
      rw [mapKind_eq_map, Phrase.holes_parenthesized]
      exact holesAmong_nodes_le allowance every ih List.filter_sublist
  | case15 => simp
  | case16 => simp
  | case17 => simp
  | case18 place node kind ih => simpa using holes_slot_le_amount allowance every ih .expression
  | case19 => simp
  | case20 => simp
  | case21 place node kind ih =>
      simp only [mapKind_eq_map, mapNodes_eq_map, Phrase.holes_join, Phrase.holesAmong_cons,
        Phrase.holes_type, Nat.zero_add]
      exact holesAmong_ranks_le allowance every ih
  | case22 place node kind ih =>
      rw [mapNodes_eq_map, Phrase.holes_join, Phrase.holesAmong_cons, Phrase.holes_text, Nat.zero_add]
      exact holesAmong_nodes_le allowance every ih (List.Sublist.refl _)
  | case23 place node kind unread =>
      have own : _ ≤ place.node.brings hole := Node.brings_discard hole kind unread
      have covered := allowance.covers place.node every.here
      rw [Phrase.holes]
      omega
  | case24 => simp
  | case25 => simp
  | case26 => simp
  | case27 => simp
  | case28 => simp
  | case29 => simp
  | case30 place =>
      rename_i ih
      have remarks : ∀ inner : Node,
          ¬(Note.dropped inner.kindName place.node.kindName).isOfDeclaration := by
        simp [Note.isOfDeclaration]
      have below := holesAmong_descent_le allowance every ih remarks
      simp only [mapChildren_eq_map, Phrase.holes_join, Phrase.holesAmong_cons, Phrase.holesAmong_nil]
      split
      · rw [Phrase.holes_note _ (by simp [Note.isOfDeclaration]), Nat.zero_add, Nat.add_zero]
        exact below
      · rw [Phrase.holes_empty, Nat.zero_add, Nat.add_zero]
        exact below

end Place

end SharpToJava
