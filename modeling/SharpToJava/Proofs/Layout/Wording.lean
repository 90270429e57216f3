import SharpToJava.Layout.Rules
import SharpToJava.Proofs.Phrase.Wording

/-!
The phrases that statements are made of: their words come from the tree as those of expressions do.
-/

namespace SharpToJava

namespace Node

theorem mem_childNodes_of_filterMap {node part : Node} {children : List Child}
    (kept : children ⊆ node.children) (listed : part ∈ children.filterMap Child.node?) :
    part ∈ node.childNodes := by
  obtain ⟨child, member, isNode⟩ := List.mem_filterMap.mp listed
  exact List.mem_filterMap.mpr ⟨child, kept member, isNode⟩

theorem upTo_subset (kind : TokenKind) (children : List Child) : upTo kind children ⊆ children :=
  (List.takeWhile_prefix _).subset

theorem past_subset (kind : TokenKind) (children : List Child) : past kind children ⊆ children :=
  fun _ member => (List.dropWhile_suffix _).subset (List.mem_of_mem_tail member)

variable {node part : Node}

theorem mem_childNodes_of_forInitializers (listed : part ∈ node.forInitializers) :
    part ∈ node.childNodes :=
  mem_childNodes_of_filterMap (List.Subset.trans (upTo_subset _ _) (upTo_subset _ _)) listed

theorem mem_childNodes_of_forCondition? (found : node.forCondition? = some part) :
    part ∈ node.childNodes :=
  mem_childNodes_of_filterMap
    (List.Subset.trans (upTo_subset _ _)
      (List.Subset.trans (past_subset _ _) (upTo_subset _ _)))
    (List.mem_of_getLast? found)

theorem mem_childNodes_of_forIncrementors (listed : part ∈ node.forIncrementors) :
    part ∈ node.childNodes :=
  mem_childNodes_of_filterMap
    (List.Subset.trans (past_subset _ _)
      (List.Subset.trans (past_subset _ _) (upTo_subset _ _))) listed

theorem mem_childNodes_of_forStatement? (found : node.forStatement? = some part) :
    part ∈ node.childNodes :=
  mem_childNodes_of_filterMap (past_subset _ _) (List.mem_of_getLast? found)

end Node

namespace Place

theorem mapForStatement_eq_map {α : Type} (place : Place) (f : Place → α) :
    place.mapForStatement (fun inner _ => f inner) =
      place.node.forStatement?.map fun statement => f (place.enter statement) := by
  unfold mapForStatement
  split <;> simp_all

variable {wording : Wording} {place : Place}

theorem slotPhrase_within (every : place.Every wording.Accepts) (slot : Slot) :
    (place.slotPhrase slot).Within wording := by
  unfold slotPhrase
  split
  case h_1 child filled => exact phrase_within (every.enter_pick? filled)
  case h_2 => exact .empty

theorem declaratorPhrase_within (every : place.Every wording.Accepts) :
    place.declaratorPhrase.Within wording := by
  unfold declaratorPhrase
  split
  case h_1 clause found =>
    have named := wording.append every.here.identifier (wording.plain " = " (by decide))
    exact .pair (.text named) (slotPhrase_within (every.enter_childOfKind? found) _)
  case h_2 => exact .text every.here.identifier

theorem declarationPhrase_within (every : place.Every wording.Accepts) :
    place.declarationPhrase.Within wording := by
  refine .triple (.type (Wording.Accepts.slotTypeText every.1 _)) (.plain (by decide))
    (.separated (wording.plain _ (by decide)) fun phrase member => ?_)
  obtain ⟨declarator, present, rfl⟩ := List.mem_map.mp member
  exact declaratorPhrase_within (every.enter_childrenOfKind present)

theorem forInitializerPhrase_within (every : place.Every wording.Accepts) :
    place.forInitializerPhrase.Within wording := by
  unfold forInitializerPhrase
  split
  · exact declarationPhrase_within every
  · exact phrase_within every

theorem forHeaderPhrase_within (every : place.Every wording.Accepts) :
    place.forHeaderPhrase.Within wording := by
  have comma : wording.holds ", " := wording.plain _ (by decide)
  refine .join ?_
  simp only [List.forall_mem_cons]
  refine ⟨.plain (by decide), .separated comma ?_, .plain (by decide), .ofOption ?_,
    .plain (by decide), .separated comma ?_, .plain (by decide), by simp⟩
  · intro phrase member
    obtain ⟨part, listed, rfl⟩ := List.mem_map.mp member
    exact forInitializerPhrase_within
      (every.enter_child (Node.mem_childNodes_of_forInitializers listed))
  · intro phrase member
    obtain ⟨part, found, rfl⟩ := Option.map_eq_some_iff.mp member
    exact phrase_within (every.enter_child (Node.mem_childNodes_of_forCondition? found))
  · intro phrase member
    obtain ⟨part, listed, rfl⟩ := List.mem_map.mp member
    exact phrase_within (every.enter_child (Node.mem_childNodes_of_forIncrementors listed))

end Place

end SharpToJava
