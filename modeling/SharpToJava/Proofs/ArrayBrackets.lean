import SharpToJava.Proofs.GuardedStatement
import SharpToJava.Proofs.Run.Outcome

/-!
Brackets of arrays. An element is reached with one pair of brackets for each index. An array type is
written with one pair of brackets for each rank: the sizes of a rank are written one after the other
inside it. So a rank of several sizes gets one dimension, with a size that none of them has.
-/

namespace SharpToJava

namespace Text

/-- The texts, each in brackets of its own. -/
def bracketed (texts : List String) : String :=
  String.join (texts.map fun text => "[" ++ text ++ "]")

theorem length_bracketed (texts : List String) :
    (bracketed texts).toList.length = (String.join texts).toList.length + 2 * texts.length := by
  induction texts with
  | nil => rfl
  | cons text rest ih =>
      rw [bracketed] at ih ⊢
      rw [List.map_cons, String.join_cons, String.join_cons, String.toList_append,
        String.toList_append, List.length_append, List.length_append, ih, String.toList_append,
        String.toList_append, List.length_append, List.length_append, List.length_cons]
      have opening : "[".toList.length = 1 := rfl
      have closing : "]".toList.length = 1 := rfl
      omega

/-- Several texts in one pair of brackets are shorter than each in its own. -/
theorem bracketed_join_eq_iff (texts : List String) :
    bracketed [String.join texts] = bracketed texts ↔ texts.length = 1 := by
  constructor
  · intro same
    have together := length_bracketed [String.join texts]
    have apart := length_bracketed texts
    rw [same, apart, String.join_cons, String.join_nil, String.append_empty] at together
    simp only [List.length_singleton] at together
    omega
  · intro one
    obtain ⟨text, rfl⟩ := List.length_eq_one_iff.mp one
    rw [String.join_cons, String.join_nil, String.append_empty]

end Text

namespace Phrase

variable (profile : Profile) (depth : Int)

theorem render_join (parts : List Phrase) :
    (join parts).render profile depth = String.join <$> parts.mapM (·.render profile depth) := by
  induction parts with
  | nil => simp
  | cons part rest ih =>
      rw [render_join_cons, ih, List.mapM_cons]
      simp

theorem render_bracketed (parts : List Phrase) :
    (join (parts.map fun part => .join [.text "[", part, .text "]"])).render profile depth =
      Text.bracketed <$> parts.mapM (·.render profile depth) := by
  have wrapped : ∀ part : Phrase, (join [.text "[", part, .text "]"]).render profile depth =
      (fun text => "[" ++ text ++ "]") <$> part.render profile depth := by
    intro part
    simp [render_join_cons, String.append_assoc]
  rw [render_join, List.mapM_map]
  simp only [Function.comp_def, wrapped, RunM.mapM_map, Functor.map_map]
  rfl

end Phrase

namespace Place

variable {place : Place}

theorem phrase_elementAccess (kind : place.node.kind = .elementAccess) :
    place.phrase = Phrase.element place.node.listVariable? (place.slotPhrase .expression)
      ((place.arguments .indexArguments).map phrase) := by
  rw [phrase]
  simp only [kind, mapSlot_eq_map, mapArguments_eq_map, slotPhrase]
  cases place.node.pick? .expression <;> rfl

/-- The phrases of the sizes in a rank. A size that is left out has an empty one. -/
def sizePhrases (rank : Place) : List Phrase :=
  rank.node.childNodes.map fun size =>
    if size.kind = .omittedArraySize then Phrase.empty else (rank.enter size).phrase

theorem phrase_arrayType (kind : place.node.kind = .arrayType) :
    place.phrase = .join (.type (place.node.slotTypeText .type) ::
      (((place.node.childrenOfKind .arrayRank).map fun rank =>
        Phrase.join (place.enter rank).sizePhrases).map fun sizes =>
          .join [.text "[", sizes, .text "]"])) := by
  rw [phrase]
  simp only [kind, mapKind_eq_map, mapNodes_eq_map, List.map_map]
  rfl

/-- The Java texts of the sizes in a rank, each written apart. -/
def sizeTexts (rank : Place) (profile : Profile) (depth : Int) : RunM (List String) :=
  rank.node.childNodes.mapM fun size =>
    if size.kind = .omittedArraySize then pure "" else (rank.enter size).expression profile depth

variable (profile : Profile) (depth : Int)

theorem mapM_sizePhrases (rank : Place) :
    rank.sizePhrases.mapM (·.render profile depth) = rank.sizeTexts profile depth := by
  rw [sizePhrases, List.mapM_map, sizeTexts]
  congr 1
  funext size
  rw [Function.comp_apply]
  split
  · exact Phrase.render_join_nil profile depth
  · rfl

/-- One pair of brackets for each rank. -/
theorem expression_arrayType (kind : place.node.kind = .arrayType) :
    place.expression profile depth = (do
      let element ← RunM.mapType profile .body (place.node.slotTypeText .type)
      let ranks ← (place.node.childrenOfKind .arrayRank).mapM fun rank =>
        String.join <$> (place.enter rank).sizeTexts profile depth
      return element ++ Text.bracketed ranks) := by
  rw [expression, phrase_arrayType kind, Phrase.render_join_cons, Phrase.render_bracketed,
    Phrase.render_type, List.mapM_map]
  simp only [Function.comp_def, Phrase.render_join, mapM_sizePhrases, bind_map_left]

/-- One pair of brackets for each index. -/
theorem expression_elementAccess (kind : place.node.kind = .elementAccess)
    (unlisted : place.node.listVariable? = none) :
    place.expression profile depth = (do
      let base ← (place.slotPhrase .expression).render profile depth
      let indexes ← (place.arguments .indexArguments).mapM (·.expression profile depth)
      return base ++ Text.bracketed indexes) := by
  have bracketed : place.phrase = .join (place.slotPhrase .expression ::
      ((place.arguments .indexArguments).map phrase).map fun index =>
        .join [.text "[", index, .text "]"]) := by
    rw [phrase_elementAccess kind, unlisted]
    rfl
  rw [expression, bracketed, Phrase.render_join_cons, Phrase.render_bracketed, List.mapM_map]
  simp only [bind_map_left]
  rfl

end Place

/-- A rank of an array type gets one pair of brackets, which holds its sizes one after the other.
That is one pair for each size only if there is a single size, while an element of anything but a
list is reached with one pair of brackets for each index. -/
theorem array_sizes_merged (place : Place) (rank : Node) (kind : place.kind = .arrayType)
    (single : place.node.childrenOfKind .arrayRank = [rank]) (profile : Profile) (depth : Int) :
    place.expression profile depth = (do
      let element ← RunM.mapType profile .body (place.node.slotTypeText .type)
      let sizes ← (place.enter rank).sizeTexts profile depth
      return element ++ Text.bracketed [String.join sizes]) ∧
    (∀ before text after, (place.expression profile depth).run before = .ok text after →
      ∃ element between sizes,
        (RunM.mapType profile .body (place.node.slotTypeText .type)).run before =
          .ok element between ∧
        ((place.enter rank).sizeTexts profile depth).run between = .ok sizes after ∧
        sizes.length = rank.childNodes.length ∧
        (text = element ++ Text.bracketed sizes ↔ rank.childNodes.length = 1)) ∧
    ∀ access : Place, access.kind = .elementAccess → access.node.listVariable? = none →
      access.expression profile depth = (do
        let base ← (access.slotPhrase .expression).render profile depth
        let indexes ← (access.arguments .indexArguments).mapM (·.expression profile depth)
        return base ++ Text.bracketed indexes) := by
  have merged : place.expression profile depth = (do
      let element ← RunM.mapType profile .body (place.node.slotTypeText .type)
      let sizes ← (place.enter rank).sizeTexts profile depth
      return element ++ Text.bracketed [String.join sizes]) := by
    rw [Place.expression_arrayType profile depth kind, single]
    simp
  refine ⟨merged, fun before text after written => ?_, fun access accessed unlisted => ?_⟩
  · rw [merged] at written
    obtain ⟨element, between, mapped, rest⟩ := RunM.bind_eq_ok written
    obtain ⟨sizes, beyond, sized, ended⟩ := RunM.bind_eq_ok rest
    cases ended
    have length : sizes.length = rank.childNodes.length :=
      RunM.gives_length_mapM _ _ between sizes after sized
    refine ⟨element, between, sizes, mapped, sized, length, ?_⟩
    rw [String.append_right_inj, Text.bracketed_join_eq_iff, length]
  · exact Place.expression_elementAccess profile depth accessed unlisted

/-- `[2, 3]` -/
def Node.gridRank : Node :=
  .mk { kind := .arrayRank } [
    .token { kind := .openBracket, text := "[" },
    .node (.mk { kind := .literal } [.token { kind := .numericLiteral, text := "2" }]),
    .token { kind := .comma, text := "," },
    .node (.mk { kind := .literal } [.token { kind := .numericLiteral, text := "3" }]),
    .token { kind := .closeBracket, text := "]" }]

/-- `int[2, 3]` -/
def Place.gridType : Place where
  node := .mk { kind := .arrayType } [
    .node (.mk { kind := .predefinedType }
      [.token { kind := .predefinedTypeKeyword, text := "int" }]),
    .node Node.gridRank]

/-- `grid[i, j]` -/
def Place.gridElement : Place where
  node :=
    let name (text : String) : Node :=
      .mk { kind := .identifierName } [.token { kind := .identifier, text }]
    .mk { kind := .elementAccess } [
      .node (name "grid"),
      .node (.mk { kind := .bracketedArgumentList } [
        .node (.mk { kind := .argument } [.node (name "i")]),
        .node (.mk { kind := .argument } [.node (name "j")])])]

theorem array_sizes_merged_grid :
    ∃ element between sizes after later,
      (Place.gridType.expression (Profile.java true) 0).run Journal.java =
        .ok "Integer[23]" after ∧
      (RunM.mapType (Profile.java true) .body "int").run Journal.java = .ok element between ∧
      ((Place.gridType.enter Node.gridRank).sizeTexts (Profile.java true) 0).run between =
        .ok sizes after ∧
      sizes.length = 2 ∧ "Integer[23]" ≠ element ++ Text.bracketed sizes ∧
      (Place.gridElement.expression (Profile.java true) 0).run Journal.java =
        .ok "grid[i][j]" later := by
  obtain ⟨merged, compared, accessed⟩ := array_sizes_merged Place.gridType Node.gridRank rfl rfl
    (Profile.java true) 0
  obtain ⟨after, typed⟩ : ∃ after, (Place.gridType.expression (Profile.java true) 0).run
      Journal.java = .ok "Integer[23]" after := by
    rw [merged]
    exact RunM.exists_of_result? (by decide +kernel)
  obtain ⟨later, indexed⟩ : ∃ later, (Place.gridElement.expression (Profile.java true) 0).run
      Journal.java = .ok "grid[i][j]" later := by
    rw [accessed Place.gridElement rfl rfl]
    exact RunM.exists_of_result? (by decide +kernel)
  obtain ⟨element, between, sizes, mapped, sized, length, differs⟩ :=
    compared Journal.java _ after typed
  have named : Place.gridType.node.slotTypeText .type = "int" := by decide +kernel
  rw [named] at mapped
  refine ⟨element, between, sizes, after, later, typed, mapped, sized, length, ?_, indexed⟩
  rw [Ne, differs]
  decide

end SharpToJava
