import Mathlib.Data.List.DropRight
import SharpToJava.Proofs.TypeMap.Characters
import SharpToJava.Proofs.Weigh

/-!
The components of a type. Cutting a text at an angle bracket cuts its components in two, so the
components of a mapped generic type are those of the images of its components, whatever brackets
were set in between.
-/

namespace SharpToJava

namespace Text

theorem dropWhile_isBlank_of_free {text : List Char} (free : ∀ c ∈ text, isBlank c = false) :
    text.dropWhile isBlank = text := by
  cases text with
  | nil => rfl
  | cons c rest => rw [List.dropWhile_cons_of_neg (by simp [free c List.mem_cons_self])]

theorem trimChars_of_free {text : List Char} (free : ∀ c ∈ text, isBlank c = false) :
    trimChars text = text := by
  have backwards : ∀ c ∈ text.reverse, isBlank c = false :=
    fun c member => free c (List.mem_reverse.mp member)
  rw [trimChars, dropWhile_isBlank_of_free free, dropWhile_isBlank_of_free backwards,
    List.reverse_reverse]

/-- Trimming takes away blanks only. -/
theorem mem_trimChars {text : List Char} {c : Char} (visible : isBlank c = false) :
    c ∈ trimChars text ↔ c ∈ text := by
  have dropped : ∀ text : List Char, c ∈ text.dropWhile isBlank ↔ c ∈ text := by
    intro text
    refine ⟨fun member => (List.dropWhile_suffix _).subset member, fun member => ?_⟩
    induction text with
    | nil => exact member
    | cons first rest ih =>
        by_cases blank : isBlank first = true
        · rw [List.dropWhile_cons_of_pos blank]
          rcases List.mem_cons.mp member with rfl | later
          · rw [visible] at blank
            cases blank
          · exact ih later
        · rwa [List.dropWhile_cons_of_neg blank]
  rw [trimChars, List.mem_reverse, dropped, List.mem_reverse, dropped]

theorem trimChars_trimChars (text : List Char) : trimChars (trimChars text) = trimChars text := by
  have starts : ((text.dropWhile isBlank).rdropWhile isBlank).dropWhile isBlank =
      (text.dropWhile isBlank).rdropWhile isBlank := by
    -- what is left starts as it did, with no blank
    obtain ⟨rest, whole⟩ := List.rdropWhile_prefix isBlank (text.dropWhile isBlank)
    cases kept : (text.dropWhile isBlank).rdropWhile isBlank with
    | nil => rfl
    | cons c others =>
        rw [kept] at whole
        have present : text.dropWhile isBlank ≠ [] := by simp [← whole]
        have first := List.head_dropWhile_not isBlank present
        simp only [← whole, List.cons_append, List.head_cons] at first
        rw [List.dropWhile_cons_of_neg (by simp [first])]
  change (List.dropWhile isBlank (List.rdropWhile isBlank _)).rdropWhile isBlank = _
  rw [starts, List.rdropWhile_idempotent]
  rfl

end Text

namespace TypeName

theorem splitChars_eq_splitOnP (p : Char → Bool) (text : List Char) :
    splitChars p text = text.splitOnP p := by
  induction text with
  | nil => rfl
  | cons c rest ih =>
      rw [splitChars, List.splitOnP_cons_eq_if_modifyHead, ih]
      split
      · rfl
      · cases pieces : rest.splitOnP p with
        | nil => exact absurd pieces (List.splitOnP_ne_nil p rest)
        | cons first others => rfl

/-- The texts between the angle brackets, without the blanks around them. -/
def pieces (text : List Char) : List (List Char) := (text.splitOnP isAngle).map Text.trimChars

theorem components_eq (name : String) :
    components name = (pieces name.toList).filterMap fun piece =>
      if piece.isEmpty then none else some (String.ofList piece) := by
  rw [components, splitChars_eq_splitOnP, pieces]

theorem mem_components {name component : String} :
    component ∈ components name ↔ component ≠ "" ∧ component.toList ∈ pieces name.toList := by
  rw [components_eq, List.mem_filterMap]
  constructor
  · rintro ⟨piece, listed, kept⟩
    split at kept
    · cases kept
    · rename_i filled
      cases kept
      rw [String.toList_ofList]
      exact ⟨fun empty => filled (by simp [String.ofList_eq_empty_iff.mp empty]), listed⟩
  · rintro ⟨filled, listed⟩
    refine ⟨component.toList, listed, ?_⟩
    rw [if_neg (by simpa using filled), String.ofList_toList]

theorem pieces_append_cut (first : List Char) {c : Char} (cut : isAngle c = true)
    (second : List Char) : pieces (first ++ c :: second) = pieces first ++ pieces second := by
  rw [pieces, List.splitOnP_append_cons first second cut, List.map_append]
  rfl

theorem pieces_of_free {text : List Char} (free : ∀ c ∈ text, isAngle c = false) :
    pieces text = [Text.trimChars text] := by
  rw [pieces, List.splitOnP_eq_singleton free]
  rfl

/-- An angle bracket ends one component and starts another. -/
theorem components_append_cut {first second whole : String} {c : Char} (cut : isAngle c = true)
    (spelled : whole.toList = first.toList ++ c :: second.toList) :
    components whole = components first ++ components second := by
  rw [components_eq, components_eq, components_eq, spelled, pieces_append_cut _ cut,
    List.filterMap_append]

/-- A text that is a component by itself: not empty, without angle brackets and without blanks
around it. -/
structure IsComponent (name : String) : Prop where
  filled : name ≠ ""
  trimmed : Text.trimChars name.toList = name.toList
  uncut : ∀ c ∈ name.toList, isAngle c = false

theorem IsComponent.components_eq {name : String} (single : IsComponent name) :
    components name = [name] := by
  have filled : ¬ name.toList.isEmpty := by simpa using single.filled
  rw [TypeName.components_eq, pieces_of_free single.uncut, single.trimmed,
    List.filterMap_cons, if_neg filled, String.ofList_toList, List.filterMap_nil]

theorem uncut_of_mem_splitOnP {text piece : List Char} (listed : piece ∈ text.splitOnP isAngle) :
    ∀ c ∈ piece, isAngle c = false := by
  induction text generalizing piece with
  | nil =>
      rw [List.splitOnP_nil, List.mem_singleton] at listed
      simp [listed]
  | cons first rest ih =>
      rw [List.splitOnP_cons_eq_if_modifyHead] at listed
      split at listed
      case isTrue =>
        rcases List.mem_cons.mp listed with rfl | later
        · simp
        · exact ih later
      case isFalse uncut =>
        obtain ⟨next, others, cut⟩ :=
          List.exists_cons_of_ne_nil (List.splitOnP_ne_nil isAngle rest)
        rw [cut] at ih
        rw [cut, List.modifyHead_cons] at listed
        rcases List.mem_cons.mp listed with rfl | later
        · simpa [uncut] using ih List.mem_cons_self
        · exact ih (List.mem_cons_of_mem _ later)

theorem isComponent_of_mem {name component : String} (listed : component ∈ components name) :
    IsComponent component := by
  obtain ⟨filled, piece⟩ := mem_components.mp listed
  obtain ⟨raw, cut, trimmed⟩ := List.mem_map.mp piece
  refine ⟨filled, by rw [← trimmed, Text.trimChars_trimChars], fun c member => ?_⟩
  rw [← trimmed, Text.trimChars] at member
  have kept := (List.dropWhile_suffix _).subset (List.mem_reverse.mp member)
  exact uncut_of_mem_splitOnP cut c ((List.dropWhile_suffix _).subset (List.mem_reverse.mp kept))

/-- A character that neither cuts nor surrounds components is in them as often as in the name. -/
theorem weigh_count_components {c : Char} (uncut : isAngle c = false)
    (visible : Text.isBlank c = false) (name : String) :
    weigh (·.toList.count c) (components name) = name.toList.count c := by
  have kept : ∀ p : Char → Bool, p c = false → ∀ d, p d = true → (d == c) = false := by
    intro p outside d inside
    refine beq_false_of_ne fun same => ?_
    rw [same, outside] at inside
    cases inside
  have filtered := congrArg List.length
    (filter_components (kept isAngle uncut) (kept Text.isBlank visible) name)
  rw [length_flatMap_eq_weigh, ← List.countP_eq_length_filter] at filtered
  simp only [← List.countP_eq_length_filter] at filtered
  exact filtered

@[simp] theorem components_empty : components "" = [] := rfl

end TypeName

namespace TypeMap

open SharpToJava.TypeName (components components_append_cut components_empty)

variable {types : TypeMap}

theorem map_eq_mapGeneric {use : TypeUse} {name : String} (opened : '<' ∈ name.toList) :
    types.map use name = types.mapGeneric use name := by
  rw [map_eq]
  simp [opened]

/-- Dimensions stay behind the image of their element. -/
theorem map_append_dimensions (use : TypeUse) {name : String} (unopened : '<' ∉ name.toList)
    (unbracketed : '[' ∉ name.toList) (levels : Nat) :
    types.map use (name ++ String.join (List.replicate levels "[]")) =
      types.mapName use name ++ String.join (List.replicate levels "[]") := by
  have element : ∀ c ∈ name.toList, (c != '[') = true := by
    intro c member
    simpa using fun (bracket : c = '[') => unbracketed (bracket ▸ member)
  have ungeneric : (name.toList ++ (String.join (List.replicate levels "[]")).toList).contains '<' =
      false := by
    simp [unopened]
  rw [map_eq]
  simp only [String.toList_append, ungeneric, Bool.false_eq_true, if_false,
    List.takeWhile_append_of_pos element, List.dropWhile_append_of_pos element]
  cases levels with
  | zero => simp
  | succ levels =>
      have suffix : (String.join (List.replicate (levels + 1) "[]")).toList =
          '[' :: ']' :: (String.join (List.replicate levels "[]")).toList := by
        simp [List.replicate_succ]
      rw [suffix, List.takeWhile_cons_of_neg (by decide), List.dropWhile_cons_of_neg (by decide),
        ← suffix, List.append_nil, String.ofList_toList, String.ofList_toList]

@[simp] theorem toList_closing (count : Nat) :
    (String.join (List.replicate count ">")).toList = List.replicate count '>' := by
  induction count with
  | zero => rfl
  | succ count ih => simp [List.replicate_succ, ih]

theorem components_closing (text : String) (count : Nat) :
    components (text ++ String.join (List.replicate count ">")) = components text := by
  induction count with
  | zero => simp
  | succ count ih =>
      have spelled : (text ++ String.join (List.replicate (count + 1) ">")).toList =
          (text ++ String.join (List.replicate count ">")).toList ++ '>' :: "".toList := by
        simp [List.replicate_succ']
      rw [components_append_cut rfl spelled, ih, components_empty, List.append_nil]

theorem components_join_openChain (names : List String) :
    components (String.join (types.openChain names)) =
      (names.filterMap types.image?).flatMap components := by
  fun_induction openChain types names with
  | case1 => rfl
  | case2 name => cases image : types.image? name <;> simp [image]
  | case3 name rest single ih =>
      cases image : types.image? name with
      | none => simp [image, ih]
      | some mapped =>
          have spelled : (String.join (((some mapped).map (· ++ "<")).toList ++
              types.openChain rest)).toList =
                mapped.toList ++ '<' :: (String.join (types.openChain rest)).toList := by
            simp
          rw [components_append_cut rfl spelled, ih]
          simp [image]

theorem openChain_eq_nil_iff {names : List String} :
    types.openChain names = [] ↔ names.filterMap types.image? = [] := by
  fun_induction openChain types names with
  | case1 => simp
  | case2 name => cases image : types.image? name <;> simp [image]
  | case3 name rest single ih => cases image : types.image? name <;> simp [image, ih]

/-- Without a component to leave out, the chain is the images with brackets between them. -/
theorem join_openChain (use : TypeUse) {names : List String}
    (supported : ∀ name ∈ names, types.isUnsupported name = false) :
    String.join (types.openChain names) = "<".intercalate (names.map (types.mapName use)) := by
  fun_induction openChain types names with
  | case1 => rfl
  | case2 name =>
      simp [image?_eq_some use (supported name List.mem_cons_self)]
  | case3 name rest single ih =>
      obtain ⟨next, others, rfl⟩ := List.exists_cons_of_ne_nil (by simpa using single)
      have later := ih fun other member => supported other (List.mem_cons_of_mem _ member)
      rw [image?_eq_some use (supported name List.mem_cons_self), String.join_append, later]
      simp [String.intercalate_cons_cons]

theorem mapGeneric_eq (use : TypeUse) {name : String}
    (supported : ∀ component ∈ components name, types.isUnsupported component = false) :
    types.mapGeneric use name =
      (if components name = [] then types.fallbacks.get use
        else "<".intercalate ((components name).map (types.mapName use))) ++
      String.join (List.replicate (name.toList.count '<') ">") := by
  have image := fun component member => image?_eq_some use (supported component member)
  have undropped :
      (components name).filter (fun component => (types.image? component).isNone) = [] := by
    rw [List.filter_eq_nil_iff]
    intro component member
    simp [image component member]
  have empty : (types.openChain (components name)).isEmpty ↔ components name = [] := by
    rw [List.isEmpty_iff, openChain_eq_nil_iff, List.filterMap_eq_nil_iff,
      List.eq_nil_iff_forall_not_mem]
    refine forall₂_congr fun component member => ?_
    simp [image component member]
  rw [mapGeneric]
  simp only [undropped, List.length_nil, Nat.sub_zero, empty, join_openChain use supported]

/-- The components of a mapped generic type. -/
theorem components_mapGeneric (use : TypeUse) (name : String) :
    components (types.mapGeneric use name) =
      if (components name).filterMap types.image? = [] then
        components (types.fallbacks.get use)
      else ((components name).filterMap types.image?).flatMap components := by
  rw [mapGeneric]
  simp only [components_closing, List.isEmpty_iff, openChain_eq_nil_iff]
  split
  · rfl
  · exact components_join_openChain _

end TypeMap

end SharpToJava
