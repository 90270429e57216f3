import Mathlib.Data.List.Chain
import SharpToJava.Proofs.Lists
import SharpToJava.Proofs.TypeMap.Chain

/-!
Which types keep their structure when they are mapped: the chains, and no others. The map that marks
every name of a type tells: if the marked type has as many marks and brackets as it should, and no
brackets with nothing between them, then every component of the type is one of its names, and the
type has neither dimensions nor a second argument anywhere.
-/

namespace SharpToJava

open SharpToJava.TypeName (isAngle isNameChar IsSimple components)

/-- No opening bracket is closed at once. -/
def BracketsFilled (text : List Char) : Prop :=
  text.IsChain fun c next => ¬ (c = '<' ∧ next = '>')

namespace BracketsFilled

theorem of_unopened {text : List Char} (unopened : '<' ∉ text) : BracketsFilled text := by
  induction text with
  | nil => exact List.isChain_nil
  | cons c rest ih =>
      rw [List.mem_cons, not_or] at unopened
      exact List.isChain_cons.mpr ⟨fun next _ empty => unopened.1 empty.1.symm, ih unopened.2⟩

theorem part {text inner : List Char} (filled : BracketsFilled text) (inside : inner <:+: text) :
    BracketsFilled inner :=
  List.IsChain.infix filled inside

theorem opened {c : Char} {rest : List Char} (other : c ≠ '>') (later : BracketsFilled (c :: rest)) :
    BracketsFilled ('<' :: c :: rest) :=
  List.isChain_cons_cons.mpr ⟨fun empty => other empty.2, later⟩

theorem append {first second : List Char} (unopened : '<' ∉ first)
    (later : BracketsFilled second) : BracketsFilled (first ++ second) := by
  refine List.isChain_append.mpr ⟨of_unopened unopened, later, fun c last next _ empty => ?_⟩
  exact unopened (empty.1 ▸ List.mem_of_mem_getLast? last)

/-- A chain of images that are all there fills its brackets. -/
theorem intercalate {images : List String} (count : Nat)
    (filled : ∀ image ∈ images, image ≠ "")
    (uncut : ∀ image ∈ images, ∀ c ∈ image.toList, isAngle c = false) :
    BracketsFilled (("<".intercalate images).toList ++ List.replicate count '>') := by
  have unopened : ∀ image ∈ images, '<' ∉ image.toList := by
    intro image listed member
    cases uncut image listed _ member
  match images with
  | [] => exact of_unopened (by simp)
  | [image] =>
      rw [String.intercalate_singleton]
      exact append (unopened image List.mem_cons_self) (of_unopened (by simp))
  | image :: next :: rest =>
      have later : BracketsFilled (("<".intercalate (next :: rest)).toList ++
          List.replicate count '>') :=
        intercalate count (fun other member => filled other (List.mem_cons_of_mem _ member))
          fun other member => uncut other (List.mem_cons_of_mem _ member)
      rw [String.intercalate_cons_cons, String.toList_append, String.toList_append,
        List.append_assoc, List.append_assoc]
      refine append (unopened image List.mem_cons_self) ?_
      -- what follows the bracket is the first character of the next image
      have nextFilled := filled next (by simp)
      obtain ⟨c, others, spelled⟩ := List.exists_cons_of_ne_nil
        (mt String.toList_eq_nil_iff.mp nextFilled)
      have other : c ≠ '>' := by
        rintro rfl
        cases uncut next (by simp) '>' (by simp [spelled])
      have starts : ∃ tail, ("<".intercalate (next :: rest)).toList ++ List.replicate count '>' =
          c :: tail := by
        cases rest with
        | nil => simp [spelled]
        | cons second more => simp [String.intercalate_cons_cons, spelled]
      obtain ⟨tail, begins⟩ := starts
      rw [begins] at later ⊢
      exact opened other later

end BracketsFilled

namespace TypeTree

theorem filled_textAmong {name : String} {arguments : List TypeTree}
    (filled : BracketsFilled (generic name arguments).text.toList) :
    BracketsFilled (textAmong arguments).toList := by
  rw [toList_text_generic] at filled
  exact filled.part ⟨name.toList ++ ['<'], ['>'], by simp⟩

theorem not_filled_of_nil {name : String} : ¬ BracketsFilled (generic name []).text.toList := by
  intro filled
  rw [toList_text_generic, toList_textAmong_nil] at filled
  have closed : ['<', '>'] <:+: name.toList ++ '<' :: ([] ++ ['>']) := ⟨name.toList, [], by simp⟩
  exact List.isChain_pair.mp (filled.part closed) ⟨rfl, rfl⟩

theorem isUnary_of_filled {type : TypeTree} (filled : BracketsFilled type.text.toList)
    (single : ',' ∉ type.text.toList) (undimensioned : '[' ∉ type.text.toList) :
    type.isUnary = true := by
  fun_induction isUnary type with
  | case1 => rfl
  | case2 name argument ih =>
      have inside := filled_textAmong filled
      rw [toList_text_generic, toList_textAmong_singleton] at single undimensioned
      rw [toList_textAmong_singleton] at inside
      exact ih inside (fun comma => single (by simp [comma])) fun bracket =>
        undimensioned (by simp [bracket])
  | case3 name arguments several =>
      rcases eq_nil_or_cons_cons several with rfl | ⟨first, second, rest, rfl⟩
      · exact absurd filled not_filled_of_nil
      · refine absurd ?_ single
        rw [toList_text_generic, toList_textAmong_cons]
        simp
  | case4 element further =>
      refine absurd ?_ undimensioned
      rw [toList_text_array, List.mem_append]
      exact .inr (mem_dimensions.mpr (.inl rfl))

mutual
/-- If every generic type has an argument, there are more names than generic types. -/
theorem count_lt_length : ∀ {type : TypeTree}, BracketsFilled type.text.toList →
    (∀ name ∈ type.names, name.toList.count '<' = 0) →
      type.text.toList.count '<' < type.names.length
  | .simple name, filled, uncut => by
    rw [toList_text_simple, uncut name (by simp [names]), names]
    exact Nat.one_pos
  | .generic name arguments, filled, uncut => by
    have given : 0 < arguments.length := by
      cases arguments with
      | nil => exact absurd filled not_filled_of_nil
      | cons argument rest => exact Nat.succ_pos _
    have inside := count_add_length_le (filled_textAmong filled) fun other member =>
      uncut other (by simp [names, member])
    have outer := uncut name (by simp [names])
    rw [toList_text_generic, names, List.count_append, List.count_cons_self, List.count_append,
      outer, List.length_cons]
    have closing : ['>'].count '<' = 0 := rfl
    omega
  | .array element further, filled, uncut => by
    rw [toList_text_array] at filled ⊢
    have inside := count_lt_length (filled.part (List.infix_append [] _ _))
      fun other member => uncut other (by simpa [names] using member)
    have outside : (dimensions further).count '<' = 0 := by
      rw [List.count_eq_zero, mem_dimensions]
      decide
    rw [names, List.count_append]
    omega

theorem count_add_length_le : ∀ {types : List TypeTree}, BracketsFilled (textAmong types).toList →
    (∀ name ∈ namesAmong types, name.toList.count '<' = 0) →
      (textAmong types).toList.count '<' + types.length ≤ (namesAmong types).length
  | [], filled, uncut => by
    rw [toList_textAmong_nil]
    exact Nat.zero_le _
  | [type], filled, uncut => by
    rw [toList_textAmong_singleton] at filled ⊢
    have only := count_lt_length filled fun other member =>
      uncut other (by simp [namesAmong, member])
    rw [namesAmong, namesAmong, List.append_nil]
    exact only
  | type :: next :: rest, filled, uncut => by
    rw [toList_textAmong_cons] at filled ⊢
    rw [namesAmong] at uncut ⊢
    have first := count_lt_length (filled.part (List.infix_append [] _ _))
      fun other member => uncut other (List.mem_append_left _ member)
    have later := count_add_length_le
      (filled.part ⟨type.text.toList ++ [',', ' '], [], by simp⟩)
      fun other member => uncut other (List.mem_append_right _ member)
    simp only [List.length_append, List.length_cons, List.count_append, List.count_cons] at later ⊢
    have comma : (',' == '<') = false := rfl
    have blank : (' ' == '<') = false := rfl
    rw [comma, blank]
    simp only [Bool.false_eq_true, if_false]
    omega
end

end TypeTree

/-- A name with a mark behind it. -/
def TypeName.mark (name : String) : String := name ++ "x"

theorem TypeName.count_mark (name : String) :
    (mark name).toList.count 'x' = name.toList.count 'x' + 1 := by
  rw [mark, String.toList_append, List.count_append]
  rfl

theorem TypeName.IsSimple.mark {name : String} (simple : IsSimple name) :
    IsSimple (TypeName.mark name) := by
  intro c member
  rw [TypeName.mark, String.toList_append, List.mem_append] at member
  rcases member with own | last
  · exact simple c own
  · rw [List.mem_singleton.mp last]
    decide

namespace TypeMap

/-- The map that marks the given names, and no others. -/
def marking (names : List String) : TypeMap :=
  { images := names.map fun name => (name, TypeName.mark name), apart := List.forall_mem_nil _ }

variable (names : List String) {name : String}

theorem lookup_marking : (marking names).images.lookup name =
    if name ∈ names then some (TypeName.mark name) else none := by
  change List.lookup name (names.map fun name => (name, TypeName.mark name)) = _
  induction names with
  | nil => rfl
  | cons first rest ih =>
      rw [List.map_cons, List.lookup_cons, ih]
      by_cases same : name = first
      · simp [same]
      · simp [same, beq_false_of_ne same]

theorem supported_marking : (marking names).isUnsupported name = false := rfl

theorem mapName_marking (use : TypeUse) : (marking names).mapName use name =
    if name ∈ names then TypeName.mark name else name := by
  rw [mapName, lookup_marking]
  by_cases listed : name ∈ names
  · simp [listed]
  · simp [listed, marking]

/-- A marked component is still a component. -/
theorem isComponent_marking (use : TypeUse) (single : TypeName.IsComponent name) :
    (marking names).mapName use name ≠ "" ∧
      ∀ c ∈ ((marking names).mapName use name).toList, isAngle c = false := by
  rw [mapName_marking]
  split
  · refine ⟨by simp [TypeName.mark], fun c member => ?_⟩
    rw [TypeName.mark, String.toList_append, List.mem_append] at member
    rcases member with own | last
    · exact single.uncut c own
    · rw [List.mem_singleton.mp last]
      rfl
  · exact ⟨single.filled, single.uncut⟩

theorem weigh_count_marking (use : TypeUse) (found : List String) :
    weigh (fun name => ((marking names).mapName use name).toList.count 'x') found =
      weigh (·.toList.count 'x') found + found.countP (· ∈ names) := by
  induction found with
  | nil => rfl
  | cons first rest ih =>
      rw [weigh_cons, ih, mapName_marking, weigh_cons, List.countP_cons]
      simp only [decide_eq_true_eq]
      split
      · rw [TypeName.count_mark]
        omega
      · omega

end TypeMap

namespace TypeTree

variable {type : TypeTree}

/-- Simple names in place of simple names leave all other characters. -/
theorem count_rename_of_simple {f : String → String} {c : Char} (special : isNameChar c = false)
    (simple : type.AllSimple) (renamed : ∀ name ∈ type.names, IsSimple (f name)) :
    (type.rename f).text.toList.count c = type.text.toList.count c := by
  have before : weigh (·.toList.count c) type.names = 0 :=
    weigh_eq_zero fun name named => (simple name named).count_eq_zero special
  have after : weigh (fun name => (f name).toList.count c) type.names = 0 :=
    weigh_eq_zero fun name named => (renamed name named).count_eq_zero special
  have counted := count_rename f c type
  omega

/-- The type with all names marked. -/
def marked (type : TypeTree) : TypeTree := type.rename TypeName.mark

theorem rename_marking (type : TypeTree) (use : TypeUse) :
    type.rename ((TypeMap.marking type.names).mapName use) = type.marked :=
  rename_congr fun name named => by rw [TypeMap.mapName_marking, if_pos named]

theorem count_marked_special {c : Char} (special : isNameChar c = false) (simple : type.AllSimple) :
    type.marked.text.toList.count c = type.text.toList.count c :=
  count_rename_of_simple special simple fun name named => (simple name named).mark

theorem count_marked (type : TypeTree) :
    type.marked.text.toList.count 'x' = type.text.toList.count 'x' + type.names.length := by
  have counted := count_rename ((TypeMap.marking type.names).mapName .body) 'x' type
  have all : type.names.countP (· ∈ type.names) = type.names.length :=
    List.countP_eq_length.mpr fun name named => decide_eq_true named
  rw [rename_marking, TypeMap.weigh_count_marking, all] at counted
  omega

/-- The chain of the marked components, closed as often as the type opens brackets. -/
def markedChain (type : TypeTree) (use : TypeUse) : String :=
  "<".intercalate ((components type.text).map ((TypeMap.marking type.names).mapName use)) ++
    String.join (List.replicate (type.text.toList.count '<') ">")

theorem filled_markedChain (type : TypeTree) (use : TypeUse) :
    BracketsFilled (type.markedChain use).toList := by
  rw [markedChain, String.toList_append, TypeMap.toList_closing]
  refine BracketsFilled.intercalate _ (fun image listed => ?_) (fun image listed => ?_)
  all_goals
    obtain ⟨component, found, rfl⟩ := List.mem_map.mp listed
    have still := TypeMap.isComponent_marking type.names use (TypeName.isComponent_of_mem found)
  · exact still.1
  · exact still.2

theorem count_markedChain (type : TypeTree) (use : TypeUse) :
    (type.markedChain use).toList.count '<' = (components type.text).length - 1 ∧
    (type.markedChain use).toList.count 'x' =
      type.text.toList.count 'x' + (components type.text).countP (· ∈ type.names) := by
  have uncut : weigh (fun component =>
      ((TypeMap.marking type.names).mapName use component).toList.count '<')
        (components type.text) = 0 := by
    refine weigh_eq_zero fun component found => List.count_eq_zero.mpr fun member => ?_
    have still := TypeMap.isComponent_marking type.names use (TypeName.isComponent_of_mem found)
    cases still.2 '<' member
  have unmarked : type.text.toList.count 'x' = weigh (·.toList.count 'x') (components type.text) :=
    (TypeName.weigh_count_components rfl (by decide) _).symm
  simp only [markedChain, String.toList_append, TypeMap.toList_closing, List.count_append,
    count_intercalate, weigh_map, List.length_map, List.count_replicate, Function.comp_def]
  refine ⟨?_, ?_⟩
  · rw [uncut]
    simp
  · rw [TypeMap.weigh_count_marking, unmarked]
    simp

/-- If the chain is the marked type, then the components are the names. -/
theorem components_of_markedChain (simple : type.AllSimple) (use : TypeUse)
    (cut : components type.text ≠ []) (kept : type.markedChain use = type.marked.text) :
    (∀ component ∈ components type.text, component ∈ type.names) ∧
      (components type.text).length = type.names.length := by
  obtain ⟨angles, marks⟩ := type.count_markedChain use
  rw [kept, count_marked_special rfl simple] at angles
  rw [kept, count_marked] at marks
  have filled := type.filled_markedChain use
  rw [kept] at filled
  have more : type.text.toList.count '<' < type.names.length := by
    have bound := count_lt_length filled fun name named => by
      rw [marked, names_rename] at named
      obtain ⟨original, listed, rfl⟩ := List.mem_map.mp named
      exact (simple original listed).mark.count_eq_zero rfl
    rwa [count_marked_special rfl simple, marked, names_rename, List.length_map] at bound
  have present := List.length_pos_iff.mpr cut
  have bounded := List.countP_le_length (p := (decide <| · ∈ type.names))
    (l := components type.text)
  have all : (components type.text).countP (· ∈ type.names) = (components type.text).length := by
    omega
  refine ⟨fun component listed => ?_, by omega⟩
  simpa using List.countP_eq_length.mp all component listed

/-- A type without components has its fallback in place of names, and the fallback opens nothing. -/
theorem components_ne_nil_of_mapGeneric (simple : type.AllSimple) (use : TypeUse)
    (opened : '<' ∈ type.text.toList)
    (kept : (TypeMap.marking type.names).mapGeneric use type.text = type.marked.text) :
    components type.text ≠ [] := by
  intro none
  have fallback : '<' ∉ ((TypeMap.marking type.names).fallbacks.get use).toList := by
    cases use with
    | returned => exact (by decide : '<' ∉ "void".toList)
    | body => exact (by decide : '<' ∉ "var".toList)
  have unopened : '<' ∉ type.marked.text.toList := by
    rw [← kept, TypeMap.mapGeneric_eq use (fun _ _ => TypeMap.supported_marking _), if_pos none,
      String.toList_append, TypeMap.toList_closing, List.mem_append, not_or]
    exact ⟨fallback, fun closing => by cases List.eq_of_mem_replicate closing⟩
  rw [← List.count_eq_zero, count_marked_special rfl simple, List.count_eq_zero] at unopened
  exact unopened opened

/-- A type that keeps its structure under the map that marks its names keeps it under all. -/
theorem isChain_of_map_marking (simple : type.AllSimple) (use : TypeUse)
    (kept : (TypeMap.marking type.names).map use type.text = type.marked.text) :
    type.isChain = true := by
  by_cases opened : '<' ∈ type.text.toList
  case neg => simp [isChain, isFlat_of_unopened opened]
  case pos =>
    rw [TypeMap.map_eq_mapGeneric opened] at kept
    have cut := components_ne_nil_of_mapGeneric simple use opened kept
    rw [TypeMap.mapGeneric_eq use (fun _ _ => TypeMap.supported_marking _), if_neg cut] at kept
    obtain ⟨named, length⟩ := components_of_markedChain simple use cut kept
    -- the components are simple names, so the type has no commas and no dimensions
    have without : ∀ c, isNameChar c = false → isAngle c = false → Text.isBlank c = false →
        c ∉ type.marked.text.toList := by
      intro c special uncut visible
      rw [← List.count_eq_zero, count_marked_special special simple,
        ← TypeName.weigh_count_components uncut visible]
      exact weigh_eq_zero fun component found =>
        (simple component (named component found)).count_eq_zero special
    have filled := type.filled_markedChain use
    rw [show type.markedChain use = type.marked.text from kept] at filled
    have unary : type.isUnary = true := by
      rw [← isUnary_rename TypeName.mark]
      exact isUnary_of_filled filled (without ',' (by decide) rfl (by decide))
        (without '[' (by decide) rfl (by decide))
    rw [components_of_isUnary unary simple, List.length_filter_eq_length_iff] at length
    have present : "" ∉ type.names := fun listed => by simpa using length "" listed
    simp [isChain, unary, present]

end TypeTree

/-- A type of simple names keeps its structure under every map that has counterparts for its names
if and only if it is a chain. The mapped chain nests its brackets as its names do. -/
theorem map_keeps_structure_iff (type : TypeTree) (simple : type.AllSimple) :
    (type.isChain = true ↔ ∀ (types : TypeMap) (use : TypeUse) (node renamed : Node),
      (∀ name ∈ type.names, types.isUnsupported name = false) → type.DenotedBy node →
      (type.rename (types.mapName use)).DenotedBy renamed →
        types.map use node.typeText = renamed.typeText) ∧
    (type.isChain = true → ∀ (types : TypeMap) (use : TypeUse) (node : Node),
      (∀ name ∈ type.names, types.isUnsupported name = false) → type.DenotedBy node →
      (∀ name ∈ type.names, Brackets.angles.Nested (types.mapName use name).toList) →
        Brackets.angles.Nested (types.map use node.typeText).toList) := by
  refine ⟨⟨fun chain types use node renamed supported denoted image => ?_, fun kept => ?_⟩,
    fun chain types use node supported denoted nested => ?_⟩
  · rw [TypeTree.typeText_eq denoted, TypeTree.typeText_eq image]
    exact types.map_of_isChain use chain simple supported
  · have marked := kept (TypeMap.marking type.names) .body type.toNode type.marked.toNode
      (fun _ _ => TypeMap.supported_marking _) type.denotedBy_toNode
      (by rw [type.rename_marking]; exact type.marked.denotedBy_toNode)
    rw [TypeTree.typeText_eq type.denotedBy_toNode,
      TypeTree.typeText_eq type.marked.denotedBy_toNode] at marked
    exact TypeTree.isChain_of_map_marking simple .body marked
  · rw [TypeTree.typeText_eq denoted, types.map_of_isChain use chain simple supported]
    apply TypeTree.nested_text
    rw [TypeTree.names_rename]
    exact List.forall_mem_map.mpr nested

example : TypeMap.java.map .body "Dictionary<List<int>, string>" =
    "Dictionary<ArrayList<Integer<, string>>" := by decide

/-- `List<List<string>>` -/
def TypeTree.stringLists : TypeTree := .generic "List" [.generic "List" [.simple "string"]]

/-- `Dictionary<string, int>` -/
def TypeTree.dictionary : TypeTree := .generic "Dictionary" [.simple "string", .simple "int"]

theorem map_keeps_structure_stringLists :
    TypeMap.java.map .body TypeTree.stringLists.toNode.typeText = "ArrayList<ArrayList<String>>" ∧
    ¬ ∀ (types : TypeMap) (use : TypeUse) (node renamed : Node),
      (∀ name ∈ TypeTree.dictionary.names, types.isUnsupported name = false) →
      TypeTree.dictionary.DenotedBy node →
      (TypeTree.dictionary.rename (types.mapName use)).DenotedBy renamed →
        types.map use node.typeText = renamed.typeText := by
  constructor
  · have kept := (map_keeps_structure_iff TypeTree.stringLists (by decide)).1.mp (by decide)
      TypeMap.java .body _ _ (by decide) (TypeTree.denotedBy_toNode _) (TypeTree.denotedBy_toNode _)
    rw [kept, TypeTree.typeText_eq (TypeTree.denotedBy_toNode _)]
    decide
  · rw [← (map_keeps_structure_iff TypeTree.dictionary (by decide)).1]
    decide

end SharpToJava
