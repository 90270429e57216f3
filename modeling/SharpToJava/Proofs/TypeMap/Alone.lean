import SharpToJava.Proofs.ImportList
import SharpToJava.Proofs.TypeMap.Chain

/-!
Which names of a type are imported. Only a component is looked up, so a name is imported if it is a
component by itself: nothing but angle brackets and the ends of the text stand next to it. A second
argument has a comma before it, an argument that is not the last one has a comma behind it, and the
element of an array has its dimensions behind it; such names are not imported.
-/

namespace SharpToJava

open SharpToJava.TypeName (isAngle isNameChar IsSimple components pieces)

namespace TypeTree

mutual
/-- The names with neither commas nor dimensions next to them; `before` and `behind` say whether
there are such next to the type. -/
def standalone (before behind : Bool) : TypeTree → List String
  | .simple name => if before || behind then [] else [name]
  | .generic name arguments => (if before then [] else [name]) ++ standaloneAmong false arguments
  | .array element _ => element.standalone before true

def standaloneAmong (before : Bool) : List TypeTree → List String
  | [] => []
  | [type] => type.standalone before false
  | type :: next :: rest => type.standalone before true ++ standaloneAmong true (next :: rest)
end

/-- The names that stand alone in a type. -/
def alone (type : TypeTree) : List String := type.standalone false false

theorem alone_of_isUnary {type : TypeTree} (unary : type.isUnary = true) :
    type.alone = type.names := by
  fun_induction isUnary type with
  | case1 name => rfl
  | case2 name argument ih =>
      have inside := ih unary
      rw [alone] at inside
      rw [alone, standalone, standaloneAmong, inside, names, namesAmong, namesAmong, List.append_nil]
      rfl
  | case3 => cases unary
  | case4 => cases unary

mutual
theorem standalone_subset (before behind : Bool) : ∀ type : TypeTree,
    type.standalone before behind ⊆ type.names
  | .simple name => by
    rw [standalone, names]
    split
    · exact List.nil_subset _
    · exact List.Subset.refl _
  | .generic name arguments => by
    rw [standalone, names]
    have inside := standaloneAmong_subset false arguments
    split
    · exact List.subset_cons_of_subset _ inside
    · exact List.cons_subset_cons _ inside
  | .array element further => by
    rw [standalone, names]
    exact standalone_subset before true element

theorem standaloneAmong_subset (before : Bool) : ∀ types : List TypeTree,
    standaloneAmong before types ⊆ namesAmong types
  | [] => by
    rw [standaloneAmong]
    exact List.nil_subset _
  | [type] => by
    rw [standaloneAmong, namesAmong, namesAmong, List.append_nil]
    exact standalone_subset before false type
  | type :: next :: rest => by
    rw [standaloneAmong, namesAmong]
    exact List.append_subset.mpr
      ⟨List.subset_append_of_subset_left _ (standalone_subset before true type),
        List.subset_append_of_subset_right _ (standaloneAmong_subset true (next :: rest))⟩
end

/-- What can stand between a name and the next angle bracket: nothing, or a text that makes the
name part of another component. -/
structure IsGlue (text : List Char) : Prop where
  uncut : ∀ c ∈ text, isAngle c = false
  sticks : text = [] ∨ ∃ c ∈ text, isNameChar c = false ∧ Text.isBlank c = false

theorem isGlue_nil : IsGlue [] := ⟨by simp, .inl rfl⟩

/-- A text that goes on after a component. -/
def EndsPiece (text : List Char) : Prop := ∀ c ∈ text.head?, isAngle c = true

variable {sought : List Char}

/-- With glue around it, no name is the name that is sought. -/
theorem eq_trimChars_iff (plain : ∀ c ∈ sought, isNameChar c = true) {before behind : List Char}
    (first : IsGlue before) (last : IsGlue behind) {name : String} (simple : IsSimple name) :
    sought = Text.trimChars (before ++ (name.toList ++ behind)) ↔
      before = [] ∧ behind = [] ∧ sought = name.toList := by
  constructor
  · intro same
    have unglued : ∀ c ∈ before ++ (name.toList ++ behind), isNameChar c = false →
        Text.isBlank c = false → False := by
      intro c member special visible
      have inside := plain c (same ▸ (Text.mem_trimChars visible).mpr member)
      rw [special] at inside
      cases inside
    rcases first.sticks with rfl | ⟨c, member, special, visible⟩
    · rcases last.sticks with rfl | ⟨c, member, special, visible⟩
      · refine ⟨rfl, rfl, ?_⟩
        rwa [List.nil_append, List.append_nil, simple.trimmed] at same
      · exact (unglued c (by simp [member]) special visible).elim
    · exact (unglued c (by simp [member]) special visible).elim
  · rintro ⟨rfl, rfl, same⟩
    rw [List.nil_append, List.append_nil, simple.trimmed, same]

theorem mem_pieces_cut (present : sought ≠ []) {c : Char} (cut : isAngle c = true)
    (rest : List Char) : sought ∈ pieces (c :: rest) ↔ sought ∈ pieces rest := by
  have none : pieces (c :: rest) = [] :: pieces rest := TypeName.pieces_append_cut [] cut rest
  rw [none, List.mem_cons, or_iff_right present]

theorem mem_pieces_append (present : sought ≠ []) {first rest : List Char}
    (free : ∀ c ∈ first, isAngle c = false) (ends : EndsPiece rest) :
    sought ∈ pieces (first ++ rest) ↔ sought = Text.trimChars first ∨ sought ∈ pieces rest := by
  cases rest with
  | nil =>
      rw [List.append_nil, TypeName.pieces_of_free free, List.mem_singleton]
      have none : pieces [] = [[]] := rfl
      simp [none, present]
  | cons c rest =>
      have cut : isAngle c = true := ends c rfl
      rw [TypeName.pieces_append_cut first cut, TypeName.pieces_of_free free, List.mem_append,
        List.mem_singleton, mem_pieces_cut present cut]

/-- Glue by itself is no name. -/
theorem IsGlue.ne_trimChars {text : List Char} (glue : IsGlue text)
    (plain : ∀ c ∈ sought, isNameChar c = true) (present : sought ≠ []) :
    sought ≠ Text.trimChars text := by
  have empty : IsSimple "" := by decide
  have alone := eq_trimChars_iff plain glue isGlue_nil empty
  rw [String.toList_empty, List.append_nil, List.append_nil] at alone
  exact fun same => present (alone.mp same).2.2

theorem IsGlue.of_mem {text : List Char} {c : Char} (uncut : ∀ c ∈ text, isAngle c = false)
    (member : c ∈ text) (special : isNameChar c = false) (visible : Text.isBlank c = false) :
    IsGlue text :=
  ⟨uncut, .inr ⟨c, member, special, visible⟩⟩

/-- Every text starts with a piece. -/
theorem endsPiece_dropWhile (text : List Char) : EndsPiece (text.dropWhile (!isAngle ·)) := by
  intro c first
  have stopped := List.head?_dropWhile_not (!isAngle ·) text
  rw [Option.mem_def] at first
  simpa [first] using stopped

theorem isGlue_dimensions {behind : List Char} (last : IsGlue behind) (further : Nat) :
    IsGlue (dimensions further ++ behind) := by
  have opening : '[' ∈ dimensions further ++ behind :=
    List.mem_append_left _ (mem_dimensions.mpr (.inl rfl))
  refine .of_mem (fun c member => ?_) opening (by decide) (by decide)
  rcases List.mem_append.mp member with dimension | inBehind
  · rcases mem_dimensions.mp dimension with rfl | rfl <;> rfl
  · exact last.uncut c inBehind

/-- A comma glues a type to whatever comes before the next angle bracket. -/
theorem isGlue_comma (following : List Char) :
    IsGlue ((',' :: following).takeWhile (!isAngle ·)) := by
  have comma : ',' ∈ (',' :: following).takeWhile (!isAngle ·) := by
    rw [List.takeWhile_cons_of_pos rfl]
    exact List.mem_cons_self
  exact .of_mem (fun c member => by simpa using List.mem_takeWhile_imp member) comma (by decide)
    (by decide)

/-- With glue around it, a name is no component of its own. -/
theorem mem_pieces_name (plain : ∀ c ∈ sought, isNameChar c = true) (present : sought ≠ [])
    {before behind rest : List Char} (first : IsGlue before) (last : IsGlue behind)
    (ends : EndsPiece rest) {name : String} (simple : IsSimple name) :
    sought ∈ pieces (before ++ (name.toList ++ behind) ++ rest) ↔
      (before = [] ∧ behind = [] ∧ sought = name.toList) ∨ sought ∈ pieces rest := by
  have free : ∀ c ∈ before ++ (name.toList ++ behind), isAngle c = false := by
    simp only [List.mem_append]
    rintro c (inBefore | inName | inBehind)
    · exact first.uncut c inBefore
    · exact simple.uncut c inName
    · exact last.uncut c inBehind
  rw [mem_pieces_append present free ends, eq_trimChars_iff plain first last simple]

/-- Glue is no component either. -/
theorem mem_pieces_glue (plain : ∀ c ∈ sought, isNameChar c = true) (present : sought ≠ [])
    {glue rest : List Char} (sticks : IsGlue glue) (ends : EndsPiece rest) :
    sought ∈ pieces (glue ++ rest) ↔ sought ∈ pieces rest := by
  rw [mem_pieces_append present sticks.uncut ends, or_iff_right (sticks.ne_trimChars plain present)]

theorem endsPiece_cons {c : Char} (cut : isAngle c = true) (rest : List Char) :
    EndsPiece (c :: rest) := by
  intro next head
  cases head
  exact cut

mutual
/-- The simple components of a text that a type is part of: those of the type, and those after it. -/
theorem mem_pieces_text (plain : ∀ c ∈ sought, isNameChar c = true) (present : sought ≠ []) :
    ∀ {type : TypeTree}, type.AllSimple → ∀ {before behind rest : List Char}, IsGlue before →
      IsGlue behind → EndsPiece rest →
      (sought ∈ pieces (before ++ (type.text.toList ++ (behind ++ rest))) ↔
        String.ofList sought ∈ type.standalone (!before.isEmpty) (!behind.isEmpty) ∨
          sought ∈ pieces rest)
  | .simple name, named, before, behind, rest, first, last, ends => by
    have spelled : before ++ ((TypeTree.simple name).text.toList ++ (behind ++ rest)) =
        before ++ (name.toList ++ behind) ++ rest := by
      simp [toList_text_simple]
    rw [spelled, mem_pieces_name plain present first last ends (named name (by simp [names])),
      standalone]
    cases before with
    | cons c others => simp
    | nil =>
        cases behind with
        | cons c others => simp
        | nil => simp [← String.toList_inj]
  | .generic name arguments, named, before, behind, rest, first, last, ends => by
    have spelled : before ++ ((generic name arguments).text.toList ++ (behind ++ rest)) =
        (before ++ (name.toList ++ [])) ++
          '<' :: ([] ++ ((textAmong arguments).toList ++ ('>' :: (behind ++ rest)))) := by
      simp [toList_text_generic]
    have closing : EndsPiece ('>' :: (behind ++ rest)) := endsPiece_cons rfl _
    have inside := mem_pieces_textAmong plain present
      (fun other (member : other ∈ namesAmong arguments) => named other (by simp [names, member]))
      isGlue_nil closing
    rw [spelled, mem_pieces_name plain present first isGlue_nil (endsPiece_cons rfl _)
      (named name (by simp [names])), mem_pieces_cut present rfl, inside,
      mem_pieces_cut present rfl, mem_pieces_glue plain present last ends, standalone,
      List.mem_append, or_assoc]
    cases before with
    | cons c others => simp
    | nil => simp [← String.toList_inj]
  | .array element further, named, before, behind, rest, first, last, ends => by
    have spelled : before ++ ((array element further).text.toList ++ (behind ++ rest)) =
        before ++ (element.text.toList ++ ((dimensions further ++ behind) ++ rest)) := by
      simp [toList_text_array]
    have filled : (dimensions further ++ behind).isEmpty = false :=
      List.isEmpty_eq_false_iff_exists_mem.mpr
        ⟨'[', List.mem_append_left _ (mem_dimensions.mpr (.inl rfl))⟩
    rw [spelled, mem_pieces_text plain present
      (fun other member => named other (by simpa [names] using member)) first
      (isGlue_dimensions last further) ends, filled, standalone]
    rfl

theorem mem_pieces_textAmong (plain : ∀ c ∈ sought, isNameChar c = true) (present : sought ≠ []) :
    ∀ {types : List TypeTree}, (∀ name ∈ namesAmong types, IsSimple name) →
      ∀ {before rest : List Char}, IsGlue before → EndsPiece rest →
      (sought ∈ pieces (before ++ ((textAmong types).toList ++ rest)) ↔
        String.ofList sought ∈ standaloneAmong (!before.isEmpty) types ∨ sought ∈ pieces rest)
  | [], named, before, rest, first, ends => by
    rw [toList_textAmong_nil, List.nil_append, mem_pieces_glue plain present first ends,
      standaloneAmong]
    simp
  | [type], named, before, rest, first, ends => by
    have only := mem_pieces_text plain present
      (fun other (member : other ∈ type.names) => named other (by simp [namesAmong, member]))
      first isGlue_nil ends
    rw [toList_textAmong_singleton, standaloneAmong]
    exact only
  | type :: next :: more, named, before, rest, first, ends => by
    let following := ',' :: ' ' :: ((textAmong (next :: more)).toList ++ rest)
    have spelled : before ++ ((textAmong (type :: next :: more)).toList ++ rest) =
        before ++ (type.text.toList ++ following) := by
      simp [toList_textAmong_cons, following]
    -- what follows is glue up to the next angle bracket
    have glue : IsGlue (following.takeWhile (!isAngle ·)) := isGlue_comma _
    have split : following.takeWhile (!isAngle ·) ++ following.dropWhile (!isAngle ·) = following :=
      List.takeWhile_append_dropWhile
    have filled : (following.takeWhile (!isAngle ·)).isEmpty = false := by
      rw [List.takeWhile_cons_of_pos rfl]
      rfl
    have separator : IsGlue [',', ' '] :=
      .of_mem (by simp [isAngle]) List.mem_cons_self (by decide) (by decide)
    rw [namesAmong] at named
    have one := mem_pieces_text plain present
      (fun other member => named other (List.mem_append_left _ member)) first glue
      (endsPiece_dropWhile following)
    have others := mem_pieces_textAmong plain present
      (fun other member => named other (List.mem_append_right _ member)) separator ends
    rw [← mem_pieces_glue plain present glue (endsPiece_dropWhile following), split, filled] at one
    rw [spelled, one, standaloneAmong, List.mem_append, or_assoc]
    exact or_congr_right others
end

/-- The simple components of a type are the names that stand alone in it. -/
theorem mem_components_iff {type : TypeTree} (named : type.AllSimple) {name : String}
    (single : IsSimple name) (filled : name ≠ "") :
    name ∈ components type.text ↔ name ∈ type.alone := by
  have ends : EndsPiece [] := by
    intro c head
    cases head
  have found := mem_pieces_text single (mt String.toList_eq_nil_iff.mp filled) named isGlue_nil
    isGlue_nil ends
  have none : name.toList ∉ pieces [] := by
    intro listed
    exact filled (String.toList_eq_nil_iff.mp (List.mem_singleton.mp listed))
  simp only [List.nil_append, List.append_nil, String.ofList_toList, or_iff_left none] at found
  rw [TypeName.mem_components, found]
  exact and_iff_right filled

theorem standalone_of_isFlat {type : TypeTree} (flat : type.isFlat = true) (before : Bool) :
    type.standalone before true = [] := by
  fun_induction isFlat type with
  | case1 name => simp [standalone]
  | case2 => cases flat
  | case3 element further ih =>
      rw [standalone]
      exact ih flat

theorem exists_mem_text : ∀ {type : TypeTree}, "" ∉ type.names →
    ∃ name ∈ type.names, ∃ c ∈ name.toList, c ∈ type.text.toList
  | .simple name, filled => by
    rw [names, List.mem_singleton] at filled
    obtain ⟨c, member⟩ :=
      List.exists_mem_of_ne_nil _ (mt String.toList_eq_nil_iff.mp (Ne.symm filled))
    exact ⟨name, by simp [names], c, member, by rwa [toList_text_simple]⟩
  | .generic name arguments, filled => by
    rw [names, List.mem_cons, not_or] at filled
    obtain ⟨c, member⟩ :=
      List.exists_mem_of_ne_nil _ (mt String.toList_eq_nil_iff.mp (Ne.symm filled.1))
    exact ⟨name, by simp [names], c, member, by simp [toList_text_generic, member]⟩
  | .array element further, filled => by
    rw [names] at filled
    obtain ⟨name, listed, c, member, inText⟩ := exists_mem_text filled
    exact ⟨name, by simpa [names] using listed, c, member, by simp [toList_text_array, inText]⟩

/-- A type with names in it has components. -/
theorem components_ne_nil {type : TypeTree} (named : type.AllSimple) (filled : "" ∉ type.names) :
    components type.text ≠ [] := by
  intro none
  obtain ⟨name, listed, c, member, inText⟩ := exists_mem_text filled
  have single := named name listed
  have counted := TypeName.weigh_count_components (single.uncut c member) (single.unblank c member)
    type.text
  rw [none] at counted
  have positive := List.count_pos_iff.mpr inText
  rw [weigh_nil] at counted
  omega

end TypeTree

namespace TypeMap

open TypeTree

/-- All names that the map knows are simple, and so are their images. -/
def isSimple (types : TypeMap) : Bool :=
  types.entries.all fun entry => entry.1.toList.all isNameChar && entry.2.all isNameChar

variable {types : TypeMap}

theorem isSimple_of_lookup (simple : types.isSimple = true) {name : String} {entry : TypeEntry}
    (found : types.entry? name = some entry) :
    IsSimple name ∧ ∀ image, entry = .mapped image → IsSimple image := by
  have both := List.all_eq_true.mp simple _ (mem_entries found)
  rw [Bool.and_eq_true] at both
  refine ⟨List.all_eq_true.mp both.1, ?_⟩
  rintro image rfl
  exact List.all_eq_true.mp both.2

theorem isSimple_mapName (simple : types.isSimple = true) (use : TypeUse) {name : String}
    (single : IsSimple name) (supported : types.isUnsupported name = false) :
    IsSimple (types.mapName use name) := by
  rcases image?_eq_some_iff.mp (image?_eq_some use supported) with found | ⟨-, same⟩
  · exact (isSimple_of_lookup simple found).2 _ rfl
  · rwa [same]

theorem image?_of_not_isSimple (simple : types.isSimple = true) {name : String}
    (special : ¬ IsSimple name) : types.image? name = some name := by
  cases found : types.entry? name with
  | none => rw [image?_eq_elim, found, Option.elim_none]
  | some entry => exact absurd (isSimple_of_lookup simple found).1 special

theorem map_simple (use : TypeUse) {name : String} (single : IsSimple name) :
    types.map use name = types.mapName use name := by
  have mapped := types.map_append_dimensions use (single.not_mem rfl) (single.not_mem rfl) 0
  simpa using mapped

/-- An element with its dimensions is one component, which is no simple name. -/
theorem not_isSimple_of_dimensions {element part : String} (single : IsSimple element)
    (further : Nat)
    (listed : part ∈ components (element ++ String.join (List.replicate (further + 1) "[]"))) :
    ¬ IsSimple part := by
  have free : ∀ c ∈ (element ++ String.join (List.replicate (further + 1) "[]")).toList,
      isAngle c = false := by
    intro c member
    rw [String.toList_append, List.mem_append] at member
    rcases member with inElement | inDimensions
    · exact single.uncut c inElement
    · obtain rfl | rfl : c = '[' ∨ c = ']' := by simpa using inDimensions
      · rfl
      · rfl
  have only := (TypeName.mem_components.mp listed).2
  rw [TypeName.pieces_of_free free, List.mem_singleton] at only
  have bracket : '[' ∈ part.toList := by
    rw [only, Text.mem_trimChars (by decide)]
    simp
  exact fun plain => plain.not_mem rfl bracket

variable {type : TypeTree}

/-- What stands alone in a type has its image looked up. -/
theorem mem_components_map (use : TypeUse) (named : type.AllSimple) {name part : String}
    (filled : name ≠ "") (supported : types.isUnsupported name = false) (listed : name ∈ type.alone)
    (inImage : part ∈ components (types.mapName use name)) :
    part ∈ components (types.map use type.text) := by
  have single : IsSimple name := named name (type.standalone_subset _ _ listed)
  by_cases opened : '<' ∈ type.text.toList
  case pos =>
    have image : types.mapName use name ∈ (components type.text).filterMap types.image? :=
      List.mem_filterMap.mpr
        ⟨name, (mem_components_iff named single filled).mpr listed, image?_eq_some use supported⟩
    rw [map_eq_mapGeneric opened, components_mapGeneric, if_neg (List.ne_nil_of_mem image)]
    exact List.mem_flatMap.mpr ⟨_, image, inImage⟩
  case neg =>
    have flat := isFlat_of_unopened opened
    cases type with
    | simple other =>
        rw [List.mem_singleton.mp listed] at single inImage
        rwa [text, map_simple use single]
    | generic other arguments => cases flat
    | array element further =>
        rw [isFlat] at flat
        rw [alone, standalone, standalone_of_isFlat flat] at listed
        cases listed

/-- By a map of simple names, the parts of a type's text have images, and the names among them stand
alone. -/
theorem exists_alone_of_opened (use : TypeUse) (simple : types.isSimple = true) (named : type.AllSimple)
    (filled : "" ∉ type.names) (supported : ∀ name ∈ type.names, types.isUnsupported name = false)
    (opened : '<' ∈ type.text.toList) {part : String} (plain : IsSimple part)
    (listed : part ∈ components (types.map use type.text)) :
    ∃ name ∈ type.alone, part ∈ components (types.mapName use name) := by
  have lone : ∀ component ∈ components type.text, IsSimple component →
      component ∈ type.alone := fun component found single =>
    (mem_components_iff named single (TypeName.isComponent_of_mem found).filled).mp found
  have image : ∀ component ∈ components type.text, types.image? component ≠ none := by
    intro component found
    by_cases single : IsSimple component
    · have listed := type.standalone_subset _ _ (lone component found single)
      simp [image?_eq_some use (supported component listed)]
    · simp [image?_of_not_isSimple simple single]
  have some : (components type.text).filterMap types.image? ≠ [] := by
    intro none
    obtain ⟨component, found⟩ := List.exists_mem_of_ne_nil _ (components_ne_nil named filled)
    exact image component found (List.filterMap_eq_nil_iff.mp none component found)
  rw [map_eq_mapGeneric opened, components_mapGeneric, if_neg some, List.mem_flatMap] at listed
  obtain ⟨text, inImages, inText⟩ := listed
  obtain ⟨component, found, mapped⟩ := List.mem_filterMap.mp inImages
  by_cases single : IsSimple component
  · refine ⟨component, lone component found single, ?_⟩
    rwa [mapName_eq, mapped]
  · -- a component that is no name stays as it is
    rw [image?_of_not_isSimple simple single] at mapped
    cases mapped
    rw [(TypeName.isComponent_of_mem found).components_eq, List.mem_singleton] at inText
    exact absurd (inText ▸ plain) single

/-- If the map has simple names only, no other simple name is looked up. -/
theorem exists_alone (use : TypeUse) (simple : types.isSimple = true) (named : type.AllSimple)
    (filled : "" ∉ type.names) (supported : ∀ name ∈ type.names, types.isUnsupported name = false)
    {part : String} (plain : IsSimple part) (listed : part ∈ components (types.map use type.text)) :
    ∃ name ∈ type.alone, part ∈ components (types.mapName use name) := by
  by_cases opened : '<' ∈ type.text.toList
  case pos => exact exists_alone_of_opened use simple named filled supported opened plain listed
  case neg =>
    have flat := isFlat_of_unopened opened
    cases type with
    | simple name =>
        refine ⟨name, by simp [alone, standalone], ?_⟩
        rwa [text, map_simple use (named name (by simp [names]))] at listed
    | generic name arguments => cases flat
    | array element further =>
        rw [isFlat] at flat
        obtain ⟨name, levels, only, spelled, -⟩ := text_of_isFlat flat
        have inside : name ∈ (array element further).names := by simp [names, only]
        have single := named name inside
        have image := isSimple_mapName simple use single (supported name inside)
        rw [text, spelled, String.append_assoc, ← String.join_append,
          List.replicate_append_replicate,
          map_append_dimensions use (single.not_mem rfl) (single.not_mem rfl)] at listed
        exact absurd plain (not_isSimple_of_dimensions image (levels + further) listed)

end TypeMap

theorem Imports.mem_list_touch {imports : Imports} {type path : String} :
    path ∈ (imports.touch type).list ↔
      path ∈ imports.list ∨ ∃ part ∈ components type, imports.path? part = some path := by
  have touched : ∀ name, name ∈ (imports.touch type).touched ↔
      name ∈ imports.touched ∨ name ∈ components type := fun name => mem_foldl_addNew
  rw [mem_list_iff, mem_list_iff]
  change path ∈ imports.defaults ∨
    (∃ name ∈ (imports.touch type).touched, imports.path? name = some path) ↔ _
  simp only [touched, or_and_right, exists_or, or_assoc]

/-- Mapping a type imports what its lone names are mapped to. From a table of simple names, by a map
of simple names, it imports nothing else. All names of a chain stand alone. -/
theorem imports_of_alone_names (type : TypeTree) (named : type.AllSimple) (filled : "" ∉ type.names)
    (profile : Profile) (use : TypeUse) (node : Node) (denoted : type.DenotedBy node)
    (supported : ∀ name ∈ type.names, profile.types.isUnsupported name = false)
    (before : Journal) :
    ∃ after, (RunM.mapType profile use node.typeText).run before =
        .ok (profile.types.map use node.typeText) after ∧
      (∀ name ∈ type.alone, ∀ part ∈ components (profile.types.mapName use name), ∀ path,
        before.imports.path? part = some path → path ∈ after.imports.list) ∧
      (profile.types.isSimple = true → (∀ entry ∈ before.imports.paths, IsSimple entry.1) →
        ∀ path, path ∈ after.imports.list ↔ path ∈ before.imports.list ∨
          ∃ name ∈ type.alone, ∃ part ∈ components (profile.types.mapName use name),
            before.imports.path? part = some path) ∧
      (type.isUnary = true → type.alone = type.names) := by
  have lookedUp : ∀ name ∈ type.alone, ∀ part ∈ components (profile.types.mapName use name),
      part ∈ components (profile.types.map use type.text) := by
    intro name listed part inImage
    have inside := type.standalone_subset _ _ listed
    exact profile.types.mem_components_map use named (fun empty => filled (empty ▸ inside))
      (supported name inside) listed inImage
  rw [TypeTree.typeText_eq denoted]
  refine ⟨{ before with imports := before.imports.touch (profile.types.map use type.text) }, rfl,
    fun name listed part inImage path found => ?_, fun simple table path => ?_,
    TypeTree.alone_of_isUnary⟩
  · exact Imports.mem_list_touch.mpr (.inr ⟨part, lookedUp name listed part inImage, found⟩)
  · rw [Imports.mem_list_touch]
    refine or_congr_right ⟨?_, ?_⟩
    · rintro ⟨part, listed, found⟩
      obtain ⟨others, more, split, -⟩ := List.lookup_eq_some_iff.mp found
      have plain : IsSimple part := table (part, path) (by simp [split])
      obtain ⟨name, lone, inImage⟩ :=
        profile.types.exists_alone use simple named filled supported plain listed
      exact ⟨name, lone, part, inImage, found⟩
    · rintro ⟨name, listed, part, inImage, found⟩
      exact ⟨part, lookedUp name listed part inImage, found⟩

/-- `Dictionary<IStart, List<PrintWriter>>` -/
def TypeTree.writersByStart : TypeTree :=
  .generic "Dictionary" [.simple "IStart", .generic "List" [.simple "PrintWriter"]]

example : TypeTree.writersByStart.alone = ["Dictionary", "PrintWriter"] := rfl

theorem imports_of_writersByStart :
    ∃ after, (RunM.mapType (Profile.java true) .body TypeTree.writersByStart.toNode.typeText).run
        Journal.java =
          .ok (TypeMap.java.map .body TypeTree.writersByStart.toNode.typeText) after ∧
      "java.io.PrintWriter" ∈ after.imports.list ∧ "java.util.ArrayList" ∉ after.imports.list ∧
      "Jarvis.API" ∉ after.imports.list := by
  obtain ⟨after, ran, imported, others, -⟩ := imports_of_alone_names TypeTree.writersByStart
    (by decide) (by decide) (Profile.java true) .body _ (TypeTree.denotedBy_toNode _) (by decide)
    Journal.java
  have only := others (by decide) (by decide)
  refine ⟨after, ran, imported "PrintWriter" (by decide) "PrintWriter" (by decide) _ rfl, ?_, ?_⟩
  · rw [only]
    decide
  · rw [only]
    decide

end SharpToJava
