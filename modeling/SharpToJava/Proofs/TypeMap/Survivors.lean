import SharpToJava.Proofs.TypeMap.Structure

/-!
What is left of a generic type. A component without a counterpart is dropped, and with it one of the
closing brackets; the bracket that would open it is dropped only if something follows. So a chain of
names comes out as the chain of the images that are left, unless its last name is dropped: then one
bracket stays open. However the brackets come out, the components of the mapped type are the images
that are left.
-/

namespace SharpToJava

open SharpToJava.TypeName (IsComponent components)

namespace TypeName

theorem isComponent_iff {name : String} :
    IsComponent name ↔ name ≠ "" ∧ Text.trimChars name.toList = name.toList ∧
      (name.toList.all fun c => !isAngle c) = true := by
  rw [List.all_eq_true]
  simp only [Bool.not_eq_true']
  exact ⟨fun single => ⟨single.filled, single.trimmed, single.uncut⟩,
    fun ⟨filled, trimmed, uncut⟩ => ⟨filled, trimmed, uncut⟩⟩

instance : DecidablePred IsComponent := fun _ => decidable_of_iff _ isComponent_iff.symm

/-- The type in which each name is the only argument of the name before it. -/
def chain (names : List String) : String :=
  "<".intercalate names ++ String.join (List.replicate (names.length - 1) ">")

theorem components_intercalate (names : List String) :
    components ("<".intercalate names) = names.flatMap components := by
  induction names with
  | nil => rfl
  | cons name rest ih =>
      cases rest with
      | nil => simp
      | cons next others =>
          have spelled : ("<".intercalate (name :: next :: others)).toList =
              name.toList ++ '<' :: ("<".intercalate (next :: others)).toList := by
            rw [String.intercalate_cons_cons, String.toList_append, String.toList_append,
              List.append_assoc]
            rfl
          rw [components_append_cut rfl spelled, ih]
          rfl

variable {names : List String}

theorem flatMap_components (single : ∀ name ∈ names, IsComponent name) :
    names.flatMap components = names := by
  have each : ∀ name ∈ names, components name = [name] :=
    fun name member => (single name member).components_eq
  rw [List.flatMap_congr each, List.flatMap_singleton']

theorem components_chain (single : ∀ name ∈ names, IsComponent name) :
    components (chain names) = names := by
  rw [chain, TypeMap.components_closing, components_intercalate, flatMap_components single]

theorem count_chain (single : ∀ name ∈ names, IsComponent name) :
    (chain names).toList.count '<' = names.length - 1 := by
  have uncut : weigh (·.toList.count '<') names = 0 := by
    refine weigh_eq_zero fun name member => List.count_eq_zero.mpr fun opened => ?_
    cases (single name member).uncut '<' opened
  rw [chain, String.toList_append, List.count_append, count_intercalate, uncut,
    TypeMap.toList_closing, List.count_replicate]
  simp

end TypeName

namespace TypeMap

/-- What stands for each name that is not without a counterpart, in order: the text the map has for
it, or the name itself if the map does not know it. -/
def survivors (types : TypeMap) (names : List String) : List String :=
  (names.filter fun name => !types.isUnsupported name).map fun name =>
    ((types.entry? name).bind TypeEntry.text?).getD name

variable {types : TypeMap} {names : List String}

theorem image?_eq_ite (types : TypeMap) (name : String) :
    types.image? name = if types.isUnsupported name then none
      else some (((types.entry? name).bind TypeEntry.text?).getD name) := by
  split
  case isTrue barred => exact image?_eq_none_iff.mpr barred
  case isFalse supported =>
    rw [isUnsupported_iff] at supported
    rw [image?_eq_elim]
    cases found : types.entry? name with
    | none => rfl
    | some entry =>
        cases entry with
        | mapped image => rfl
        | noCounterpart => exact absurd found supported

theorem survivors_eq_filterMap (types : TypeMap) (names : List String) :
    types.survivors names = names.filterMap types.image? := by
  induction names with
  | nil => rfl
  | cons name rest ih =>
      rw [survivors] at ih ⊢
      cases dropped : types.isUnsupported name <;> simp [image?_eq_ite, dropped, ih]

theorem dropped_add_survivors (types : TypeMap) (names : List String) :
    (names.filter fun name => (types.image? name).isNone).length + (types.survivors names).length =
      names.length := by
  induction names with
  | nil => rfl
  | cons name rest ih =>
      rw [survivors_eq_filterMap] at ih ⊢
      cases image : types.image? name with
      | none =>
          rw [List.filter_cons_of_pos (by simp [image]), List.filterMap_cons_none image,
            List.length_cons, List.length_cons]
          omega
      | some mapped =>
          rw [List.filter_cons_of_neg (by simp [image]), List.filterMap_cons_some image,
            List.length_cons, List.length_cons]
          omega

theorem openChain_cons {name : String} {rest : List String} (more : rest ≠ []) :
    types.openChain (name :: rest) =
      ((types.image? name).map (· ++ "<")).toList ++ types.openChain rest := by
  cases rest with
  | nil => exact absurd rfl more
  | cons next others => rfl

/-- Every image but that of the last name has a bracket behind it. -/
theorem openChain_concat (types : TypeMap) (names : List String) (last : String) :
    types.openChain (names ++ [last]) =
      (types.survivors names).map (· ++ "<") ++ (types.image? last).toList := by
  induction names with
  | nil => rfl
  | cons name rest ih =>
      rw [List.cons_append, openChain_cons (by simp), ih, survivors_eq_filterMap,
        survivors_eq_filterMap]
      cases image : types.image? name with
      | none => rw [List.filterMap_cons_none image]; rfl
      | some mapped => rw [List.filterMap_cons_some image]; rfl

theorem join_opened {images : List String} (some : images ≠ []) :
    String.join (images.map (· ++ "<")) = "<".intercalate images ++ "<" := by
  induction images with
  | nil => exact absurd rfl some
  | cons image rest ih =>
      by_cases last : rest = []
      · simp [last]
      · rw [List.map_cons, String.join_cons, ih last, String.intercalate_cons_of_ne_nil last]
        simp only [String.append_assoc]

theorem survivors_concat_of_dropped {last : String} (dropped : types.image? last = none) :
    types.survivors (names ++ [last]) = types.survivors names := by
  simp [survivors_eq_filterMap, dropped]

theorem survivors_concat_of_kept {last image : String} (kept : types.image? last = some image) :
    types.survivors (names ++ [last]) = types.survivors names ++ [image] := by
  simp [survivors_eq_filterMap, kept]

/-- With the last name in it, the chain of images is complete. -/
theorem join_openChain_of_kept {last image : String} (kept : types.image? last = some image) :
    String.join (types.openChain (names ++ [last])) =
      "<".intercalate (types.survivors (names ++ [last])) := by
  rw [openChain_concat, survivors_concat_of_kept kept, kept, String.join_append]
  by_cases none : types.survivors names = []
  · simp [none]
  · rw [join_opened none, String.intercalate_append_of_ne_nil none (by simp)]
    simp

/-- Without the last name, its bracket is still there. -/
theorem join_openChain_of_dropped {last : String} (dropped : types.image? last = none)
    (some : types.survivors (names ++ [last]) ≠ []) :
    String.join (types.openChain (names ++ [last])) =
      "<".intercalate (types.survivors (names ++ [last])) ++ "<" := by
  rw [survivors_concat_of_dropped dropped] at some ⊢
  rw [openChain_concat, dropped, Option.toList_none, List.append_nil, join_opened some]

/-- A chain is closed once less than images are left. -/
theorem map_chain (types : TypeMap) (use : TypeUse) {last : String} (several : names ≠ [])
    (single : ∀ name ∈ names ++ [last], IsComponent name) :
    types.map use (TypeName.chain (names ++ [last])) =
      (if types.survivors (names ++ [last]) = [] then types.fallbacks.get use
        else String.join (types.openChain (names ++ [last]))) ++
      String.join (List.replicate ((types.survivors (names ++ [last])).length - 1) ">") := by
  have angles := TypeName.count_chain single
  have length : (names ++ [last]).length = names.length + 1 := by simp
  have opened : '<' ∈ (TypeName.chain (names ++ [last])).toList := by
    have present := List.length_pos_iff.mpr several
    rw [← List.count_pos_iff]
    omega
  have closed : names.length + 1 - 1 -
      ((names ++ [last]).filter fun name => (types.image? name).isNone).length =
        (types.survivors (names ++ [last])).length - 1 := by
    have shared := types.dropped_add_survivors (names ++ [last])
    omega
  rw [map_eq_mapGeneric opened, mapGeneric]
  simp only [TypeName.components_chain single, angles, length, closed, List.isEmpty_iff,
    openChain_eq_nil_iff, ← survivors_eq_filterMap]

variable (types) (use : TypeUse) {last : String} (several : names ≠ [])
  (single : ∀ name ∈ names ++ [last], IsComponent name)
include several single

theorem map_chain_of_none (none : types.survivors (names ++ [last]) = []) :
    types.map use (TypeName.chain (names ++ [last])) = types.fallbacks.get use := by
  rw [types.map_chain use several single, if_pos none, none]
  simp

theorem map_chain_of_supported (supported : types.isUnsupported last = false) :
    types.map use (TypeName.chain (names ++ [last])) =
      TypeName.chain (types.survivors (names ++ [last])) := by
  have kept := image?_eq_some use supported
  have some : types.survivors (names ++ [last]) ≠ [] := by
    rw [survivors_concat_of_kept kept]
    exact List.append_ne_nil_of_right_ne_nil _ (List.cons_ne_nil _ _)
  rw [types.map_chain use several single, if_neg some, join_openChain_of_kept kept]
  rfl

theorem map_chain_of_unsupported (unsupported : types.isUnsupported last = true)
    (some : types.survivors (names ++ [last]) ≠ []) :
    types.map use (TypeName.chain (names ++ [last])) =
      "<".intercalate (types.survivors (names ++ [last])) ++ "<" ++
        String.join (List.replicate ((types.survivors (names ++ [last])).length - 1) ">") := by
  have dropped := image?_eq_none_iff.mpr unsupported
  rw [types.map_chain use several single, if_neg some, join_openChain_of_dropped dropped some]

end TypeMap

namespace Brackets

variable {texts : List String} (nested : ∀ text ∈ texts, angles.Nested text.toList)
include nested

/-- Between each two texts a bracket is opened. -/
theorem after?_intercalate (level : Nat) :
    angles.after? ("<".intercalate texts).toList level = some (level + (texts.length - 1)) := by
  induction texts generalizing level with
  | nil => rfl
  | cons text rest ih =>
      have first := (nested text List.mem_cons_self).after?
      by_cases last : rest = []
      · simp [last, first]
      · have later := ih (fun other member => nested other (List.mem_cons_of_mem _ member))
        have present := List.length_pos_iff.mpr last
        have opened : angles.after? "<".toList level = some (level + 1) := rfl
        have level_eq : level + 1 + (rest.length - 1) = level + (rest.length + 1 - 1) := by omega
        rw [String.intercalate_cons_of_ne_nil last, String.toList_append, String.toList_append,
          after?_append, after?_append, first, Option.bind_some, opened, Option.bind_some, later,
          level_eq, List.length_cons]

omit nested in
theorem after?_closing (level count : Nat) :
    angles.after? (String.join (List.replicate count ">")).toList (level + count) =
      some level := by
  rw [TypeMap.toList_closing]
  induction count with
  | zero => rfl
  | succ count ih => exact ih

theorem nested_chain : angles.Nested (TypeName.chain texts).toList := by
  rw [nested_iff, TypeName.chain, String.toList_append, after?_append, after?_intercalate nested]
  exact after?_closing 0 _

theorem after?_openedChain : angles.after? ("<".intercalate texts ++ "<" ++
    String.join (List.replicate (texts.length - 1) ">")).toList 0 = some 1 := by
  have opened : angles.after? "<".toList (0 + (texts.length - 1)) =
      some (1 + (texts.length - 1)) := by
    rw [Nat.add_comm 1, Nat.zero_add]
    rfl
  rw [String.toList_append, String.toList_append, after?_append, after?_append,
    after?_intercalate nested, Option.bind_some, opened, Option.bind_some]
  exact after?_closing 1 _

end Brackets

/-- A chain of names is mapped to the chain of the images that are left, or to the fallback if none
is. If the last name is dropped one bracket stays open, otherwise the brackets are as nested as
those of the images. -/
theorem map_chain_of_survivors (types : TypeMap) (use : TypeUse) (names : List String)
    (last : String) (several : names ≠ [])
    (single : ∀ name ∈ names ++ [last], IsComponent name) :
    let images := types.survivors (names ++ [last])
    let mapped := types.map use (TypeName.chain (names ++ [last]))
    (images = [] → mapped = types.fallbacks.get use) ∧
    (types.isUnsupported last = false → mapped = TypeName.chain images) ∧
    (images ≠ [] → types.isUnsupported last = true →
      mapped = "<".intercalate images ++ "<" ++
        String.join (List.replicate (images.length - 1) ">")) ∧
    ((∀ image ∈ images, Brackets.angles.Nested image.toList) →
      (types.isUnsupported last = false → Brackets.angles.Nested mapped.toList) ∧
      (images ≠ [] → types.isUnsupported last = true →
        Brackets.angles.after? mapped.toList 0 = some 1)) := by
  intro images mapped
  have closed := types.map_chain_of_supported use several single
  have opened := types.map_chain_of_unsupported use several single
  refine ⟨types.map_chain_of_none use several single, closed,
    fun some unsupported => opened unsupported some, fun nested => ⟨fun supported => ?_,
    fun some unsupported => ?_⟩⟩
  · change Brackets.angles.Nested (types.map use _).toList
    rw [closed supported]
    exact Brackets.nested_chain nested
  · change Brackets.angles.after? (types.map use _).toList 0 = _
    rw [opened unsupported some]
    exact Brackets.after?_openedChain nested

theorem map_chain_of_survivors_tasks :
    TypeMap.java.map .body "List<Task<IEnumerable<string>>>" = "ArrayList<Iterable<String>>" ∧
    TypeMap.java.map .body "IEnumerable<List<Task>>" = "Iterable<ArrayList<>" ∧
    Brackets.angles.after? (TypeMap.java.map .body "IEnumerable<List<Task>>").toList 0 = some 1 ∧
    TypeMap.java.map .returned "Task<Task>" = "void" := by
  have inside := map_chain_of_survivors TypeMap.java .body ["List", "Task", "IEnumerable"] "string"
    (by decide) (by decide)
  have last := map_chain_of_survivors TypeMap.java .body ["IEnumerable", "List"] "Task"
    (by decide) (by decide)
  have all := map_chain_of_survivors TypeMap.java .returned ["Task"] "Task" (by decide) (by decide)
  exact ⟨inside.2.1 rfl, last.2.2.1 (by decide) rfl, (last.2.2.2 (by decide)).2 (by decide) rfl,
    all.1 rfl⟩

namespace TypeMap

/-- Whatever the map puts in place of a name is a component by itself. -/
structure BringsComponents (types : TypeMap) : Prop where
  images : ∀ name image, types.entry? name = some (.mapped image) → IsComponent image
  fallbacks : ∀ use, IsComponent (types.fallbacks.get use)

theorem BringsComponents.isComponent_image? {types : TypeMap} (brings : types.BringsComponents)
    {name image : String} (single : IsComponent name) (mapped : types.image? name = some image) :
    IsComponent image := by
  rcases image?_eq_some_iff.mp mapped with found | ⟨-, rfl⟩
  · exact brings.images name _ found
  · exact single

theorem BringsComponents.isComponent_survivors {types : TypeMap} (brings : types.BringsComponents)
    (name : String) : ∀ image ∈ types.survivors (components name), IsComponent image := by
  intro image kept
  rw [survivors_eq_filterMap] at kept
  obtain ⟨component, listed, mapped⟩ := List.mem_filterMap.mp kept
  exact brings.isComponent_image? (TypeName.isComponent_of_mem listed) mapped

theorem BringsComponents.of_entries {types : TypeMap}
    (entries : ∀ entry ∈ types.entries, ∀ image ∈ entry.2.text?, IsComponent image)
    (fallbacks : ∀ use, IsComponent (types.fallbacks.get use)) : types.BringsComponents where
  images name image found := entries (name, .mapped image) (mem_entries found) image rfl
  fallbacks := fallbacks

theorem java_bringsComponents : java.BringsComponents :=
  .of_entries (by decide) fun use => by cases use <;> decide

end TypeMap

/-- The components of a mapped generic type are the images of those components that have one, or the
fallback alone, and these are what is recorded for the imports. -/
theorem components_map_eq_survivors (types : TypeMap) (brings : types.BringsComponents)
    (use : TypeUse) (name : String) (opened : '<' ∈ name.toList) :
    let images := types.survivors (components name)
    let parts := if images = [] then [types.fallbacks.get use] else images
    components (types.map use name) = parts ∧
    ∀ imports : Imports, (imports.touch (types.map use name)).touched =
      parts.foldl Imports.addNew imports.touched := by
  intro images parts
  have cut : components (types.map use name) = parts := by
    rw [TypeMap.map_eq_mapGeneric opened, TypeMap.components_mapGeneric,
      ← TypeMap.survivors_eq_filterMap, (brings.fallbacks use).components_eq,
      TypeName.flatMap_components (brings.isComponent_survivors name)]
  refine ⟨cut, fun imports => ?_⟩
  rw [Imports.touch, cut]

theorem components_map_eq_survivors_unbalanced :
    components (TypeMap.java.map .body ">> List <<Task>, Foo<") = ["ArrayList", ", Foo"] ∧
    components (TypeMap.java.map .returned "Task<<>") = ["void"] :=
  ⟨(components_map_eq_survivors TypeMap.java TypeMap.java_bringsComponents .body
      ">> List <<Task>, Foo<" (by decide)).1.trans (by decide),
    (components_map_eq_survivors TypeMap.java TypeMap.java_bringsComponents .returned
      "Task<<>" (by decide)).1.trans (by decide)⟩

end SharpToJava
