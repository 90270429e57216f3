import SharpToJava.Proofs.Text.Nesting
import SharpToJava.Proofs.Tree.TypeTree
import SharpToJava.Proofs.TypeMap.Components

/-!
Types that keep their structure when they are mapped. Mapping sees a type as the chain of its
components, and puts an opening bracket after every image but the last and all closing brackets at
the end. So names with dimensions and chains of generic types with one argument each come out as
they should, with every name replaced by its image.
-/

namespace SharpToJava

open SharpToJava.TypeName (isAngle isNameChar IsSimple components)

namespace TypeName.IsSimple

variable {name : String}

theorem not_mem (simple : IsSimple name) {c : Char} (special : isNameChar c = false) :
    c ∉ name.toList := by
  intro member
  have plain := simple c member
  rw [special] at plain
  cases plain

theorem count_eq_zero (simple : IsSimple name) {c : Char} (special : isNameChar c = false) :
    name.toList.count c = 0 :=
  List.count_eq_zero.mpr (simple.not_mem special)

theorem uncut (simple : IsSimple name) : ∀ c ∈ name.toList, isAngle c = false := by
  intro c member
  have plain := simple c member
  simp only [isNameChar, Bool.and_eq_true, Bool.not_eq_true'] at plain
  exact plain.1.1.1.1

theorem unblank (simple : IsSimple name) : ∀ c ∈ name.toList, Text.isBlank c = false := by
  intro c member
  have plain := simple c member
  simp only [isNameChar, Bool.and_eq_true, Bool.not_eq_true'] at plain
  exact plain.2

theorem trimmed (simple : IsSimple name) : Text.trimChars name.toList = name.toList :=
  Text.trimChars_of_free simple.unblank

theorem isComponent (simple : IsSimple name) (filled : name ≠ "") : IsComponent name :=
  ⟨filled, simple.trimmed, simple.uncut⟩

theorem components_eq (simple : IsSimple name) :
    components name = [name].filter (· ≠ "") := by
  by_cases empty : name = ""
  · rw [empty]
    rfl
  · rw [(simple.isComponent empty).components_eq]
    simp [empty]

end TypeName.IsSimple

namespace TypeTree

def AllSimple (type : TypeTree) : Prop := ∀ name ∈ type.names, IsSimple name

instance (type : TypeTree) : Decidable type.AllSimple :=
  inferInstanceAs (Decidable (∀ name ∈ type.names, IsSimple name))

/-- A name, with dimensions or without. -/
def isFlat : TypeTree → Bool
  | .simple _ => true
  | .generic _ _ => false
  | .array element _ => element.isFlat

/-- Generic types with one argument each, and a name at the end. -/
def isUnary : TypeTree → Bool
  | .simple _ => true
  | .generic _ [argument] => argument.isUnary
  | .generic _ _ => false
  | .array _ _ => false

def isChain (type : TypeTree) : Bool :=
  type.isFlat || type.isUnary && !type.names.contains ""

/-- Arguments other than a single one. -/
theorem eq_nil_or_cons_cons {arguments : List TypeTree}
    (several : ∀ argument, arguments = [argument] → False) :
    arguments = [] ∨ ∃ first second rest, arguments = first :: second :: rest := by
  cases arguments with
  | nil => exact .inl rfl
  | cons first rest =>
      cases rest with
      | nil => exact (several first rfl).elim
      | cons second rest => exact .inr ⟨first, second, rest, rfl⟩

theorem isUnary_rename (f : String → String) (type : TypeTree) :
    (type.rename f).isUnary = type.isUnary := by
  fun_induction isUnary type with
  | case1 name => simp only [rename, isUnary]
  | case2 name argument ih => simp only [rename, renameAmong, isUnary, ih]
  | case3 name arguments several =>
      rcases eq_nil_or_cons_cons several with rfl | ⟨first, second, rest, rfl⟩
      · simp only [rename, renameAmong, isUnary]
      · simp only [rename, renameAmong, isUnary]
  | case4 element further => simp only [rename, isUnary]

theorem names_ne_nil (type : TypeTree) : type.names ≠ [] := by
  fun_induction isFlat type with
  | case1 => simp [names]
  | case2 => simp [names]
  | case3 element further ih => rwa [names]

theorem text_of_isFlat {type : TypeTree} (flat : type.isFlat = true) :
    ∃ name levels, type.names = [name] ∧
      type.text = name ++ String.join (List.replicate levels "[]") ∧
      ∀ f, (type.rename f).text = f name ++ String.join (List.replicate levels "[]") := by
  fun_induction isFlat type with
  | case1 name => exact ⟨name, 0, by rw [names], by simp [text], fun f => by simp [rename, text]⟩
  | case2 => cases flat
  | case3 element further ih =>
      obtain ⟨name, levels, only, spelled, renamed⟩ := ih flat
      refine ⟨name, levels + (further + 1), by rw [names, only], ?_, fun f => ?_⟩
      · rw [text, spelled, String.append_assoc, ← String.join_append, List.replicate_append_replicate]
      · rw [rename, text, renamed, String.append_assoc, ← String.join_append,
          List.replicate_append_replicate]

theorem isFlat_of_unopened {type : TypeTree} (unopened : '<' ∉ type.text.toList) :
    type.isFlat = true := by
  fun_induction isFlat type with
  | case1 => rfl
  | case2 name arguments =>
      refine absurd ?_ unopened
      rw [toList_text_generic]
      simp
  | case3 element further ih =>
      rw [toList_text_array, List.mem_append, not_or] at unopened
      exact ih unopened.1

theorem text_of_isUnary {type : TypeTree} (unary : type.isUnary = true) :
    type.text = "<".intercalate type.names ++
      String.join (List.replicate (type.names.length - 1) ">") := by
  fun_induction isUnary type with
  | case1 name => simp [text, names]
  | case2 name argument ih =>
      obtain ⟨next, others, listed⟩ := List.exists_cons_of_ne_nil argument.names_ne_nil
      have inside := ih unary
      rw [listed, List.length_cons, Nat.add_sub_cancel] at inside
      rw [text, textAmong, names, namesAmong, namesAmong, List.append_nil, listed, inside,
        String.intercalate_cons_cons, List.length_cons, List.length_cons, Nat.add_sub_cancel,
        List.replicate_succ', String.join_append]
      simp [String.append_assoc]
  | case3 => cases unary
  | case4 => cases unary

theorem components_of_isUnary {type : TypeTree} (unary : type.isUnary = true)
    (simple : type.AllSimple) : components type.text = type.names.filter (· ≠ "") := by
  fun_induction isUnary type with
  | case1 name =>
      rw [text, names]
      exact (simple name (by simp [names])).components_eq
  | case2 name argument ih =>
      have outer : IsSimple name := simple name (by simp [names])
      have inside := ih unary fun other member => simple other (by simp [names, namesAmong, member])
      have opened : (generic name [argument]).text.toList =
          name.toList ++ '<' :: (argument.text ++ ">").toList := by
        rw [toList_text_generic, toList_textAmong_singleton, String.toList_append]
        rfl
      have closed : (argument.text ++ ">").toList = argument.text.toList ++ '>' :: "".toList := by
        rw [String.toList_append]
        rfl
      rw [TypeName.components_append_cut rfl opened, TypeName.components_append_cut rfl closed,
        TypeName.components_empty, List.append_nil, inside, outer.components_eq, names, namesAmong,
        namesAmong, List.append_nil, ← List.filter_append]
      rfl
  | case3 => cases unary
  | case4 => cases unary

theorem count_of_isUnary {type : TypeTree} (unary : type.isUnary = true)
    (simple : type.AllSimple) : type.text.toList.count '<' = type.names.length - 1 := by
  fun_induction isUnary type with
  | case1 name =>
      rw [toList_text_simple, (simple name (by simp [names])).count_eq_zero rfl, names]
      rfl
  | case2 name argument ih =>
      have outer : IsSimple name := simple name (by simp [names])
      have inside := ih unary fun other member => simple other (by simp [names, namesAmong, member])
      have listed := List.length_pos_iff.mpr argument.names_ne_nil
      rw [toList_text_generic, toList_textAmong_singleton, List.count_append, List.count_cons_self,
        List.count_append, outer.count_eq_zero rfl, inside, names, namesAmong, namesAmong,
        List.append_nil, List.length_cons]
      simp only [List.count_singleton, Nat.add_sub_cancel]
      grind
  | case3 => cases unary
  | case4 => cases unary

end TypeTree

namespace TypeMap

open TypeTree

variable (types : TypeMap) (use : TypeUse) {type : TypeTree}

theorem map_of_isFlat (flat : type.isFlat = true) (simple : type.AllSimple) :
    types.map use type.text = (type.rename (types.mapName use)).text := by
  obtain ⟨name, levels, only, spelled, renamed⟩ := text_of_isFlat flat
  have single : IsSimple name := simple name (by simp [only])
  rw [spelled, renamed, map_append_dimensions use (single.not_mem rfl) (single.not_mem rfl)]

theorem map_of_isUnary (unary : type.isUnary = true) (simple : type.AllSimple)
    (filled : "" ∉ type.names) (supported : ∀ name ∈ type.names, types.isUnsupported name = false) :
    types.map use type.text = (type.rename (types.mapName use)).text := by
  cases type with
  | simple name => exact map_of_isFlat types use rfl simple
  | array element further => cases unary
  | generic name arguments =>
      have cut : components (generic name arguments).text = (generic name arguments).names := by
        rw [components_of_isUnary unary simple, List.filter_eq_self]
        intro other member
        simpa using fun (empty : other = "") => filled (empty ▸ member)
      have opened : '<' ∈ (generic name arguments).text.toList := by
        rw [toList_text_generic]
        simp
      rw [map_eq_mapGeneric opened, mapGeneric_eq use (by rwa [cut]), cut, if_neg (names_ne_nil _),
        count_of_isUnary unary simple, text_of_isUnary (by rwa [isUnary_rename]), names_rename,
        List.length_map]

theorem map_of_isChain (chain : type.isChain = true) (simple : type.AllSimple)
    (supported : ∀ name ∈ type.names, types.isUnsupported name = false) :
    types.map use type.text = (type.rename (types.mapName use)).text := by
  simp only [isChain, Bool.or_eq_true, Bool.and_eq_true, Bool.not_eq_true',
    List.contains_eq_mem, decide_eq_false_iff_not] at chain
  rcases chain with flat | ⟨unary, filled⟩
  · exact types.map_of_isFlat use flat simple
  · exact types.map_of_isUnary use unary simple filled supported

end TypeMap

def Brackets.angles : Brackets := ⟨'<', '>', by decide⟩

namespace TypeTree

mutual
theorem nested_text : ∀ {type : TypeTree},
    (∀ name ∈ type.names, Brackets.angles.Nested name.toList) →
      Brackets.angles.Nested type.text.toList
  | .simple name, given => by
    rw [toList_text_simple]
    exact given name (by simp [names])
  | .generic name arguments, given => by
    rw [toList_text_generic]
    have outer := given name (by simp [names])
    have inside := nested_textAmong fun other (member : other ∈ namesAmong arguments) =>
      given other (by simp [names, member])
    exact outer.append inside.wrap
  | .array element further, given => by
    rw [toList_text_array]
    have inside := nested_text fun other member => given other (by simpa [names] using member)
    refine inside.append (.of_free (Brackets.filter_eq_nil_iff.mp ?_))
    rw [List.filter_eq_nil_iff]
    intro c member
    rcases mem_dimensions.mp member with rfl | rfl <;> decide

theorem nested_textAmong : ∀ {types : List TypeTree},
    (∀ name ∈ namesAmong types, Brackets.angles.Nested name.toList) →
      Brackets.angles.Nested (textAmong types).toList
  | [], given => by
    rw [toList_textAmong_nil]
    decide
  | [type], given => by
    rw [toList_textAmong_singleton]
    exact nested_text fun other member => given other (by simp [namesAmong, member])
  | type :: next :: rest, given => by
    rw [toList_textAmong_cons]
    have first := nested_text fun other (member : other ∈ type.names) =>
      given other (by simp [namesAmong, member])
    have later := nested_textAmong fun other (member : other ∈ namesAmong (next :: rest)) =>
      given other (by rw [namesAmong]; exact List.mem_append_right _ member)
    have comma : Brackets.angles.Nested [',', ' '] := by decide
    exact first.append (comma.append later)
end

end TypeTree

end SharpToJava
