import SharpToJava.Java.Vocabulary
import SharpToJava.Proofs.TypeMap.View
import SharpToJava.Text.Lowercase

/-!
Characters that mapping a type keeps. A map that knows no name with a certain character in it, and
maps to none, keeps these characters in their order: a component that it changes has none of them.
All other characters of a mapped type come from the type or from the map. Lower-casing a name keeps
characters that have no case.
-/

namespace SharpToJava

variable {p : Char → Bool}

theorem Text.filter_dropWhile {q : Char → Bool} (skipped : ∀ c, q c = true → p c = false)
    (text : List Char) : (text.dropWhile q).filter p = text.filter p := by
  induction text with
  | nil => rfl
  | cons c rest ih =>
      by_cases drop : q c = true
      · rw [List.dropWhile_cons_of_pos drop, ih, List.filter_cons_of_neg (by simp [skipped c drop])]
      · rw [List.dropWhile_cons_of_neg drop]

theorem Text.filter_trimChars (blanks : ∀ c, isBlank c = true → p c = false) (text : List Char) :
    (trimChars text).filter p = text.filter p := by
  rw [trimChars, List.filter_reverse, filter_dropWhile blanks, List.filter_reverse,
    List.reverse_reverse, filter_dropWhile blanks]

theorem TypeName.filter_splitChars {cut : Char → Bool} (cuts : ∀ c, cut c = true → p c = false)
    (text : List Char) : (splitChars cut text).flatMap (List.filter p) = text.filter p := by
  induction text with
  | nil => rfl
  | cons c rest ih =>
      unfold splitChars
      split
      case isTrue cutHere =>
        rw [List.flatMap_cons, List.filter_nil, List.nil_append, ih,
          List.filter_cons_of_neg (by simp [cuts c cutHere])]
      case isFalse =>
        split
        case h_1 none =>
          rw [none] at ih
          rw [List.filter_cons, ← ih]
          simp [List.filter_cons]
        case h_2 first others some =>
          rw [some, List.flatMap_cons] at ih
          rw [List.flatMap_cons, List.filter_cons, List.filter_cons, ← ih]
          split <;> rfl

theorem TypeName.filter_components (angles : ∀ c, isAngle c = true → p c = false)
    (blanks : ∀ c, Text.isBlank c = true → p c = false) (name : String) :
    (components name).flatMap (fun component => component.toList.filter p) =
      name.toList.filter p := by
  rw [← filter_splitChars angles name.toList, components]
  induction splitChars isAngle name.toList with
  | nil => rfl
  | cons piece rest ih =>
      rw [List.map_cons, List.flatMap_cons, ← ih, ← Text.filter_trimChars blanks piece]
      cases trimmed : Text.trimChars piece with
      | nil => simp
      | cons c others => simp

/-- Whether all characters that an entry maps to are as wanted. -/
def TypeEntry.all (wanted : Char → Bool) : TypeEntry → Bool
  | .noCounterpart => true
  | .mapped image => image.toList.all wanted

namespace TypeMap

/-- None of these characters is anywhere in the map, and none cuts or surrounds a name. -/
structure Spares (types : TypeMap) (p : Char → Bool) : Prop where
  angles : ∀ c, TypeName.isAngle c = true → p c = false
  blanks : ∀ c, Text.isBlank c = true → p c = false
  names : ∀ entry ∈ types.entries, entry.1.toList.filter p = []
  images : ∀ entry ∈ types.entries, ∀ image, entry.2 = .mapped image → image.toList.filter p = []
  fallbacks : ∀ use, (types.fallbacks.get use).toList.filter p = []

variable {types : TypeMap}

namespace Spares

/-- What the entries map to can be looked through like a table. -/
theorem of_entries (angles : ∀ c, TypeName.isAngle c = true → p c = false)
    (blanks : ∀ c, Text.isBlank c = true → p c = false)
    (entries : ∀ entry ∈ types.entries,
      entry.1.toList.filter p = [] ∧ entry.2.all (!p ·) = true)
    (fallbacks : ∀ use, (types.fallbacks.get use).toList.filter p = []) : types.Spares p where
  angles := angles
  blanks := blanks
  names entry listed := (entries entry listed).1
  images entry listed image mapped := by
    have free := (entries entry listed).2
    rw [mapped] at free
    exact List.filter_eq_nil_iff.mpr fun c member => by simpa using List.all_eq_true.mp free c member
  fallbacks := fallbacks

theorem image? (spares : types.Spares p) {name image : String}
    (mapped : types.image? name = some image) : image.toList.filter p = name.toList.filter p := by
  rcases image?_eq_some_iff.mp mapped with found | ⟨-, rfl⟩
  · have entry := mem_entries found
    rw [spares.names _ entry, spares.images _ entry _ rfl]
  · rfl

theorem image?_none (spares : types.Spares p) {name : String}
    (unmapped : types.image? name = none) : name.toList.filter p = [] := by
  have found := isUnsupported_iff.mp (image?_eq_none_iff.mp unmapped)
  exact spares.names _ (mem_entries found)

theorem mapName (spares : types.Spares p) (use : TypeUse) (name : String) :
    (types.mapName use name).toList.filter p = name.toList.filter p := by
  rw [mapName_eq]
  cases image : types.image? name with
  | none => rw [spares.image?_none image]; exact spares.fallbacks use
  | some mapped => exact spares.image? image

theorem openChain (spares : types.Spares p) (names : List String) :
    (types.openChain names).flatMap (fun text => text.toList.filter p) =
      names.flatMap fun name => name.toList.filter p := by
  have opened : p '<' = false := spares.angles '<' rfl
  fun_induction TypeMap.openChain types names with
  | case1 => rfl
  | case2 name =>
      cases image : types.image? name with
      | none => simp [spares.image?_none image]
      | some mapped => simp [spares.image? image]
  | case3 name rest single ih =>
      rw [List.flatMap_append, ih, List.flatMap_cons]
      cases image : types.image? name with
      | none => simp [spares.image?_none image]
      | some mapped => simp [spares.image? image, opened]

theorem mapGeneric (spares : types.Spares p) (use : TypeUse) (name : String) :
    (types.mapGeneric use name).toList.filter p = name.toList.filter p := by
  have chained : (String.join (types.openChain (TypeName.components name))).toList.filter p =
      name.toList.filter p := by
    rw [String.toList_join, List.filter_flatMap, spares.openChain,
      TypeName.filter_components spares.angles spares.blanks]
  have closed : ∀ count : Nat,
      (String.join (List.replicate count ">")).toList.filter p = [] := by
    intro count
    rw [String.toList_join]
    induction count with
    | zero => rfl
    | succ count ih => simp [List.replicate_succ, spares.angles '>' rfl]
  unfold TypeMap.mapGeneric
  simp only [String.toList_append, List.filter_append, closed, List.append_nil]
  split
  case isTrue empty =>
    rw [List.isEmpty_iff] at empty
    rw [empty] at chained
    rw [spares.fallbacks use, ← chained]
    rfl
  case isFalse => exact chained

/-- Mapping a type keeps the spared characters. -/
theorem map (spares : types.Spares p) (use : TypeUse) (name : String) :
    (types.map use name).toList.filter p = name.toList.filter p := by
  rw [map_eq]
  split
  case isTrue => exact spares.mapGeneric use name
  case isFalse =>
    simp only [String.toList_append, List.filter_append, spares.mapName, String.toList_ofList]
    rw [← List.filter_append, List.takeWhile_append_dropWhile]

end Spares

end TypeMap

theorem TypeName.mem_of_mem_splitChars {cut : Char → Bool} {text piece : List Char} {c : Char}
    (listed : piece ∈ splitChars cut text) (member : c ∈ piece) : c ∈ text := by
  induction text generalizing piece with
  | nil =>
      rw [splitChars, List.mem_singleton] at listed
      rwa [listed] at member
  | cons first rest ih =>
      unfold splitChars at listed
      split at listed
      · rcases List.mem_cons.mp listed with rfl | later
        · exact absurd member List.not_mem_nil
        · exact List.mem_cons_of_mem _ (ih later member)
      · split at listed
        case h_1 =>
          rw [List.mem_singleton.mp listed] at member
          exact List.mem_cons.mpr (.inl (List.mem_singleton.mp member))
        case h_2 piece' others spelled =>
          rcases List.mem_cons.mp listed with rfl | later
          · rcases List.mem_cons.mp member with rfl | inside
            · exact List.mem_cons_self
            · exact List.mem_cons_of_mem _ (ih (by rw [spelled]; exact List.mem_cons_self) inside)
          · exact List.mem_cons_of_mem _
              (ih (by rw [spelled]; exact List.mem_cons_of_mem _ later) member)

theorem TypeName.mem_of_mem_components {name component : String} {c : Char}
    (listed : component ∈ components name) (member : c ∈ component.toList) : c ∈ name.toList := by
  obtain ⟨piece, trimmed, kept⟩ := List.mem_filterMap.mp listed
  obtain ⟨original, cut, rfl⟩ := List.mem_map.mp trimmed
  split at kept
  · cases kept
  · cases kept
    rw [String.toList_ofList, Text.trimChars] at member
    have inside : c ∈ original.dropWhile Text.isBlank := by
      have back := (List.dropWhile_suffix _).subset (List.mem_reverse.mp member)
      exact List.mem_reverse.mp back
    exact mem_of_mem_splitChars cut ((List.dropWhile_suffix _).subset inside)

namespace TypeMap

/-- Every character that the map brings in is as wanted. -/
structure Brings (types : TypeMap) (wanted : Char → Prop) : Prop where
  opening : wanted '<'
  closing : wanted '>'
  images : ∀ entry ∈ types.entries, ∀ image, entry.2 = .mapped image → ∀ c ∈ image.toList, wanted c
  fallbacks : ∀ use, ∀ c ∈ (types.fallbacks.get use).toList, wanted c

namespace Brings

variable {types : TypeMap} {wanted : Char → Prop} (brings : types.Brings wanted)
include brings

theorem image? {name image : String} (given : ∀ c ∈ name.toList, wanted c)
    (mapped : types.image? name = some image) : ∀ c ∈ image.toList, wanted c := by
  rcases image?_eq_some_iff.mp mapped with found | ⟨-, rfl⟩
  · exact brings.images _ (mem_entries found) _ rfl
  · exact given

theorem openChain {names : List String} (given : ∀ name ∈ names, ∀ c ∈ name.toList, wanted c) :
    ∀ text ∈ types.openChain names, ∀ c ∈ text.toList, wanted c := by
  fun_induction TypeMap.openChain types names with
  | case1 => simp
  | case2 name =>
      intro text listed
      exact brings.image? (given name List.mem_cons_self) (Option.mem_toList.mp listed)
  | case3 name rest single ih =>
      intro text listed c member
      rcases List.mem_append.mp listed with first | later
      · obtain ⟨image, mapped, rfl⟩ := Option.map_eq_some_iff.mp (Option.mem_toList.mp first)
        rw [String.toList_append, List.mem_append] at member
        rcases member with inImage | bracket
        · exact brings.image? (given name List.mem_cons_self) mapped c inImage
        · rw [List.mem_singleton.mp bracket]
          exact brings.opening
      · exact ih (fun other inRest => given other (List.mem_cons_of_mem _ inRest)) text later c member

/-- The characters of a mapped type come from the type or from the map. -/
theorem map {use : TypeUse} {name : String} (given : ∀ c ∈ name.toList, wanted c) :
    ∀ c ∈ (types.map use name).toList, wanted c := by
  have closed : ∀ count : Nat, ∀ c ∈ (String.join (List.replicate count ">")).toList, wanted c := by
    intro count c member
    rw [String.toList_join] at member
    obtain ⟨text, listed, inText⟩ := List.mem_flatMap.mp member
    rw [List.eq_of_mem_replicate listed] at inText
    rw [List.mem_singleton.mp inText]
    exact brings.closing
  intro c member
  rw [map_eq] at member
  split at member
  case isTrue =>
    unfold TypeMap.mapGeneric at member
    rw [String.toList_append, List.mem_append] at member
    rcases member with inChain | inClosing
    · split at inChain
      · exact brings.fallbacks use c inChain
      · rw [String.toList_join] at inChain
        obtain ⟨text, listed, inText⟩ := List.mem_flatMap.mp inChain
        refine brings.openChain (fun component inName c' inComponent => ?_) text listed c inText
        exact given c' (TypeName.mem_of_mem_components inName inComponent)
    · exact closed _ c inClosing
  case isFalse =>
    rw [String.toList_append, List.mem_append] at member
    rcases member with inElement | inRest
    · rw [mapName_eq] at inElement
      cases image : types.image? (String.ofList (name.toList.takeWhile (· != '['))) with
      | none =>
          rw [image] at inElement
          exact brings.fallbacks use c inElement
      | some mapped =>
          rw [image] at inElement
          refine brings.image? (fun c' inName => given c' ?_) image c inElement
          rw [String.toList_ofList] at inName
          exact (List.takeWhile_prefix _).subset inName
    · rw [String.toList_ofList] at inRest
      exact given c ((List.dropWhile_suffix _).subset inRest)

end Brings

end TypeMap

namespace Text

/-- Neither the range nor its image meets the code points from `first` to `last`. -/
def CodeShift.avoids (first last : Nat) (shift : CodeShift) : Bool :=
  (shift.range.last < first || last < shift.range.first) &&
    (shift.range.last + shift.distance < first || last < shift.range.first + shift.distance)

/-- A character outside the scalar values becomes the zero character. -/
theorem toNat_ofNat_or (code : Nat) :
    (Char.ofNat code).toNat = code ∨ (Char.ofNat code).toNat = 0 := by
  by_cases valid : code.isValidChar
  · refine .inl ?_
    rw [Char.ofNat, dif_pos valid]
    rfl
  · exact .inr (by simp [Char.ofNat, valid, Char.toNat])

/-- Shifts that avoid a range of code points neither move its characters nor reach them. -/
theorem CodeShift.apply_eq_or {first last : Nat} (positive : 0 < first) {table : List CodeShift}
    (avoided : table.all (CodeShift.avoids first last) = true) (c : Char) :
    CodeShift.apply table c = c ∨ ((c.toNat < first ∨ last < c.toNat) ∧
      ((CodeShift.apply table c).toNat < first ∨ last < (CodeShift.apply table c).toNat)) := by
  unfold CodeShift.apply
  split
  case h_2 => exact .inl rfl
  case h_1 shift found =>
    have listed := List.all_eq_true.mp avoided shift (List.mem_of_find?_eq_some found)
    have inside := List.find?_some found
    simp only [CodeRange.contains, Bool.and_eq_true, decide_eq_true_eq] at inside
    simp only [CodeShift.avoids, Bool.and_eq_true, Bool.or_eq_true, decide_eq_true_eq] at listed
    refine .inr ⟨by omega, ?_⟩
    rcases toNat_ofNat_or (c.toNat + shift.distance).toNat with reached | zero
    · omega
    · omega

/-- Lower case leaves alone the characters of a range that has no letters, and makes none. -/
theorem filter_lowerFirst (first last : Nat) (positive : 0 < first) (small : last < 0x130)
    (dotless : last < 'i'.toNat ∨ 'i'.toNat < first)
    (avoided : lowercaseShifts.all (CodeShift.avoids first last) = true)
    (only : ∀ c, p c = true → first ≤ c.toNat ∧ c.toNat ≤ last) (text : String) :
    (lowerFirst text).toList.filter p = text.toList.filter p := by
  have other : ∀ c : Char, c.toNat < first ∨ last < c.toNat → p c = false := by
    intro c outside
    cases holds : p c with
    | false => rfl
    | true =>
        have inside := only c holds
        omega
  have lowered : ∀ c, (lowerChar c).filter p = [c].filter p := by
    intro c
    unfold lowerChar
    split
    case isTrue dotted =>
      have mark : ('\u0307').toNat = 0x307 := rfl
      rw [List.filter_cons_of_neg (by simp [other 'i' (by omega)]),
        List.filter_cons_of_neg (by simp [other '\u0307' (by omega)]),
        List.filter_cons_of_neg (by simp [other c (by omega)])]
    case isFalse =>
      rcases CodeShift.apply_eq_or positive avoided c with same | ⟨before, after⟩
      · rw [same]
      · rw [List.filter_cons_of_neg (by simp [other _ after]),
          List.filter_cons_of_neg (by simp [other c before])]
  unfold lowerFirst
  split
  case h_1 empty => rw [empty]; rfl
  case h_2 c rest spelled =>
    rw [spelled, String.toList_ofList, List.filter_append, lowered, ← List.filter_append]
    rfl

end Text

end SharpToJava
