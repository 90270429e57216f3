import SharpToJava.TypeMap

/-!
What a type map knows of a name. The two tables of a map are read as one: since they have no name in
common, what one of them says of a name is all that is known of it. Each way to look a name up gives
what this entry says.
-/

namespace SharpToJava

/-- What is known of a name. -/
inductive TypeEntry where
  | mapped (name : String)
  | noCounterpart
  deriving DecidableEq, Repr, Inhabited

/-- What a text in a table says of its name. -/
def TypeEntry.ofText (text : String) : TypeEntry :=
  if text.toList.contains TypeMap.noCounterpartMark then noCounterpart else mapped text

/-- The text that an entry maps to. -/
def TypeEntry.text? : TypeEntry → Option String
  | .mapped image => some image
  | .noCounterpart => none

namespace TypeMap

/-- The entries of both tables. -/
def entries (types : TypeMap) : List (String × TypeEntry) :=
  (types.images.map fun entry => (entry.1, TypeEntry.mapped entry.2)) ++
    types.unsupported.map fun name => (name, TypeEntry.noCounterpart)

/-- What the two tables say of a name. -/
def entry? (types : TypeMap) (name : String) : Option TypeEntry :=
  match types.images.lookup name with
  | some image => some (.mapped image)
  | none => if name ∈ types.unsupported then some .noCounterpart else none

variable {types : TypeMap} {name : String}

theorem lookup_of_mem_unsupported (barred : name ∈ types.unsupported) :
    types.images.lookup name = none := by
  apply Table.lookup_eq_none_iff_not_mem.mpr
  rw [← Table.has_iff, types.apart name barred]
  exact Bool.false_ne_true

theorem entry?_eq_mapped_iff {image : String} :
    types.entry? name = some (.mapped image) ↔ types.images.lookup name = some image := by
  unfold entry?
  cases types.images.lookup name with
  | none => simp
  | some found => simp

/-- A name without a counterpart has no image that could come first. -/
theorem entry?_eq_noCounterpart_iff :
    types.entry? name = some .noCounterpart ↔ name ∈ types.unsupported := by
  constructor
  · intro found
    unfold entry? at found
    split at found
    case h_1 => cases found
    case h_2 =>
      split at found
      case isTrue barred => exact barred
      case isFalse => cases found
  · intro barred
    rw [TypeMap.entry?, lookup_of_mem_unsupported barred]
    exact if_pos barred

theorem entry?_eq_none_iff :
    types.entry? name = none ↔ ¬ (types.images.has name = true ∨ name ∈ types.unsupported) := by
  unfold entry?
  rw [← Table.isSome_lookup]
  cases types.images.lookup name with
  | none => simp
  | some image => simp

theorem mem_entries {entry : TypeEntry} (found : types.entry? name = some entry) :
    (name, entry) ∈ types.entries := by
  cases entry with
  | mapped image =>
      have listed := entry?_eq_mapped_iff.mp found
      obtain ⟨before, after, split, -⟩ := List.lookup_eq_some_iff.mp listed
      apply List.mem_append_left
      rw [split]
      simp
  | noCounterpart =>
      apply List.mem_append_right
      exact List.mem_map_of_mem (entry?_eq_noCounterpart_iff.mp found)

theorem isUnsupported_iff :
    types.isUnsupported name = true ↔ types.entry? name = some .noCounterpart := by
  rw [isUnsupported, List.contains_iff_mem, entry?_eq_noCounterpart_iff]

/-- A component is looked up as its entry says. -/
theorem image?_eq_elim (types : TypeMap) (name : String) :
    types.image? name = (types.entry? name).elim (some name) TypeEntry.text? := by
  unfold image? entry?
  cases types.images.lookup name with
  | some image => rfl
  | none =>
      by_cases barred : name ∈ types.unsupported
      · simp [barred, TypeEntry.text?]
      · simp [barred]

theorem image?_eq_some_iff {image : String} :
    types.image? name = some image ↔
      types.entry? name = some (.mapped image) ∨ types.entry? name = none ∧ image = name := by
  rw [image?_eq_elim]
  cases types.entry? name with
  | none => simp [eq_comm]
  | some entry => cases entry <;> simp [TypeEntry.text?]

theorem image?_eq_none_iff :
    types.image? name = none ↔ types.isUnsupported name = true := by
  rw [isUnsupported_iff, image?_eq_elim]
  cases types.entry? name with
  | none => simp
  | some entry => cases entry <;> simp [TypeEntry.text?]

/-- A name by itself and a component of a generic type are looked up alike. -/
theorem mapName_eq (types : TypeMap) (use : TypeUse) (name : String) :
    types.mapName use name = (types.image? name).getD (types.fallbacks.get use) := by
  unfold mapName image?
  split
  case h_1 => rfl
  case h_2 => cases types.unsupported.contains name <;> rfl

theorem image?_eq_some (use : TypeUse) (supported : types.isUnsupported name = false) :
    types.image? name = some (types.mapName use name) := by
  rw [mapName_eq]
  cases found : types.image? name with
  | none =>
      rw [image?_eq_none_iff.mp found] at supported
      cases supported
  | some image => rfl

/-- Without a square bracket all of the type is its element. -/
theorem map_eq (types : TypeMap) (use : TypeUse) (name : String) :
    types.map use name =
      if name.toList.contains '<' then types.mapGeneric use name
      else types.mapName use (String.ofList (name.toList.takeWhile (· != '['))) ++
        String.ofList (name.toList.dropWhile (· != '[')) := by
  unfold map
  by_cases array : '[' ∈ name.toList
  · simp only [List.contains_iff_mem.mpr array, if_true]
  · have element : ∀ c ∈ name.toList, (c != '[') = true := by
      intro c member
      exact bne_iff_ne.mpr fun bracket => array (bracket ▸ member)
    have all : name.toList.takeWhile (· != '[') = name.toList := by
      have whole := @List.takeWhile_append_of_pos _ _ _ [] element
      rwa [List.append_nil, List.takeWhile_nil, List.append_nil] at whole
    have rest : name.toList.dropWhile (· != '[') = [] := by
      have whole := @List.dropWhile_append_of_pos _ _ _ [] element
      rwa [List.append_nil, List.dropWhile_nil] at whole
    simp only [List.contains_eq_mem, array, decide_false, Bool.false_eq_true, if_false, all, rest,
      String.ofList_toList, String.ofList_nil, String.append_empty]

end TypeMap

end SharpToJava
