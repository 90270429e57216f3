import Mathlib.Data.List.Nodup
import Mathlib.Logic.Function.Basic
import SharpToJava.Proofs.TypeMap.Characters
import SharpToJava.Session

/-!
A type map is one dictionary from names to what is known of them, although it is kept in two tables.
Its answers in a session are those of the dictionary, whatever was added, refused and removed
before: no call lets a name into one table that is in the other, nor leaves it in one of them when
it is to be forgotten.
-/

namespace SharpToJava

/-- What is known of each name, and what stands for a name without a counterpart. -/
structure Dictionary where
  entry? : String → Option TypeEntry
  fallbacks : Fallbacks

/-- What the two tables of the map know together. -/
def TypeMap.dictionary (types : TypeMap) : Dictionary where
  entry? := types.entry?
  fallbacks := types.fallbacks

namespace Dictionary

open TypeMap (Call Answer)

def ofTable (fallbacks : Fallbacks) (table : List (String × String)) : Dictionary where
  entry? name := (table.lookup name).map TypeEntry.ofText
  fallbacks

/-- Changes what is known of one name. -/
def set (dictionary : Dictionary) (name : String) (entry : Option TypeEntry) : Dictionary :=
  { dictionary with entry? := Function.update dictionary.entry? name entry }

/-- What stands for a name: an unknown one stays as it is. -/
def image (dictionary : Dictionary) (use : TypeUse) (name : String) : String :=
  match dictionary.entry? name with
  | some (.mapped text) => text
  | some .noCounterpart => dictionary.fallbacks.get use
  | none => name

/-- The type cut in front of its first square bracket, if it has one. -/
structure IsCut (type element rest : String) : Prop where
  whole : type = element ++ rest
  element : '[' ∉ element.toList
  rest : rest = "" ∨ ∃ others, rest = "[" ++ others

/-- What a dictionary answers to a call, and what it is afterwards. -/
inductive Step (dictionary : Dictionary) : Call → Answer → Dictionary → Prop
  | add {name mapped : String} (absent : dictionary.entry? name = none) :
    Step dictionary (.add name mapped) .done (dictionary.set name (some (.ofText mapped)))
  | refuse {name mapped : String} (present : dictionary.entry? name ≠ none) :
    Step dictionary (.add name mapped) (.refused ⟨name⟩) dictionary
  | remove {name : String} :
    Step dictionary (.remove name) (.truth (dictionary.entry? name).isSome)
      (dictionary.set name none)
  | isUnsupported {name : String} :
    Step dictionary (.isUnsupported name)
      (.truth (decide (dictionary.entry? name = some .noCounterpart))) dictionary
  | mapPlain {use : TypeUse} {type element rest : String} (plain : '<' ∉ type.toList)
    (cut : IsCut type element rest) :
    Step dictionary (.map use type) (.text (dictionary.image use element ++ rest)) dictionary
  /-- A generic type is answered alike by all maps with the dictionary. -/
  | mapGeneric {use : TypeUse} {type text : String} (generic : '<' ∈ type.toList)
    (alike : ∀ types : TypeMap, types.dictionary = dictionary → types.map use type = text) :
    Step dictionary (.map use type) (.text text) dictionary

/-- What a dictionary answers to calls made one after the other. -/
inductive Runs : Dictionary → List Call → List Answer → Dictionary → Prop
  | nil {dictionary : Dictionary} : Runs dictionary [] [] dictionary
  | cons {dictionary next last : Dictionary} {call : Call} {answer : Answer} {calls : List Call}
    {answers : List Answer} (step : Step dictionary call answer next)
    (rest : Runs next calls answers last) :
    Runs dictionary (call :: calls) (answer :: answers) last

end Dictionary

namespace TypeMap

variable {types next : TypeMap} {name mapped : String}

/-- The name came into one of the tables, as the text says. -/
inductive Adds (types : TypeMap) (name mapped : String) (next : TypeMap) : Prop
  | image (unmarked : noCounterpartMark ∉ mapped.toList)
    (images : next.images = types.images.put name mapped)
    (unsupported : next.unsupported = types.unsupported)
    (fallbacks : next.fallbacks = types.fallbacks)
  | noCounterpart (marked : noCounterpartMark ∈ mapped.toList)
    (images : next.images = types.images)
    (unsupported : next.unsupported = types.unsupported.insert name)
    (fallbacks : next.fallbacks = types.fallbacks)

theorem add_eq_error (present : types.entry? name ≠ none) (mapped : String) :
    types.add name mapped = .error ⟨name⟩ := by
  rw [ne_eq, entry?_eq_none_iff, not_not] at present
  rw [add, dif_pos present]

theorem add_of_absent (absent : types.entry? name = none) (mapped : String) :
    ∃ next, types.add name mapped = .ok next ∧ types.Adds name mapped next := by
  rw [add, dif_neg (entry?_eq_none_iff.mp absent)]
  by_cases marked : noCounterpartMark ∈ mapped.toList
  · rw [if_pos (List.contains_iff_mem.mpr marked)]
    exact ⟨_, rfl, .noCounterpart marked rfl rfl rfl⟩
  · rw [if_neg (mt List.contains_iff_mem.mp marked)]
    exact ⟨_, rfl, .image marked rfl rfl rfl⟩

theorem of_add_eq_ok (added : types.add name mapped = .ok next) :
    types.entry? name = none ∧ types.Adds name mapped next := by
  by_cases absent : types.entry? name = none
  · obtain ⟨more, ok, adds⟩ := add_of_absent absent mapped
    rw [added] at ok
    cases ok
    exact ⟨absent, adds⟩
  · rw [add_eq_error absent] at added
    cases added

/-- Only what is known of the name has changed. -/
theorem Adds.entry?_eq (adds : types.Adds name mapped next) (absent : types.entry? name = none)
    (other : String) :
    next.entry? other =
      if other = name then some (TypeEntry.ofText mapped) else types.entry? other := by
  cases adds with
  | image unmarked images unsupported =>
      rw [TypeMap.entry?, TypeMap.entry?, images, unsupported, Table.put, Table.lookup_alter,
        TypeEntry.ofText, if_neg (mt List.contains_iff_mem.mp unmarked)]
      by_cases same : other = name
      · rw [if_pos same, if_pos same]
      · rw [if_neg same, if_neg same]
  | noCounterpart marked images unsupported =>
      rw [TypeMap.entry?, TypeMap.entry?, images, unsupported, TypeEntry.ofText,
        if_pos (List.contains_iff_mem.mpr marked)]
      by_cases same : other = name
      · subst same
        have unmapped := (not_or.mp (entry?_eq_none_iff.mp absent)).1
        rw [Table.has_iff, ← Table.lookup_eq_none_iff_not_mem] at unmapped
        simp [unmapped]
      · simp [same]

theorem Adds.fallbacks_eq (adds : types.Adds name mapped next) :
    next.fallbacks = types.fallbacks := by
  cases adds <;> assumption

theorem Adds.dictionary_eq (adds : types.Adds name mapped next)
    (absent : types.entry? name = none) :
    next.dictionary = types.dictionary.set name (some (.ofText mapped)) := by
  rw [TypeMap.dictionary, Dictionary.set, adds.fallbacks_eq]
  congr 1
  funext other
  rw [adds.entry?_eq absent, Function.update_apply]
  rfl

theorem entry?_remove (types : TypeMap) (name other : String) :
    TypeMap.entry? (types.remove name).2 other =
      if other = name then none else types.entry? other := by
  have images : (types.remove name).2.images = types.images.remove name := rfl
  have unsupported : (types.remove name).2.unsupported = types.unsupported.filter (· != name) := rfl
  rw [TypeMap.entry?, TypeMap.entry?, images, unsupported, Table.lookup_remove]
  by_cases same : other = name
  · simp [same]
  · simp [same]

theorem dictionary_remove (types : TypeMap) (name : String) :
    (types.remove name).2.dictionary = types.dictionary.set name none := by
  have fallbacks : (types.remove name).2.fallbacks = types.fallbacks := rfl
  rw [TypeMap.dictionary, Dictionary.set, fallbacks]
  congr 1
  funext other
  rw [entry?_remove, Function.update_apply]
  rfl

/-- A name is removed if one of the tables has it. -/
theorem remove_fst (types : TypeMap) (name : String) :
    (types.remove name).1 = (types.entry? name).isSome := by
  rw [Bool.eq_iff_iff, Option.isSome_iff_ne_none, ne_eq, entry?_eq_none_iff, not_not, or_comm]
  change (types.unsupported.contains name || types.images.has name) = true ↔ _
  rw [Bool.or_eq_true, List.contains_iff_mem]

/-- Taking a new name out again leaves what was there before, in both tables. -/
theorem Adds.remove_eq (adds : types.Adds name mapped next) (absent : types.entry? name = none) :
    next.remove name = (true, types) := by
  obtain ⟨unmapped, supported⟩ := not_or.mp (entry?_eq_none_iff.mp absent)
  rw [Table.has_iff] at unmapped
  have known : (next.remove name).1 = true := by
    rw [remove_fst, adds.entry?_eq absent, if_pos rfl, Option.isSome_some]
  have kept : types.images.remove name = types.images := by
    apply List.filter_eq_self.mpr
    intro entry listed
    exact bne_iff_ne.mpr fun same => unmapped (same ▸ List.mem_map_of_mem listed)
  have others : types.unsupported.filter (· != name) = types.unsupported := by
    apply List.filter_eq_self.mpr
    intro other listed
    exact bne_iff_ne.mpr fun same => supported (same ▸ listed)
  have images : (next.remove name).2.images = types.images := by
    change next.images.remove name = types.images
    cases adds with
    | image _ images => rw [images, Table.remove_put_of_not_mem unmapped]
    | noCounterpart _ images => rw [images, kept]
  have unsupported : (next.remove name).2.unsupported = types.unsupported := by
    change next.unsupported.filter (· != name) = types.unsupported
    cases adds with
    | image _ _ unsupported => rw [unsupported, others]
    | noCounterpart _ _ unsupported =>
        rw [unsupported, List.insert_of_not_mem supported, List.filter_cons_of_neg (by simp),
          others]
  exact Prod.ext known (TypeMap.ext images unsupported adds.fallbacks_eq)

variable {other : TypeMap}

theorem image?_of_dictionary (same : other.dictionary = types.dictionary) :
    other.image? = types.image? := by
  have entries : other.entry? = types.entry? := congrArg Dictionary.entry? same
  funext name
  rw [image?_eq_elim, image?_eq_elim, entries]

theorem openChain_of_dictionary (same : other.dictionary = types.dictionary) (names : List String) :
    other.openChain names = types.openChain names := by
  fun_induction openChain types names with
  | case1 => rfl
  | case2 name => rw [openChain, image?_of_dictionary same]
  | case3 name rest several ih => rw [openChain, image?_of_dictionary same, ih]; exact several

/-- A map says what its dictionary says. -/
theorem map_of_dictionary (same : other.dictionary = types.dictionary) (use : TypeUse)
    (type : String) : other.map use type = types.map use type := by
  have fallbacks : other.fallbacks = types.fallbacks := congrArg Dictionary.fallbacks same
  simp only [map_eq, mapGeneric, mapName_eq, image?_of_dictionary same,
    openChain_of_dictionary same, fallbacks]

theorem mapName_eq_image (types : TypeMap) (use : TypeUse) (name : String) :
    types.mapName use name = types.dictionary.image use name := by
  have known : types.dictionary.entry? name = types.entry? name := rfl
  rw [mapName_eq, image?_eq_elim, Dictionary.image, known]
  cases types.entry? name with
  | none => rfl
  | some entry => cases entry <;> rfl

theorem isCut (type : String) :
    Dictionary.IsCut type (String.ofList (type.toList.takeWhile (· != '[')))
      (String.ofList (type.toList.dropWhile (· != '['))) where
  whole := by rw [← String.ofList_append, List.takeWhile_append_dropWhile, String.ofList_toList]
  element := by
    rw [String.toList_ofList]
    intro member
    have differs := List.all_eq_true.mp List.all_takeWhile _ member
    rw [bne_self_eq_false] at differs
    cases differs
  rest := by
    have first := List.head?_dropWhile_not (· != '[') type.toList
    cases dropped : type.toList.dropWhile (· != '[') with
    | nil => exact .inl rfl
    | cons c others =>
        rw [dropped, List.head?_cons] at first
        have bracket : c = '[' := bne_eq_false_iff_eq.mp first
        refine .inr ⟨String.ofList others, ?_⟩
        rw [bracket, ← List.singleton_append, String.ofList_append]

theorem map_of_plain {type : String} (plain : '<' ∉ type.toList) (use : TypeUse) :
    types.map use type =
      types.dictionary.image use (String.ofList (type.toList.takeWhile (· != '['))) ++
        String.ofList (type.toList.dropWhile (· != '[')) := by
  rw [map_eq, if_neg (mt List.contains_iff_mem.mp plain), ← mapName_eq_image]

theorem call_add_of_present (present : types.entry? name ≠ none) (mapped : String) :
    types.call (.add name mapped) = (.refused ⟨name⟩, types) := by
  rw [TypeMap.call, add_eq_error present]

theorem call_add_of_absent (absent : types.entry? name = none) (mapped : String) :
    ∃ next, types.call (.add name mapped) = (.done, next) ∧ types.Adds name mapped next := by
  obtain ⟨next, added, adds⟩ := add_of_absent absent mapped
  refine ⟨next, ?_, adds⟩
  rw [TypeMap.call, added]

theorem call_remove (types : TypeMap) (name : String) :
    types.call (.remove name) = (.truth (types.remove name).1, (types.remove name).2) := rfl

theorem step_call (types : TypeMap) (call : Call) :
    types.dictionary.Step call (types.call call).1 (types.call call).2.dictionary := by
  cases call with
  | add name mapped =>
      by_cases absent : types.entry? name = none
      · obtain ⟨next, called, adds⟩ := call_add_of_absent absent mapped
        rw [called, adds.dictionary_eq absent]
        exact .add absent
      · rw [call_add_of_present absent]
        exact .refuse absent
  | remove name =>
      rw [call_remove, remove_fst, dictionary_remove]
      exact .remove
  | isUnsupported name =>
      have answer : types.isUnsupported name =
          decide (types.dictionary.entry? name = some .noCounterpart) := by
        rw [Bool.eq_iff_iff, decide_eq_true_iff]
        exact isUnsupported_iff
      rw [TypeMap.call, answer]
      exact .isUnsupported
  | map use type =>
      rw [TypeMap.call]
      by_cases generic : '<' ∈ type.toList
      · exact .mapGeneric generic fun other same => map_of_dictionary same use type
      · rw [map_of_plain generic]
        exact .mapPlain generic (isCut type)

theorem runs_session (types : TypeMap) (calls : List Call) :
    Dictionary.Runs types.dictionary calls (session TypeMap.call types calls).1
      (session TypeMap.call types calls).2.dictionary := by
  induction calls generalizing types with
  | nil => exact .nil
  | cons call rest ih => exact .cons (types.step_call call) (ih (types.call call).2)

/-- No name stands twice in the two tables taken together, and no image holds the mark. -/
structure WellKept (types : TypeMap) : Prop where
  distinct : (types.images.map Prod.fst ++ types.unsupported).Nodup
  unmarked : ∀ entry ∈ types.images, noCounterpartMark ∉ entry.2.toList

namespace WellKept

theorem empty (fallbacks : Fallbacks) : WellKept { fallbacks } where
  distinct := List.nodup_nil
  unmarked _ listed := absurd listed List.not_mem_nil

theorem adds (kept : types.WellKept) (adds : types.Adds name mapped next)
    (absent : types.entry? name = none) : next.WellKept := by
  obtain ⟨unmapped, supported⟩ := not_or.mp (entry?_eq_none_iff.mp absent)
  rw [Table.has_iff] at unmapped
  have new : name ∉ types.images.map Prod.fst ++ types.unsupported :=
    fun known => (List.mem_append.mp known).elim unmapped supported
  have more : (name :: (types.images.map Prod.fst ++ types.unsupported)).Nodup :=
    List.nodup_cons.mpr ⟨new, kept.distinct⟩
  cases adds with
  | image unmarked images unsupported =>
      constructor
      · rw [images, unsupported, Table.put, Table.map_fst_alter, if_neg unmapped,
          List.append_assoc, List.singleton_append]
        exact List.perm_middle.nodup_iff.mpr more
      · rw [images]
        intro entry listed
        rcases Table.mem_alter listed with before | ⟨-, rfl⟩
        · exact kept.unmarked entry before
        · exact unmarked
  | noCounterpart marked images unsupported =>
      constructor
      · rw [images, unsupported, List.insert_of_not_mem supported]
        exact List.perm_middle.nodup_iff.mpr more
      · rw [images]
        exact kept.unmarked

theorem remove (kept : types.WellKept) (name : String) : (types.remove name).2.WellKept where
  distinct := kept.distinct.sublist
    ((List.filter_sublist.map Prod.fst).append List.filter_sublist)
  unmarked entry listed := kept.unmarked entry (List.mem_of_mem_filter listed)

theorem call (kept : types.WellKept) (call : Call) : (types.call call).2.WellKept := by
  cases call with
  | add name mapped =>
      by_cases absent : types.entry? name = none
      · obtain ⟨next, called, adds⟩ := call_add_of_absent absent mapped
        rw [called]
        exact kept.adds adds absent
      · rw [call_add_of_present absent]
        exact kept
  | remove name => exact kept.remove name
  | isUnsupported name => exact kept
  | map use type => exact kept

theorem session (kept : types.WellKept) (calls : List Call) :
    (session TypeMap.call types calls).2.WellKept := by
  rw [session_snd]
  induction calls generalizing types with
  | nil => exact kept
  | cons call rest ih => exact ih (kept.call call)

end WellKept

/-- What holds of the two tables, besides the answers. -/
structure IsDictionary (types : TypeMap) : Prop where
  /-- No table has a name twice, and no name is in both of them. -/
  once : (types.images.map Prod.fst).Nodup ∧ types.unsupported.Nodup
  exclusive : ∀ entry ∈ types.images, entry.1 ∉ types.unsupported
  unmarked : ∀ entry ∈ types.images, noCounterpartMark ∉ entry.2.toList
  refused : ∀ name mapped, types.entry? name ≠ none →
    types.call (.add name mapped) = (.refused ⟨name⟩, types)
  restored : ∀ name mapped, types.entry? name = none →
    ∃ more, types.call (.add name mapped) = (.done, more) ∧
      more.call (.remove name) = (.truth true, types)

theorem WellKept.isDictionary (kept : types.WellKept) : types.IsDictionary where
  once := ⟨kept.distinct.of_append_left, kept.distinct.of_append_right⟩
  exclusive entry listed barred :=
    List.disjoint_of_nodup_append kept.distinct (List.mem_map_of_mem listed) barred
  unmarked := kept.unmarked
  refused name mapped present := call_add_of_present present mapped
  restored name mapped absent := by
    obtain ⟨more, called, adds⟩ := call_add_of_absent absent mapped
    refine ⟨more, called, ?_⟩
    rw [call_remove, adds.remove_eq absent]

theorem addAll_cons_eq_ok {rest : List (String × String)} {last : TypeMap} :
    types.addAll ((name, mapped) :: rest) = .ok last ↔
      ∃ next, types.add name mapped = .ok next ∧ next.addAll rest = .ok last := by
  rw [addAll]
  cases types.add name mapped with
  | error duplicate => simp
  | ok next => simp

/-- A table can be added if all its names are new. -/
theorem exists_addAll_iff_of {table : List (String × String)} :
    (∃ last, types.addAll table = .ok last) ↔
      (table.map Prod.fst).Nodup ∧ ∀ row ∈ table, types.entry? row.1 = none := by
  induction table generalizing types with
  | nil => simp [addAll]
  | cons row rest ih =>
      obtain ⟨name, mapped⟩ := row
      simp only [addAll_cons_eq_ok, List.map_cons, List.nodup_cons, List.forall_mem_cons]
      constructor
      · intro added
        obtain ⟨last, next, first, later⟩ := added
        obtain ⟨absent, adds⟩ := of_add_eq_ok first
        obtain ⟨distinct, unknown⟩ := ih.mp ⟨last, later⟩
        have others : ∀ row ∈ rest, row.1 ≠ name ∧ types.entry? row.1 = none := by
          intro row listed
          have found := unknown row listed
          rw [adds.entry?_eq absent] at found
          by_cases same : row.1 = name
          · rw [if_pos same] at found
            cases found
          · rw [if_neg same] at found
            exact ⟨same, found⟩
        refine ⟨⟨fun member => ?_, distinct⟩, absent, fun row listed => (others row listed).2⟩
        obtain ⟨row, listed, same⟩ := List.mem_map.mp member
        exact (others row listed).1 same
      · intro new
        obtain ⟨⟨first, distinct⟩, absent, unknown⟩ := new
        obtain ⟨next, added, adds⟩ := add_of_absent absent mapped
        have still : ∀ row ∈ rest, next.entry? row.1 = none := by
          intro row listed
          have differs : row.1 ≠ name := fun same => first (same ▸ List.mem_map_of_mem listed)
          rw [adds.entry?_eq absent, if_neg differs, unknown row listed]
        obtain ⟨last, later⟩ := ih.mpr ⟨distinct, still⟩
        exact ⟨last, next, added, later⟩

theorem wellKept_of_addAll {table : List (String × String)} {last : TypeMap}
    (kept : types.WellKept) (built : types.addAll table = .ok last) : last.WellKept := by
  induction table generalizing types with
  | nil =>
      cases built
      exact kept
  | cons row rest ih =>
      obtain ⟨next, added, later⟩ := addAll_cons_eq_ok.mp built
      obtain ⟨absent, adds⟩ := of_add_eq_ok added
      exact ih (kept.adds adds absent) later

theorem entry?_of_addAll {table : List (String × String)} {last : TypeMap}
    (built : types.addAll table = .ok last) (other : String) :
    last.entry? other = (types.entry? other).or ((table.lookup other).map TypeEntry.ofText) := by
  induction table generalizing types with
  | nil =>
      cases built
      rw [List.lookup_nil, Option.map_none, Option.or_none]
  | cons row rest ih =>
      obtain ⟨name, mapped⟩ := row
      obtain ⟨next, added, later⟩ := addAll_cons_eq_ok.mp built
      obtain ⟨absent, adds⟩ := of_add_eq_ok added
      rw [ih later, adds.entry?_eq absent, List.lookup_cons]
      by_cases same : other = name
      · subst same
        simp [absent]
      · simp [same, beq_false_of_ne same]

theorem fallbacks_of_addAll {table : List (String × String)} {last : TypeMap}
    (built : types.addAll table = .ok last) : last.fallbacks = types.fallbacks := by
  induction table generalizing types with
  | nil =>
      cases built
      rfl
  | cons row rest ih =>
      obtain ⟨next, added, later⟩ := addAll_cons_eq_ok.mp built
      rw [ih later, (of_add_eq_ok added).2.fallbacks_eq]

variable {fallbacks : Fallbacks} {table : List (String × String)} {start : TypeMap}

theorem exists_addAll_iff :
    (∃ start, addAll { fallbacks } table = .ok start) ↔ (table.map Prod.fst).Nodup := by
  rw [exists_addAll_iff_of]
  exact and_iff_left fun _ _ => rfl

theorem dictionary_of_addAll (built : addAll { fallbacks } table = .ok start) :
    start.dictionary = .ofTable fallbacks table := by
  rw [TypeMap.dictionary, Dictionary.ofTable, fallbacks_of_addAll built]
  congr 1
  funext name
  rw [entry?_of_addAll built]
  exact Option.none_or

end TypeMap

/-- A type map can be made of a table in which no name stands twice. From then on it is one
dictionary: whatever calls are made, they are answered as the dictionary of the table answers them,
the dictionary changes as the calls say, and in the end as before every name is mapped or without a
counterpart but not both, an addition that is refused changes nothing, and one that is made can be
taken back. -/
theorem typeMap_session_dictionary (fallbacks : Fallbacks) (table : List (String × String)) :
    ((∃ start, TypeMap.addAll { fallbacks } table = .ok start) ↔ (table.map Prod.fst).Nodup) ∧
      ∀ start, TypeMap.addAll { fallbacks } table = .ok start → ∀ calls : List TypeMap.Call,
        let after := session TypeMap.call start calls
        Dictionary.Runs (.ofTable fallbacks table) calls after.1 after.2.dictionary ∧
          after.2.IsDictionary := by
  refine ⟨TypeMap.exists_addAll_iff, fun start built calls => ⟨?_, ?_⟩⟩
  · rw [← TypeMap.dictionary_of_addAll built]
    exact start.runs_session calls
  · have kept := TypeMap.wellKept_of_addAll (.empty fallbacks) built
    exact (kept.session calls).isDictionary

/-- A name without a counterpart is removed and added again with one, and the other way round. -/
def TypeMap.Call.readdTask : List TypeMap.Call :=
  [.add "Task" "Job", .map .returned "Task[]", .remove "Task", .map .returned "Task[]",
    .add "Task" "Job", .isUnsupported "Task", .map .returned "Task[,]", .remove "int",
    .add "int" "no!", .isUnsupported "int", .map .body "List<int>", .remove "Task", .remove "Task"]

theorem typeMap_session_dictionary_readdTask :
    ∃ start, TypeMap.addAll {} [("int", "Integer"), ("Task", "!")] = .ok start ∧
      start.images = [("int", "Integer")] ∧ start.unsupported = ["Task"] ∧
      Dictionary.Runs (.ofTable {} [("int", "Integer"), ("Task", "!")]) TypeMap.Call.readdTask
        [.refused ⟨"Task"⟩, .text "void[]", .truth true, .text "Task[]", .done, .truth false,
          .text "Job[,]", .truth true, .done, .truth true, .text "List<", .truth true, .truth false]
        (session TypeMap.call start TypeMap.Call.readdTask).2.dictionary ∧
      (session TypeMap.call start TypeMap.Call.readdTask).2.images = [] ∧
      (session TypeMap.call start TypeMap.Call.readdTask).2.unsupported = ["int"] ∧
      (session TypeMap.call start TypeMap.Call.readdTask).2.IsDictionary := by
  obtain ⟨builds, runs⟩ := typeMap_session_dictionary {} [("int", "Integer"), ("Task", "!")]
  obtain ⟨start, built⟩ := builds.mpr (by decide)
  obtain ⟨run, dictionary⟩ := runs start built TypeMap.Call.readdTask
  have same : start = { images := [("int", "Integer")], unsupported := ["Task"] } := by
    have computed : TypeMap.addAll {} [("int", "Integer"), ("Task", "!")] =
        .ok { images := [("int", "Integer")], unsupported := ["Task"] } := rfl
    rw [computed] at built
    exact (Except.ok.inj built).symm
  subst same
  exact ⟨_, built, rfl, rfl, run, by decide, by decide, dictionary⟩

end SharpToJava
