import SharpToJava.Proofs.Decl.Accounting
import SharpToJava.Proofs.ImportList
import SharpToJava.Proofs.Run.Outcome
import SharpToJava.Proofs.WriteOnly

/-!
What a class extends and implements. Its base list is read to the end before any member is: an entry
with the name of an interface joins the interfaces, any other entry becomes the superclass in place
of the one before it, which is noted. The type of an entry is recorded for the imports, also if the
entry is replaced later.
-/

namespace SharpToJava

open RunM

theorem Journal.covers_record (journal : Journal) {entries : Entries} {type : String}
    (among : TypeName.components type ⊆ entries.touched) :
    (journal.record entries).imports.Covers type :=
  fun _ member => Imports.mem_foldl_addNew.mpr (.inr (among member))

namespace RunM

variable {α β : Type} {run : RunM α}

theorem after_bind_of_ok {rest : α → RunM β} {before between : Journal} {value : α}
    (ran : run.run before = .ok value between) :
    (run >>= rest).after before = (rest value).after between := by
  simp only [after, EStateM.run_bind, ran]

theorem OfSteps.extends_after (steps : OfSteps run) (before : Journal) :
    before.Extends (run.after before) := by
  have outcome := steps.meets before
  unfold after
  cases ran : run.run before <;> rw [ran] at outcome <;> exact outcome.1

/-- Where no note of a sort is to come, a run that fails has none either. -/
theorem Notes.after_of_nil {sort : NoteSort} {profile : Profile}
    (none : Notes sort profile [] run) (before : Journal) :
    ∃ notes : List Note,
      (run.after before).notes = before.notes ++ notes.map (·.message profile.types) ∧
        notes.filter sort.holds = [] := by
  have outcome := none before
  unfold after
  cases ran : run.run before with
  | ok result journal =>
      rw [ran] at outcome
      exact outcome
  | error fault journal =>
      rw [ran] at outcome
      obtain ⟨notes, added, start⟩ := outcome
      exact ⟨notes, added, List.prefix_nil.mp start⟩

end RunM

theorem isInterfaceName_iff (name : String) :
    isInterfaceName name = true ↔
      ∃ letter rest, name.toList = 'I' :: letter :: rest ∧ Text.isUppercase letter = true := by
  unfold isInterfaceName
  split
  case h_1 letter rest spelled =>
    rw [spelled]
    simp
  case h_2 other =>
    constructor
    · intro impossible
      cases impossible
    · intro ⟨letter, rest, spelled, _⟩
      exact (other letter rest spelled).elim

/-- What is noted of base classes of which each takes the place of the one before it. -/
def replacements (owner : String) (bases : List String) : List Note :=
  (bases.zip bases.tail).map fun pair => .replacedBase owner pair.2 pair.1

section

variable (owner : String)

theorem length_replacements (bases : List String) :
    (replacements owner bases).length = bases.length - 1 := by
  simp only [replacements, List.length_map, List.length_zip, List.length_tail]
  omega

theorem filter_replacements (bases : List String) :
    (replacements owner bases).filter Note.isReplacement = replacements owner bases := by
  apply List.filter_eq_self.mpr
  intro entry member
  obtain ⟨pair, _, rfl⟩ := List.mem_map.mp member
  rfl

/-- The notes up to a base class, and from it on. -/
theorem replacements_append (found : Option String) (base : String) (later : List String) :
    replacements owner (found.toList ++ [base]) ++ replacements owner (base :: later) =
      replacements owner (found.toList ++ base :: later) := by
  cases found <;> rfl

end

namespace Place

/-- The text that an entry of a base list becomes. -/
def baseText (profile : Profile) (entry : Node) : String := profile.types.map .body entry.typeText

def interfaceEntries (entries : List Node) : List Node :=
  entries.filter fun entry => isInterfaceName entry.typeText

def classEntries (entries : List Node) : List Node :=
  entries.filter fun entry => !isInterfaceName entry.typeText

variable (profile : Profile) (owner : String)

theorem run_bases_interface {entry : Node} (named : isInterfaceName entry.typeText = true)
    (found : Bases) (rest : List Node) (before : Journal) :
    (bases profile owner found (entry :: rest)).run before =
      (bases profile owner
        { found with interfaces := found.interfaces ++ [baseText profile entry] } rest).run
        (before.record { touched := TypeName.components (baseText profile entry) }) := by
  rw [bases, EStateM.run_bind, run_mapType]
  dsimp only
  rw [if_pos named]
  rfl

theorem run_bases_class {entry : Node} (named : isInterfaceName entry.typeText = false)
    (found : Bases) (rest : List Node) (before : Journal) :
    (bases profile owner found (entry :: rest)).run before =
      (bases profile owner { found with superclass := some (baseText profile entry) } rest).run
        (before.record {
          touched := TypeName.components (baseText profile entry)
          lines := (replacements owner (found.superclass.toList ++ [baseText profile entry])).map
            (·.message profile.types) }) := by
  rw [bases, EStateM.run_bind, run_mapType]
  dsimp only
  rw [if_neg (by simp [named])]
  cases found.superclass with
  | none => rfl
  | some replaced =>
      dsimp only
      rw [EStateM.run_bind, note, run_noteLine, Journal.record_twice, List.append_nil]
      rfl

/-- The base list is read to its end from any journal. -/
theorem run_bases (found : Bases) (entries : List Node) (before : Journal) :
    let classes := found.superclass.toList ++ (classEntries entries).map (baseText profile)
    (bases profile owner found entries).run before =
      .ok ⟨classes.getLast?,
          found.interfaces ++ (interfaceEntries entries).map (baseText profile)⟩
        (before.record {
          touched := entries.flatMap fun entry => TypeName.components (baseText profile entry)
          lines := (replacements owner classes).map (·.message profile.types) }) := by
  -- of the entries already read, the superclass found is all that the rest can replace
  induction entries generalizing found before with
  | nil =>
      obtain ⟨superclass, interfaces⟩ := found
      cases superclass <;> simp [bases, interfaceEntries, classEntries, replacements]
  | cons entry rest ih =>
      cases named : isInterfaceName entry.typeText with
      | true =>
          rw [run_bases_interface profile owner named, ih, Journal.record_twice]
          simp [interfaceEntries, classEntries, named]
      | false =>
          have last := List.getLast?_append_of_ne_nil found.superclass.toList
            (List.cons_ne_nil (baseText profile entry) ((classEntries rest).map (baseText profile)))
          have notes := replacements_append owner found.superclass (baseText profile entry)
            ((classEntries rest).map (baseText profile))
          rw [run_bases_class profile owner named, ih, Journal.record_twice, ← List.map_append]
          simp only [Option.toList_some, List.singleton_append, notes, ← last]
          simp [interfaceEntries, classEntries, named]

theorem replacedBases_members (place : Place) (children : List Node) :
    Notes .replacedBases profile []
      (collect (fun child => (place.enter child).memberDecl profile owner) children) := by
  have none : (children.flatMap (Node.skippedMember owner)).filter Note.isReplacement = [] := by
    apply List.filter_eq_nil_iff.mpr
    intro entry member
    obtain ⟨child, _, among⟩ := List.mem_flatMap.mp member
    have skip := Node.isSkip_of_mem_skippedMember among
    cases entry <;> simp_all [Note.isSkip, Note.isReplacement]
  rw [← none]
  exact place.notes_members profile owner children

/-- Once the base list is read, a class only adds to the journal, and no base is replaced. -/
theorem after_classDecl (place : Place) {before between : Journal} {found : Bases}
    (ran : (bases profile place.node.identifier {} (baseNodes place.node)).run before =
      .ok found between) :
    between.Extends ((place.classDecl profile).after before) ∧
      ∃ notes : List Note, ((place.classDecl profile).after before).notes =
        between.notes ++ notes.map (·.message profile.types) ∧
          notes.filter Note.isReplacement = [] := by
  have steps : OfSteps (collect (fun child =>
      (place.enter child).memberDecl profile place.node.identifier) place.node.childNodes) :=
    ofSteps_collect fun child _ => (place.enter child).ofSteps_memberDecl profile _
  have notes := replacedBases_members profile place.node.identifier place place.node.childNodes
  rw [classDecl, after_bind_of_ok ran]
  exact ⟨(steps.map _).extends_after between, (notes.map _).after_of_nil between⟩

end Place

/-- The first base list of a class falls into interfaces and other types, by their names in the
source. All interfaces are kept in order, and of the others the last one, each in its Java text.
Every other type but the first is noted to replace the one before it, and nothing else is noted so,
whether or not a member fails later on. The imports cover the text of every entry. -/
theorem base_list_partitioned (place : Place) (list : Node)
    (listed : place.node.childOfKind? .baseList = some list) (profile : Profile)
    (before : Journal) :
    let interfaces := list.childNodes.filter fun entry => isInterfaceName entry.typeText
    let others := list.childNodes.filter fun entry => !isInterfaceName entry.typeText
    let mapped (entry : Node) := profile.types.map .body entry.typeText
    let journal := (place.classDecl profile).after before
    (∀ name, isInterfaceName name = true ↔
      ∃ letter rest, name.toList = 'I' :: letter :: rest ∧ Text.isUppercase letter = true) ∧
    (∀ decl after, (place.classDecl profile).run before = .ok decl after →
      decl.interfaces = interfaces.map mapped ∧
        decl.superclass = (others.map mapped).getLast?) ∧
    (∃ notes : List Note, journal.notes = before.notes ++ notes.map (·.message profile.types) ∧
      notes.filter Note.isReplacement =
        replacements place.node.identifier (others.map mapped) ∧
      (notes.filter Note.isReplacement).length = others.length - 1) ∧
    ∀ entry ∈ list.childNodes, journal.imports.Covers (mapped entry) := by
  intro interfaces others mapped journal
  have entries : Place.baseNodes place.node = list.childNodes := by rw [Place.baseNodes, listed]
  have read := Place.run_bases profile place.node.identifier {} (Place.baseNodes place.node) before
  obtain ⟨grown, later, added, none⟩ := place.after_classDecl profile read
  rw [entries] at read grown added
  refine ⟨isInterfaceName_iff, ?_, ?_, ?_⟩
  · intro decl after ran
    obtain ⟨found, between, first, rest⟩ := RunM.bind_eq_ok ran
    rw [entries, read] at first
    obtain ⟨members, last, _, ended⟩ := RunM.bind_eq_ok rest
    cases first
    cases ended
    exact ⟨rfl, rfl⟩
  · have sorted : (replacements place.node.identifier (others.map mapped) ++ later).filter
        Note.isReplacement = replacements place.node.identifier (others.map mapped) := by
      rw [List.filter_append, none, List.append_nil, filter_replacements]
    refine ⟨replacements place.node.identifier (others.map mapped) ++ later, ?_, sorted, ?_⟩
    · rw [List.map_append, ← List.append_assoc]
      exact added
    · rw [sorted, length_replacements, List.length_map]
  · intro entry member
    have among : TypeName.components (mapped entry) ⊆ list.childNodes.flatMap fun entry =>
        TypeName.components (Place.baseText profile entry) :=
      fun _ component => List.mem_flatMap.mpr ⟨entry, member, component⟩
    exact (before.covers_record among).extends grown

/-- `First, IEnumerable, List, IStart, Task` -/
def Node.mixedBases : Node :=
  .mk { kind := .baseList } (["First", "IEnumerable", "List", "IStart", "Task"].map fun name =>
    .node (.mk { kind := .simpleBaseType } [.token { kind := .identifier, text := name }]))

/-- `class Both : First, IEnumerable, List, IStart, Task { Both() { } }` -/
def Node.manyBases : Node :=
  .mk { kind := .classDecl } [
    .token { kind := .identifier, text := "Both" },
    .node Node.mixedBases,
    .node (.mk { kind := .unknown, rawName := some "ConstructorDeclaration" } [])]

theorem base_list_partitioned_manyBases :
    Node.manyBases.childOfKind? .baseList = some Node.mixedBases ∧
    ∃ decl after,
      (Place.classDecl ⟨Node.manyBases, []⟩ (Profile.java true)).run Journal.java =
        .ok decl after ∧
      decl.interfaces = ["Iterable", "IStart"] ∧ decl.superclass = some "var" ∧
      (∃ notes : List Note, after.notes = notes.map (·.message TypeMap.java) ∧
        notes.filter Note.isReplacement = [.replacedBase "Both" "ArrayList" "First",
          .replacedBase "Both" "var" "ArrayList"]) ∧
      ∀ type ∈ ["First", "Iterable", "ArrayList", "IStart", "var"],
        after.imports.Covers type := by
  have listed : Node.manyBases.childOfKind? .baseList = some Node.mixedBases := rfl
  have texts : Node.mixedBases.childNodes.map (fun entry => TypeMap.java.map .body entry.typeText) =
      ["First", "Iterable", "ArrayList", "IStart", "var"] := by decide +kernel
  obtain ⟨after, ran⟩ : ∃ after,
      (Place.classDecl ⟨Node.manyBases, []⟩ (Profile.java true)).run Journal.java =
        .ok { name := "Both", superclass := "var", interfaces := ["Iterable", "IStart"] } after :=
    RunM.exists_of_result? (by decide +kernel)
  have journal : (Place.classDecl ⟨Node.manyBases, []⟩ (Profile.java true)).after Journal.java =
      after := by rw [RunM.after, ran]
  obtain ⟨_, kept, ⟨notes, added, replaced, _⟩, covered⟩ := base_list_partitioned
    ⟨Node.manyBases, []⟩ Node.mixedBases listed (Profile.java true) Journal.java
  rw [journal] at added covered
  refine ⟨listed, _, after, ran, (kept _ _ ran).1.trans ?_, (kept _ _ ran).2.trans ?_,
    ⟨notes, added, replaced.trans ?_⟩, ?_⟩
  · decide +kernel
  · decide +kernel
  · decide +kernel
  · intro type member
    rw [← texts] at member
    obtain ⟨entry, among, rfl⟩ := List.mem_map.mp member
    exact covered entry among

end SharpToJava
