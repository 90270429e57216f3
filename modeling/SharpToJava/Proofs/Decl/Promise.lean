import SharpToJava.Compiler
import SharpToJava.Proofs.Decl.Source
import SharpToJava.Proofs.Layout.Promise

/-!
From the tree to the output. What is promised of the texts in a tree holds of every text in its
declarations, and so of the Java source; the only faults are those the promise allows for.
-/

namespace SharpToJava

/-- Every counterpart in the table is a plain word. -/
def ModifierTable.isPlain (table : ModifierTable) : Bool :=
  table.all fun entry => entry.2.toList.all Text.isPlain

theorem Wording.modifiersBy (wording : Wording) {table : ModifierTable}
    (plain : table.isPlain = true) (node : Node) :
    ∀ word ∈ node.modifiersBy table, wording.holds word := by
  intro word member
  obtain ⟨modifier, -, found⟩ := List.mem_filterMap.mp member
  obtain ⟨before, after, split, -⟩ := List.lookup_eq_some_iff.mp found
  have entry : (modifier, word) ∈ table := by rw [split]; simp
  exact wording.plain word (List.all_eq_true.mp plain _ entry)

theorem Wording.accessorModifiers (wording : Wording) (accessor property : Node) :
    ∀ word ∈ accessor.accessorModifiers property, wording.holds word := by
  unfold Node.accessorModifiers
  split
  · exact wording.modifiersBy (by decide) property
  · exact wording.modifiersBy (by decide) accessor

namespace Imports

variable {imports : Imports} {items added : List String} {path : String}

theorem mem_addNew {item : String} : path ∈ addNew items item ↔ path ∈ items ∨ path = item := by
  unfold addNew
  split
  case isTrue present =>
    have member : item ∈ items := List.contains_iff_mem.mp present
    constructor
    · exact .inl
    · rintro (old | rfl)
      · exact old
      · exact member
  case isFalse => simp

theorem mem_foldl_addNew : path ∈ added.foldl addNew items ↔ path ∈ items ∨ path ∈ added := by
  induction added generalizing items with
  | nil => simp
  | cons item rest ih => simp [ih, mem_addNew, or_assoc]

/-- The default imports and the paths of touched names are imported, and nothing else. -/
theorem mem_list_iff : path ∈ imports.list ↔
    path ∈ imports.defaults ∨ ∃ name ∈ imports.touched, imports.path? name = some path := by
  unfold list
  rw [mem_foldl_addNew, List.mem_append, List.mem_filterMap]
  simp

/-- Only paths of the table and default imports are imported. -/
theorem mem_list (member : path ∈ imports.list) :
    path ∈ imports.defaults ∨ path ∈ imports.paths.map (·.2) := by
  rcases mem_list_iff.mp member with default | ⟨name, -, found⟩
  · exact .inl default
  · obtain ⟨before, after, split, -⟩ := List.lookup_eq_some_iff.mp found
    exact .inr (by rw [split]; simp)

end Imports

theorem Wording.importList (wording : Wording) {journal : Journal}
    (run : Journal.java.Extends journal) : ∀ path ∈ journal.imports.list, wording.holds path := by
  intro path member
  have plain : ∀ path ∈ Imports.java.defaults ++ Imports.java.paths.map (·.2),
      path.toList.all Text.isPlain = true := by decide
  have listed := Imports.mem_list member
  rw [run.paths, run.defaults] at listed
  exact wording.plain path (plain path (List.mem_append.mpr listed))

structure Bases.Within (wording : Wording) (bases : Bases) : Prop where
  superclass : ∀ base ∈ bases.superclass, wording.holds base
  interfaces : ∀ base ∈ bases.interfaces, wording.holds base

def MemberDecl.Within (wording : Wording) : MemberDecl → Prop
  | .method decl => decl.Within wording
  | .field decl => decl.Within wording
  | .property decl => decl.Within wording
  | .enum decl => decl.Within wording

def TopDecl.Within (wording : Wording) : TopDecl → Prop
  | .enum decl => decl.Within wording
  | .classDecl decl => decl.Within wording

theorem Node.mem_nodes_of_namespace? {root found : Node}
    (present : root.namespace? = some found) : found ∈ root.nodes := by
  unfold Node.namespace? at present
  split at present
  case h_1 block blockFound =>
    cases present
    exact Node.mem_nodes_of_find? blockFound
  case h_2 => exact Node.mem_nodes_of_find? present

namespace Place

/-- Where the declarations of a tree are looked for: in its first namespace, or else at its root. -/
def outline (place : Place) : Place :=
  match place.node.namespace? with
  | some inner => place.enter inner
  | none => place

def topDecls (place : Place) (profile : Profile) : RunM (List TopDecl) :=
  RunM.collect (fun child => (place.outline.enter child.1).topDecl profile
    (place.node.namespace?.map Node.namePosition == some child.2)) place.outline.node.childNodes.zipIdx

theorem unitDecl_eq (place : Place) (profile : Profile) :
    place.unitDecl profile = do
      let decls ← place.topDecls profile
      return {
        package := place.node.namespace?.map (·.slotTypeText .namespaceName)
        enums := decls.filterMap TopDecl.enum?
        classes := decls.filterMap TopDecl.class? } := rfl

theorem mem_nodes_outline (place : Place) : place.outline.node ∈ place.node.nodes := by
  unfold outline
  split
  case h_1 inner found => exact Node.mem_nodes_of_namespace? found
  case h_2 => exact Node.mem_nodes_self _

theorem Every.outline {property : Node → Prop} {place : Place} (every : place.Every property) :
    place.outline.Every property := by
  unfold Place.outline
  split
  case h_1 inner found => exact every.enter (Node.mem_nodes_of_namespace? found)
  case h_2 => exact every

variable {profile : Profile} {promise : Promise profile.types} {place : Place}

theorem slotTypeText_holds (every : place.Every promise.Admits) (slot : Slot) :
    promise.holds (place.node.slotTypeText slot) :=
  Wording.Accepts.slotTypeText every.accepts.1 slot

theorem meets_mapType (use : TypeUse) {source : String} (holds : promise.holds source) :
    RunM.Meets promise.fails (RunM.mapType profile use source) promise.holds :=
  (RunM.meets_mapType profile use source).weaken fun _ same => same ▸ promise.mapped use holds

theorem meets_initializer (every : place.Every promise.Admits) :
    RunM.Meets promise.fails (place.initializer profile)
      fun found => ∀ value ∈ found, promise.holds value := by
  unfold initializer
  split
  case h_1 clause found =>
    split
    case h_1 value filled =>
      have within := ((every.enter_childOfKind? found).enter_pick? filled).accepts
      refine ((phrase_within within).render_meets promise 1).map fun text holds => ?_
      intro value same
      cases same
      exact holds
    case h_2 => exact RunM.meets_pure (by simp)
  case h_2 => exact RunM.meets_pure (by simp)

theorem meets_declarators (every : place.Every promise.Admits) {nodes : List Node}
    (present : nodes ⊆ place.node.childNodes) :
    RunM.Meets promise.fails (place.declarators profile nodes) fun declarators =>
      ∀ declarator ∈ declarators, promise.holds declarator.1 ∧
        ∀ value ∈ declarator.2, promise.holds value := by
  induction nodes with
  | nil => exact RunM.meets_pure (by simp)
  | cons node rest ih =>
      have within := every.enter_child (present List.mem_cons_self)
      refine (meets_initializer within).bind fun value holds => ?_
      refine (ih (List.subset_of_cons_subset present)).bind fun others hold => RunM.meets_pure ?_
      intro declarator member
      rcases List.mem_cons.mp member with rfl | later
      · exact ⟨within.here.accepts.identifier, holds⟩
      · exact hold declarator later

theorem toEnumDecl_within (every : place.Every promise.Admits) :
    place.node.toEnumDecl.Within promise.toWording where
  name := every.here.accepts.identifier
  modifiers := promise.modifiersBy (by decide) _
  members := by
    intro text member
    obtain ⟨node, listed, rfl⟩ := List.mem_map.mp member
    exact (every.enter_childrenOfKind listed).here.accepts.identifier

theorem meets_fieldDecl (every : place.Every promise.Admits) :
    RunM.Meets promise.fails (place.fieldDecl profile)
      fun found => ∀ decl ∈ found, decl.Within promise.toWording := by
  unfold fieldDecl
  split
  case h_1 =>
    exact (RunM.meets_note _ _).bind fun _ _ => RunM.meets_pure (by simp)
  case h_2 declaration found =>
    have within := every.enter (Node.mem_nodes_of_find? found)
    refine (meets_mapType .body (slotTypeText_holds within .type)).bind fun type holds => ?_
    have children : declaration.childrenOfKind .variableDeclarator ⊆ declaration.childNodes :=
      fun _ listed => (List.mem_filter.mp listed).1
    refine (meets_declarators within children).bind fun declarators hold => RunM.meets_pure ?_
    rintro decl ⟨⟩
    exact ⟨holds, promise.modifiersBy (by decide) _, fun declarator member =>
      (hold declarator member).1, fun declarator member => (hold declarator member).2⟩

theorem getter?_hold : ∀ modifiers ∈ place.node.getter?, ∀ word ∈ modifiers, promise.holds word := by
  intro modifiers present
  unfold Node.getter? at present
  split at present
  · obtain ⟨getter, -, rfl⟩ := Option.map_eq_some_iff.mp present
    exact promise.accessorModifiers getter place.node
  · obtain ⟨_, -, rfl⟩ := Option.map_eq_some_iff.mp present
    exact promise.modifiersBy (by decide) place.node

theorem setter?_hold : ∀ modifiers ∈ place.node.setter?, ∀ word ∈ modifiers, promise.holds word := by
  intro modifiers present
  unfold Node.setter? at present
  split at present
  · obtain ⟨setter, -, rfl⟩ := Option.map_eq_some_iff.mp present
    exact promise.accessorModifiers setter place.node
  · cases present

theorem meets_propertyDecl (every : place.Every promise.Admits) :
    RunM.Meets promise.fails (place.propertyDecl profile)
      (PropertyDecl.Within promise.toWording) := by
  refine (meets_mapType .body (slotTypeText_holds every .type)).bind fun type holds => ?_
  refine (meets_initializer every).bind fun initializer initialHolds => RunM.meets_pure ?_
  exact {
    name := every.here.accepts.identifier
    type := holds
    fieldModifiers := promise.modifiersBy (by decide) _
    getter := getter?_hold
    setter := setter?_hold
    initializer := initialHolds }

theorem meets_parameterDecl (every : place.Every promise.Admits) :
    RunM.Meets promise.fails (parameterDecl profile place.node)
      fun found => ∀ decl ∈ found, decl.Within promise.toWording := by
  unfold parameterDecl
  split
  case h_1 type filled =>
    have typed := Wording.Accepts.typeText (every.enter_pick? filled).accepts.1
    refine (meets_mapType .body typed).bind fun type holds => RunM.meets_pure ?_
    rintro decl ⟨⟩
    exact ⟨holds, every.here.accepts.identifier⟩
  case h_2 => exact RunM.meets_pure (by simp)

theorem meets_block (every : place.Every promise.Admits) (depth : Int) :
    RunM.Meets promise.fails (place.block profile depth) promise.holds := by
  have statements := covers_nodes every fun inner _ => inner.layout_covers
  have block : promise.Covers (Layout.block true _) := Promise.covers_block statements
  exact block.render_meets depth

theorem meets_arrowBody (every : place.Every promise.Admits) (depth : Int) (returnsValue : Bool) :
    RunM.Meets promise.fails (place.arrowBody profile depth returnsValue) promise.holds := by
  have lead : promise.holds (if returnsValue then "return " else "") := by
    cases returnsValue with
    | false => exact promise.empty
    | true => exact promise.plain _ (by decide)
  have line := Promise.covers_statement (.pair (.text lead) (phrase_within every.accepts))
  have block : promise.Covers (Layout.block true [_]) :=
    Promise.covers_block (List.forall_mem_singleton.mpr line)
  exact block.render_meets depth

theorem meets_methodBody (every : place.Every promise.Admits) (returnsValue : Bool) :
    RunM.Meets promise.fails (place.methodBody profile returnsValue)
      fun found => ∀ body ∈ found, promise.holds body := by
  have kept : ∀ text, promise.holds text → ∀ body ∈ some text, promise.holds body := by
    rintro text holds body ⟨⟩
    exact holds
  unfold methodBody
  split
  case h_1 block _ found => exact (meets_block (every.enter_childOfKind? found) 1).map kept
  case h_2 arrow _ found =>
    split
    case h_1 expression filled =>
      have within := (every.enter_childOfKind? found).enter_pick? filled
      exact (meets_arrowBody within 1 returnsValue).map kept
    case h_2 => exact RunM.meets_pure (by simp)
  case h_3 => exact RunM.meets_pure (by simp)

theorem meets_methodDecl (every : place.Every promise.Admits) :
    RunM.Meets promise.fails (place.methodDecl profile) (MethodDecl.Within promise.toWording) := by
  refine (meets_mapType .returned (slotTypeText_holds every .type)).bind fun type holds => ?_
  have each : ∀ node ∈ parameterNodes place.node, RunM.Meets promise.fails
      (parameterDecl profile node) fun found => ∀ decl ∈ found, decl.Within promise.toWording := by
    intro node listed
    unfold parameterNodes at listed
    split at listed
    case h_1 list found =>
      exact meets_parameterDecl ((every.enter_childOfKind? found).enter_childrenOfKind listed)
    case h_2 => exact absurd listed List.not_mem_nil
  refine (RunM.meets_collect each).bind fun parameters given => ?_
  refine (meets_methodBody every _).bind fun block written => RunM.meets_pure ?_
  exact {
    name := every.here.accepts.identifier
    returnType := holds
    modifiers := promise.modifiersBy (by decide) _
    parameters := given
    block := written }

theorem meets_bases (owner : String) {found : Bases} (sofar : found.Within promise.toWording)
    {entries : List Node} (each : ∀ entry ∈ entries, entry.Every promise.Accepts) :
    RunM.Meets promise.fails (bases profile owner found entries)
      (Bases.Within promise.toWording) := by
  -- what was found before the rest of the entries changes along the way
  induction entries generalizing found with
  | nil => exact RunM.meets_pure sofar
  | cons entry rest ih =>
      have typed := Wording.Accepts.typeText (each entry List.mem_cons_self)
      have later : ∀ other ∈ rest, other.Every promise.Accepts :=
        fun other member => each other (List.mem_cons_of_mem _ member)
      refine (meets_mapType .body typed).bind fun mapped holds => ?_
      split
      · refine ih ⟨sofar.superclass, fun base member => ?_⟩ later
        rcases List.mem_append.mp member with old | new
        · exact sofar.interfaces base old
        · rwa [List.mem_singleton.mp new]
      · have replaced : Bases.Within promise.toWording { found with superclass := some mapped } :=
          ⟨by rintro base ⟨⟩; exact holds, sofar.interfaces⟩
        split
        · exact (RunM.meets_note _ _).bind fun _ _ => ih replaced later
        · exact ih replaced later

theorem meets_memberDecl (every : place.Every promise.Admits) (owner : String) :
    RunM.Meets promise.fails (place.memberDecl profile owner)
      fun found => ∀ decl ∈ found, decl.Within promise.toWording := by
  have kept : ∀ decl : MemberDecl, decl.Within promise.toWording →
      ∀ found ∈ some decl, MemberDecl.Within promise.toWording found := by
    rintro decl holds found ⟨⟩
    exact holds
  unfold memberDecl
  split
  case h_1 =>
    exact (meets_methodDecl every).bind fun decl holds => RunM.meets_pure (kept (.method decl) holds)
  case h_2 =>
    refine (meets_fieldDecl every).bind fun found hold => RunM.meets_pure fun decl member => ?_
    obtain ⟨field, present, rfl⟩ := Option.map_eq_some_iff.mp member
    exact hold field present
  case h_3 => exact RunM.meets_pure (kept (.enum _) (toEnumDecl_within every))
  case h_4 =>
    exact (meets_propertyDecl every).bind fun decl holds =>
      RunM.meets_pure (kept (.property decl) holds)
  case h_5 => exact RunM.meets_pure (by simp)
  case h_6 => exact (RunM.meets_note _ _).bind fun _ _ => RunM.meets_pure (by simp)

theorem meets_classDecl (every : place.Every promise.Admits) :
    RunM.Meets promise.fails (place.classDecl profile) (ClassDecl.Within promise.toWording) := by
  have entries : ∀ entry ∈ baseNodes place.node, entry.Every promise.Accepts := by
    intro entry listed
    unfold baseNodes at listed
    split at listed
    case h_1 list found =>
      exact ((every.enter_childOfKind? found).enter_child listed).accepts.1
    case h_2 => exact absurd listed List.not_mem_nil
  have none : Bases.Within promise.toWording {} := ⟨by simp, by simp⟩
  refine (meets_bases _ none entries).bind fun bases based => ?_
  refine (RunM.meets_collect fun child member =>
    meets_memberDecl (every.enter_child member) _).bind fun members hold => RunM.meets_pure ?_
  refine {
    name := every.here.accepts.identifier
    modifiers := promise.modifiersBy (by decide) _
    superclass := based.superclass
    interfaces := based.interfaces
    enums := ?_
    fields := ?_
    properties := ?_
    methods := ?_ } <;>
  · intro decl member
    obtain ⟨entry, listed, found⟩ := List.mem_filterMap.mp member
    have within := hold entry listed
    cases entry <;> cases found
    exact within

theorem meets_topDecl (every : place.Every promise.Admits) (isName : Bool) :
    RunM.Meets promise.fails (place.topDecl profile isName)
      fun found => ∀ decl ∈ found, decl.Within promise.toWording := by
  unfold topDecl
  split
  case h_1 =>
    refine (meets_classDecl every).bind fun decl holds => RunM.meets_pure ?_
    rintro top ⟨⟩
    exact holds
  case h_2 =>
    refine RunM.meets_pure ?_
    rintro top ⟨⟩
    exact toEnumDecl_within every
  case h_3 =>
    cases isName with
    | false => exact (RunM.meets_note _ _).bind fun _ _ => RunM.meets_pure (by simp)
    | true => exact RunM.meets_pure (by simp)

theorem meets_topDecls (every : place.Every promise.Admits) :
    RunM.Meets promise.fails (place.topDecls profile)
      fun decls => ∀ decl ∈ decls, decl.Within promise.toWording := by
  refine RunM.meets_collect fun child member => ?_
  exact meets_topDecl (every.outline.enter_child (List.fst_mem_of_mem_zipIdx member)) _

theorem meets_unitDecl (every : place.Every promise.Admits) :
    RunM.Meets promise.fails (place.unitDecl profile) (UnitDecl.Within promise.toWording) := by
  have package : ∀ name ∈ place.node.namespace?.map (·.slotTypeText .namespaceName),
      promise.holds name := by
    intro name present
    obtain ⟨inner, found, rfl⟩ := Option.map_eq_some_iff.mp present
    exact slotTypeText_holds (every.enter (Node.mem_nodes_of_namespace? found)) .namespaceName
  rw [unitDecl_eq]
  refine (meets_topDecls every).bind fun decls hold => RunM.meets_pure ⟨package, ?_, ?_⟩ <;>
  · intro decl member
    obtain ⟨top, listed, found⟩ := List.mem_filterMap.mp member
    have within := hold top listed
    cases top <;> cases found
    exact within

end Place

/-- A run for Java keeps a promise that can be kept at every node of its tree. -/
theorem Compiler.run_java_keeps {compiler : Compiler} (java : compiler.target = some .java)
    (enforce : Bool) {promise : Promise TypeMap.java}
    (every : compiler.root.Every promise.Admits) :
    match (compiler.run enforce).1 with
    | .ok output => promise.holds output
    | .error fault => promise.fails fault := by
  have place : Place.Every promise.Admits ⟨compiler.root, []⟩ := ⟨every, by simp⟩
  have unit : RunM.Meets promise.fails
      (Place.unitDecl ⟨compiler.root, []⟩ (Profile.java enforce))
      (UnitDecl.Within promise.toWording) := Place.meets_unitDecl place
  unfold run
  rw [java]
  simp only
  split
  case h_1 output ran =>
    split at ran
    case h_1 decl journal done =>
      cases ran
      obtain ⟨extended, within⟩ := unit.of_ok done
      exact within.source enforce (promise.importList extended)
    case h_2 => cases ran
  case h_2 fault ran =>
    split at ran
    case h_1 => cases ran
    case h_2 reason journal failed =>
      cases ran
      exact unit.of_error failed

end SharpToJava
