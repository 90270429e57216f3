import Mathlib.Data.List.Nodup
import SharpToJava.Proofs.Totality

/-!
The imports of a unit suffice for its declarations. A type gets into a declaration only from
`RunM.mapType`, which records its components, and nothing recorded is forgotten; so at the end of a
run every component of every declared type is among the touched names, and the import list is made
of their paths, each path once.
-/

namespace SharpToJava

namespace Imports

variable {imports : Imports} {items added : List String}

/-- Every component of the type was touched. -/
def Covers (imports : Imports) (type : String) : Prop :=
  ∀ component ∈ TypeName.components type, component ∈ imports.touched

theorem nodup_foldl_addNew (different : items.Nodup) : (added.foldl addNew items).Nodup := by
  induction added generalizing items with
  | nil => exact different
  | cons item rest ih =>
      apply ih
      unfold addNew
      split
      case isTrue => exact different
      case isFalse absent =>
        have new : item ∉ items := fun member => absent (List.contains_iff_mem.mpr member)
        rw [← List.concat_eq_append]
        exact different.concat new

theorem nodup_list (imports : Imports) : imports.list.Nodup := nodup_foldl_addNew List.nodup_nil

theorem covers_touch (type : String) : (imports.touch type).Covers type :=
  fun _ member => mem_foldl_addNew.mpr (.inr member)

theorem Covers.extends {type : String} {before after : Journal} (covers : before.imports.Covers type)
    (grown : before.Extends after) : after.imports.Covers type :=
  fun component member => grown.touched.subset (covers component member)

end Imports

namespace RunM

variable {α β : Type} {known : List String} {types : α → List String}

/-- Where the known types are covered, a run that ends well leaves them covered and the types of
its result too. -/
def Registers (known : List String) (run : RunM α) (types : α → List String) : Prop :=
  ∀ before result after, run.run before = .ok result after →
    (∀ type ∈ known, before.imports.Covers type) →
      before.Extends after ∧ ∀ type ∈ types result, after.imports.Covers type

theorem registers_pure {result : α} (kept : types result ⊆ known) :
    Registers known (pure result) types := by
  intro before _ after done covered
  cases done
  exact ⟨.refl before, fun type member => covered type (kept member)⟩

theorem Registers.bind {run : RunM α} {rest : α → RunM β} {last : β → List String}
    (first : Registers known run types)
    (second : ∀ result, Registers (known ++ types result) (rest result) last) :
    Registers known (run >>= rest) last := by
  intro before result after done covered
  obtain ⟨value, between, ran, ended⟩ := bind_eq_ok done
  obtain ⟨grown, found⟩ := first before value between ran covered
  have both : ∀ type ∈ known ++ types value, between.imports.Covers type := by
    intro type member
    rcases List.mem_append.mp member with old | new
    · exact (covered type old).extends grown
    · exact found type new
  obtain ⟨later, final⟩ := second value between result after ended both
  exact ⟨grown.trans later, final⟩

theorem Meets.registers {run : RunM α} {fails : Fault → Prop} {post : α → Prop}
    (meets : Meets fails run post) : Registers known run fun _ => [] := by
  intro before result after done _
  exact ⟨(meets.of_ok done).1, by simp⟩

theorem registers_note (profile : Profile) (entry : Note) :
    Registers known (note profile entry) fun _ => [] := by
  have steps : Meets (fun _ => True) (note profile entry) _ := meets_note profile entry
  exact steps.registers

theorem registers_mapType (profile : Profile) (use : TypeUse) (source : String) :
    Registers known (mapType profile use source) fun mapped => [mapped] := by
  intro before result after done _
  have steps : Meets (fun _ => True) (mapType profile use source) _ :=
    meets_mapType profile use source
  have grown := (steps.of_ok done).1
  cases done
  refine ⟨grown, ?_⟩
  intro type member
  rw [List.mem_singleton.mp member]
  exact Imports.covers_touch _

theorem registers_collect {f : α → RunM (Option β)} {types : β → List String} {items : List α}
    (each : ∀ item ∈ items, ∀ known, Registers known (f item) fun found =>
      found.toList.flatMap types) :
    Registers known (collect f items) fun results => results.flatMap types := by
  induction items generalizing known with
  | nil => exact registers_pure (by simp)
  | cons item rest ih =>
      have others : ∀ known, Registers known (collect f rest) fun results =>
          results.flatMap types :=
        fun _ => ih fun later member => each later (List.mem_cons_of_mem _ member)
      apply (each item List.mem_cons_self known).bind
      intro found
      cases found with
      | none => exact others _
      | some result =>
          apply (others _).bind
          intro results
          apply registers_pure
          simp

end RunM

def FieldDecl.types (decl : FieldDecl) : List String := [decl.type]

def PropertyDecl.types (decl : PropertyDecl) : List String := [decl.type]

def ParameterDecl.types (decl : ParameterDecl) : List String := [decl.type]

def MethodDecl.types (decl : MethodDecl) : List String :=
  decl.returnType :: decl.parameters.flatMap ParameterDecl.types

def ClassDecl.types (decl : ClassDecl) : List String :=
  decl.superclass.toList ++ decl.interfaces ++ decl.fields.flatMap FieldDecl.types ++
    decl.properties.flatMap PropertyDecl.types ++ decl.methods.flatMap MethodDecl.types

/-- All types that the declarations of a unit name. -/
def UnitDecl.types (decl : UnitDecl) : List String := decl.classes.flatMap ClassDecl.types

def Bases.types (bases : Bases) : List String := bases.superclass.toList ++ bases.interfaces

def MemberDecl.types : MemberDecl → List String
  | .method decl => decl.types
  | .field decl => decl.types
  | .property decl => decl.types
  | .enum _ => []

def TopDecl.types : TopDecl → List String
  | .enum _ => []
  | .classDecl decl => decl.types

theorem flatMap_filterMap_subset {α β : Type} {sort : α → Option β} {types : α → List String}
    {sortTypes : β → List String} {decls : List α}
    (each : ∀ decl found, sort decl = some found → sortTypes found = types decl) :
    (decls.filterMap sort).flatMap sortTypes ⊆ decls.flatMap types := by
  intro type member
  obtain ⟨found, sorted, named⟩ := List.mem_flatMap.mp member
  obtain ⟨decl, listed, same⟩ := List.mem_filterMap.mp sorted
  rw [each decl found same] at named
  exact List.mem_flatMap.mpr ⟨decl, listed, named⟩

namespace Place

open RunM

variable {profile : Profile} {promise : Promise profile.types} {place : Place} {known : List String}

theorem registers_fieldDecl (every : place.Every promise.Admits) :
    Registers known (place.fieldDecl profile) fun found => found.toList.flatMap FieldDecl.types := by
  unfold fieldDecl
  split
  case h_1 =>
    apply (registers_note profile _).bind
    intro _
    exact registers_pure (by simp)
  case h_2 declaration found =>
    have within := every.enter (Node.mem_nodes_of_find? found)
    have children : declaration.childrenOfKind .variableDeclarator ⊆ declaration.childNodes :=
      fun _ listed => (List.mem_filter.mp listed).1
    apply (registers_mapType profile .body _).bind
    intro type
    apply (meets_declarators within children).registers.bind
    intro declarators
    exact registers_pure (by simp [FieldDecl.types])

theorem registers_propertyDecl (every : place.Every promise.Admits) :
    Registers known (place.propertyDecl profile) PropertyDecl.types := by
  apply (registers_mapType profile .body _).bind
  intro type
  apply (meets_initializer every).registers.bind
  intro initializer
  exact registers_pure (by simp [PropertyDecl.types])

theorem registers_parameterDecl (node : Node) :
    Registers known (parameterDecl profile node) fun found =>
      found.toList.flatMap ParameterDecl.types := by
  unfold parameterDecl
  split
  · apply (registers_mapType profile .body _).bind
    intro type
    exact registers_pure (by simp [ParameterDecl.types])
  · exact registers_pure (by simp)

theorem registers_methodDecl (every : place.Every promise.Admits) :
    Registers known (place.methodDecl profile) MethodDecl.types := by
  apply (registers_mapType profile .returned _).bind
  intro returnType
  apply (registers_collect fun node _ _ => registers_parameterDecl node).bind
  intro parameters
  apply (meets_methodBody every _).registers.bind
  intro block
  apply registers_pure
  simp [MethodDecl.types]

theorem registers_bases (owner : String) {found : Bases} (sofar : found.types ⊆ known)
    (entries : List Node) : Registers known (bases profile owner found entries) Bases.types := by
  -- each entry adds a type to those found and to those known
  induction entries generalizing found known with
  | nil => exact registers_pure sofar
  | cons entry rest ih =>
      apply (registers_mapType profile .body entry.typeText).bind
      intro mapped
      have wider : known ⊆ known ++ [mapped] := List.subset_append_left _ _
      have new : [mapped] ⊆ known ++ [mapped] := List.subset_append_right _ _
      obtain ⟨superclass, interfaces⟩ := List.append_subset.mp (List.Subset.trans sofar wider)
      split
      · exact ih (List.append_subset.mpr ⟨superclass, List.append_subset.mpr ⟨interfaces, new⟩⟩)
      · have replaced : Bases.types { found with superclass := some mapped } ⊆ known ++ [mapped] :=
          List.append_subset.mpr ⟨new, interfaces⟩
        split
        · apply (registers_note profile _).bind
          intro _
          exact ih (List.Subset.trans replaced (List.subset_append_left _ _))
        · exact ih replaced

theorem registers_memberDecl (every : place.Every promise.Admits) (owner : String) :
    Registers known (place.memberDecl profile owner) fun found =>
      found.toList.flatMap MemberDecl.types := by
  unfold memberDecl
  split
  case h_1 =>
    apply (registers_methodDecl every).bind
    intro decl
    exact registers_pure (by simp [MemberDecl.types])
  case h_2 =>
    apply (registers_fieldDecl every).bind
    intro found
    apply registers_pure
    cases found <;> simp [MemberDecl.types]
  case h_3 => exact registers_pure (by simp [MemberDecl.types])
  case h_4 =>
    apply (registers_propertyDecl every).bind
    intro decl
    exact registers_pure (by simp [MemberDecl.types])
  case h_5 => exact registers_pure (by simp)
  case h_6 =>
    apply (registers_note profile _).bind
    intro _
    exact registers_pure (by simp)

theorem registers_classDecl (every : place.Every promise.Admits) :
    Registers known (place.classDecl profile) ClassDecl.types := by
  apply (registers_bases place.node.identifier (by simp [Bases.types]) _).bind
  intro bases
  apply (registers_collect fun child member _ =>
    registers_memberDecl (every.enter_child member) _).bind
  intro members
  have fields : (members.filterMap MemberDecl.field?).flatMap FieldDecl.types ⊆
      members.flatMap MemberDecl.types :=
    flatMap_filterMap_subset fun member _ found => by cases member <;> cases found; rfl
  have properties : (members.filterMap MemberDecl.property?).flatMap PropertyDecl.types ⊆
      members.flatMap MemberDecl.types :=
    flatMap_filterMap_subset fun member _ found => by cases member <;> cases found; rfl
  have methods : (members.filterMap MemberDecl.method?).flatMap MethodDecl.types ⊆
      members.flatMap MemberDecl.types :=
    flatMap_filterMap_subset fun member _ found => by cases member <;> cases found; rfl
  apply registers_pure
  intro type member
  simp only [ClassDecl.types, Bases.types, List.mem_append] at member ⊢
  grind

theorem registers_topDecl (every : place.Every promise.Admits) (isName : Bool) :
    Registers known (place.topDecl profile isName) fun found =>
      found.toList.flatMap TopDecl.types := by
  unfold topDecl
  split
  case h_1 =>
    apply (registers_classDecl every).bind
    intro decl
    exact registers_pure (by simp [TopDecl.types])
  case h_2 => exact registers_pure (by simp [TopDecl.types])
  case h_3 =>
    cases isName with
    | true => exact registers_pure (by simp)
    | false =>
        apply (registers_note profile _).bind
        intro _
        exact registers_pure (by simp)

theorem registers_unitDecl (every : place.Every promise.Admits) :
    Registers known (place.unitDecl profile) UnitDecl.types := by
  have tops : Registers known (place.topDecls profile) fun decls =>
      decls.flatMap TopDecl.types := by
    apply registers_collect
    intro child member _
    exact registers_topDecl (every.outline.enter_child (List.fst_mem_of_mem_zipIdx member)) _
  rw [unitDecl_eq]
  apply tops.bind
  intro decls
  have classes : (decls.filterMap TopDecl.class?).flatMap ClassDecl.types ⊆
      decls.flatMap TopDecl.types :=
    flatMap_filterMap_subset fun decl _ found => by cases decl <;> cases found; rfl
  exact registers_pure (List.Subset.trans classes (List.subset_append_right _ _))

end Place

/-- What a compilation imports is what its declarations need: every component of a declared type
was touched and, where there is a path to it, is imported; no path is imported twice, or for a name
that was not touched. -/
theorem imports_of_declared_types (root : Node) (enforce : Bool) (unit : UnitDecl)
    (journal : Journal)
    (ran : (Place.unitDecl ⟨root, []⟩ (Profile.java enforce)).run Journal.java = .ok unit journal) :
    (∀ type ∈ unit.types, ∀ component ∈ TypeName.components type,
      component ∈ journal.imports.touched ∧
        ∀ path, Imports.java.path? component = some path → path ∈ journal.imports.list) ∧
      journal.imports.list.Nodup ∧
      (∀ path ∈ journal.imports.list,
        ∃ component ∈ journal.imports.touched, Imports.java.path? component = some path) ∧
      compile root (some .java) enforce = .ok {
        text := unit.source enforce journal.imports.list
        debug := journal.notes
        unit := some unit } := by
  have every : Place.Every (Promise.faultsOf (Profile.java enforce).types root).Admits ⟨root, []⟩ :=
    ⟨Promise.faultsOf_admits _ root, by simp⟩
  have registers : RunM.Registers [] (Place.unitDecl ⟨root, []⟩ (Profile.java enforce))
      UnitDecl.types := Place.registers_unitDecl every
  obtain ⟨grown, covered⟩ := registers _ unit journal ran (by simp)
  -- the table of paths is that of a fresh journal, and it has no default imports
  have paths : ∀ name, journal.imports.path? name = Imports.java.path? name := by
    intro name
    rw [Imports.path?, grown.paths]
    rfl
  have listed : ∀ path, path ∈ journal.imports.list ↔
      ∃ name ∈ journal.imports.touched, Imports.java.path? name = some path := by
    intro path
    rw [Imports.mem_list_iff, grown.defaults]
    simp [paths, Journal.java, Imports.java]
  refine ⟨?_, Imports.nodup_list _, fun path => (listed path).mp, ?_⟩
  · intro type declared component member
    have touched := covered type declared component member
    exact ⟨touched, fun path found => (listed path).mpr ⟨component, touched, found⟩⟩
  · simp only [compile, Compiler.run, ran]

/-- `List<string>` -/
def Node.stringList : Node :=
  .mk { kind := .genericName } [
    .token { kind := .identifier, text := "List" },
    .node (.mk { kind := .typeArgumentList } [
      .node (.mk { kind := .predefinedType } [.token { kind := .identifier, text := "string" }])])]

/-- `class A { List<string> Names(); }` -/
def Node.listMethod : Node :=
  .mk { kind := .unknown } [.node (.mk { kind := .classDecl } [
    .token { kind := .identifier, text := "A" },
    .node (.mk { kind := .methodDecl } [
      .node Node.stringList,
      .token { kind := .identifier, text := "Names" }])])]

theorem Node.typeText_stringList : Node.stringList.typeText = "List<string>" := by
  let argument : Node :=
    .mk { kind := .predefinedType } [.token { kind := .identifier, text := "string" }]
  have inner : argument.typeText = "string" := by rw [typeText]; rfl
  have arguments : Node.stringList.typeArguments = [argument] := rfl
  rw [typeText]
  change "List<" ++ ", ".intercalate (stringList.typeArguments.attach.map (·.val.typeText)) ++
    ">" = _
  rw [List.attach_map_val, arguments, List.map_singleton, inner]
  rfl

theorem imports_of_listMethod :
    ∃ unit journal,
      (Place.unitDecl ⟨Node.listMethod, []⟩ (Profile.java true)).run Journal.java =
        .ok unit journal ∧
      unit.types = ["ArrayList<String>"] ∧ "java.util.ArrayList" ∈ journal.imports.list := by
  obtain ⟨unit, journal, ran, types⟩ : ∃ unit journal,
      (Place.unitDecl ⟨Node.listMethod, []⟩ (Profile.java true)).run Journal.java =
        .ok unit journal ∧
      unit.types = [TypeMap.java.map .returned Node.stringList.typeText] := ⟨_, _, rfl, rfl⟩
  have mapped : TypeMap.java.map .returned "List<string>" = "ArrayList<String>" := by decide
  rw [Node.typeText_stringList, mapped] at types
  have declared : "ArrayList<String>" ∈ unit.types := by simp [types]
  have needed := (imports_of_declared_types Node.listMethod true unit journal ran).1 _ declared
    "ArrayList" (by decide)
  exact ⟨unit, journal, ran, types, needed.2 _ (by decide)⟩

end SharpToJava
