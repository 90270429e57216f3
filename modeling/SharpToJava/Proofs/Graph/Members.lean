import SharpToJava.Proofs.Graph.Address
import SharpToJava.Proofs.Graph.Listing
import SharpToJava.Proofs.Weigh
import SharpToJava.Service

/-!
The graph of a unit as a run of two steps: a member is added below its class, and a base type is
linked to it. Either step adds one edge and keeps the graph sound, whatever the names are like, so
the graph of every unit can be listed and has an edge for each member and each base type.
-/

namespace SharpToJava

/-- A vertex of a class and the label of the edge that leads to it. -/
structure Member where
  address : Address
  label : String
  entity : Entity

/-- A type that a class extends or implements. -/
structure Base where
  label : String
  name : String

def EnumDecl.member (owner : String) (decl : EnumDecl) : Member :=
  ⟨.nested owner decl.name, "HAS_ENUM", decl.entity⟩

def FieldDecl.members (owner : String) (decl : FieldDecl) : List Member :=
  decl.declarators.map fun (name, value) =>
    ⟨.value owner name, "HAS_FIELD", .field name decl.type decl.modifiers value⟩

def PropertyDecl.member (owner : String) (decl : PropertyDecl) : Member :=
  ⟨.value owner decl.name, "HAS_PROPERTY", decl.entity⟩

def MethodDecl.parameterTypes (decl : MethodDecl) : String :=
  ", ".intercalate (decl.parameters.map (·.type))

def MethodDecl.member (owner : String) (decl : MethodDecl) : Member :=
  ⟨.method owner decl.name decl.parameterTypes, "HAS_METHOD", decl.entity⟩

namespace ClassDecl

def members (decl : ClassDecl) : List Member :=
  decl.enums.map (·.member decl.name) ++ decl.fields.flatMap (·.members decl.name) ++
    decl.properties.map (·.member decl.name) ++ decl.methods.map (·.member decl.name)

/-- The superclass, unless it is empty, and the interfaces. -/
def bases (decl : ClassDecl) : List Base :=
  (decl.superclass.filter (· != "")).toList.map (⟨"INHERITS", ·⟩) ++
    decl.interfaces.map (⟨"IMPLEMENTS", ·⟩)

/-- How many members and base types a class has. -/
def linkCount (decl : ClassDecl) : Nat :=
  decl.enums.length + weigh (·.declarators.length) decl.fields + decl.properties.length +
    decl.methods.length + (decl.superclass.filter (· != "")).toList.length + decl.interfaces.length

theorem length_members_add_bases (decl : ClassDecl) :
    decl.members.length + decl.bases.length = decl.linkCount := by
  simp only [members, bases, linkCount, List.length_append, List.length_map,
    length_flatMap_eq_weigh, FieldDecl.members]
  omega

end ClassDecl

namespace Graph

def addOwned (package : String) (decl : ClassDecl) (graph : Graph Entity) (member : Member) :
    Graph Entity :=
  graph.addMember (qualify package decl.name) (member.address.text package) member.label
    member.entity

def linkBase (package : String) (decl : ClassDecl) (graph : Graph Entity) (base : Base) :
    Graph Entity :=
  addBase package (qualify package decl.name) base.label graph base.name

theorem superclasses_eq (decl : ClassDecl) :
    superclasses decl = (decl.superclass.filter (· != "")).toList := by
  unfold superclasses
  split
  case h_1 none => rw [none]; rfl
  case h_2 empty => rw [empty]; rfl
  case h_3 name noEmpty found =>
    rw [found]
    have kept : (name != "") = true := by simpa using noEmpty
    simp [Option.filter, kept]

/-- The members of a class first and then its base types, one step for each. -/
theorem addClass_eq (package : String) (graph : Graph Entity) (decl : ClassDecl) :
    addClass package graph decl =
      decl.bases.foldl (linkBase package decl)
        (decl.members.foldl (addOwned package decl) graph) := by
  simp only [ClassDecl.bases, ClassDecl.members, List.foldl_append, List.foldl_map,
    List.foldl_flatMap, ← superclasses_eq, FieldDecl.members, addOwned, linkBase,
    Address.text_eq_qualify, EnumDecl.member, PropertyDecl.member, MethodDecl.member, Address.path,
    qualify_append]
  rfl

/-- A graph with these edges added somewhere, sound and with no vertex lost. -/
structure Grows {α : Type} (before after : Graph α) (added : List Edge) : Prop where
  sound : after.Sound
  kept : before.names ⊆ after.names
  edges : after.edges.Perm (before.edges ++ added)

theorem Grows.trans {α : Type} {first second third : Graph α} {added more : List Edge}
    (grown : first.Grows second added) (further : second.Grows third more) :
    first.Grows third (added ++ more) where
  sound := further.sound
  kept := List.Subset.trans grown.kept further.kept
  edges := by
    rw [← List.append_assoc]
    exact further.edges.trans (grown.edges.append_right more)

theorem Sound.grows_refl {α : Type} {graph : Graph α} (sound : graph.Sound) :
    graph.Grows graph [] where
  sound := sound
  kept := List.Subset.refl _
  edges := by rw [List.append_nil]

theorem Sound.grows_addVertex {α : Type} {graph : Graph α} (sound : graph.Sound) (name : String)
    (data : α) : graph.Grows (graph.addVertex name data) [] where
  sound := sound.addVertex name data
  kept _ member := mem_names_addVertex.mpr (.inl member)
  edges := by rw [edges_addVertex, List.append_nil]

theorem Sound.grows_addEdge {α : Type} {graph : Graph α} (sound : graph.Sound) {edge : Edge}
    (source : edge.source ∈ graph.names) (target : edge.target ∈ graph.names) :
    graph.Grows (graph.addEdge edge) [edge] where
  sound := sound.addEdge source target
  kept := by
    rw [names_addEdge source target]
    exact List.Subset.refl _
  edges := edges_addEdge_perm graph edge

section Steps

variable {graph : Graph Entity} {owner : String}

theorem grows_addMember (sound : graph.Sound) (present : owner ∈ graph.names)
    (name label : String) (entity : Entity) :
    graph.Grows (graph.addMember owner name label entity) [⟨owner, name, label⟩] := by
  have source : owner ∈ (graph.addVertex name entity).names :=
    mem_names_addVertex.mpr (.inl present)
  have target : name ∈ (graph.addVertex name entity).names := mem_names_addVertex.mpr (.inr rfl)
  exact (sound.grows_addVertex name entity).trans
    ((sound.addVertex name entity).grows_addEdge source target)

theorem resolve_of_local {package name : String} (here : qualify package name ∈ graph.names) :
    graph.resolve package name = (graph, qualify package name) := by
  simp only [resolve, contains_iff.mpr here, if_true]

theorem resolve_of_known {package name : String} (absent : qualify package name ∉ graph.names)
    (known : name ∈ graph.names) : graph.resolve package name = (graph, name) := by
  simp only [resolve, contains_iff, absent, known, if_true, if_false]

theorem resolve_of_new {package name : String} (absent : qualify package name ∉ graph.names)
    (unknown : name ∉ graph.names) :
    graph.resolve package name = (graph.addVertex name (.externalType name), name) := by
  simp only [resolve, contains_iff, absent, unknown, if_false]

/-- Looking up a base type adds at most a vertex, and then there is one for the base type. -/
theorem grows_resolve (sound : graph.Sound) (package name : String) :
    graph.Grows (graph.resolve package name).1 [] ∧
      (graph.resolve package name).2 ∈ (graph.resolve package name).1.names := by
  by_cases here : qualify package name ∈ graph.names
  · rw [resolve_of_local here]
    exact ⟨sound.grows_refl, here⟩
  by_cases known : name ∈ graph.names
  · rw [resolve_of_known here known]
    exact ⟨sound.grows_refl, known⟩
  · rw [resolve_of_new here known]
    exact ⟨sound.grows_addVertex _ _, mem_names_addVertex.mpr (.inr rfl)⟩

theorem addBase_eq (package owner label : String) (graph : Graph Entity) (base : String) :
    addBase package owner label graph base =
      (graph.resolve package base).1.addEdge
        ⟨owner, (graph.resolve package base).2, label⟩ := rfl

theorem grows_addBase (sound : graph.Sound) (present : owner ∈ graph.names)
    (package label base : String) :
    graph.Grows (addBase package owner label graph base)
      [⟨owner, (graph.resolve package base).2, label⟩] := by
  obtain ⟨looked, target⟩ := grows_resolve sound package base
  rw [addBase_eq]
  exact looked.trans (looked.sound.grows_addEdge (looked.kept present) target)

end Steps

/-- Steps that add one edge each, as long as some vertices are there. -/
theorem exists_grows_foldl {α β : Type} {step : Graph α → β → Graph α} {needed : List String}
    {count : β → Nat} {items : List β}
    (each : ∀ item ∈ items, ∀ graph : Graph α, graph.Sound → needed ⊆ graph.names →
      ∃ added, added.length = count item ∧ graph.Grows (step graph item) added)
    {graph : Graph α} (sound : graph.Sound) (present : needed ⊆ graph.names) :
    ∃ added, added.length = weigh count items ∧ graph.Grows (items.foldl step graph) added := by
  induction items generalizing graph with
  | nil => exact ⟨[], rfl, sound.grows_refl⟩
  | cons item rest ih =>
      obtain ⟨added, counted, grown⟩ := each item List.mem_cons_self graph sound present
      obtain ⟨more, countedMore, further⟩ := ih
        (fun later member => each later (List.mem_cons_of_mem _ member)) grown.sound
        (List.Subset.trans present grown.kept)
      refine ⟨added ++ more, ?_, grown.trans further⟩
      rw [List.length_append, counted, countedMore, weigh_cons]

theorem exists_grows_addClass (package : String) {graph : Graph Entity} (sound : graph.Sound)
    {decl : ClassDecl} (present : [qualify package decl.name] ⊆ graph.names) :
    ∃ added, added.length = decl.linkCount ∧ graph.Grows (addClass package graph decl) added := by
  have memberStep : ∀ member ∈ decl.members, ∀ graph : Graph Entity, graph.Sound →
      [qualify package decl.name] ⊆ graph.names →
        ∃ added, added.length = 1 ∧ graph.Grows (addOwned package decl graph member) added :=
    fun member _ graph sound present =>
      ⟨_, rfl, grows_addMember sound (present List.mem_cons_self) _ _ _⟩
  have baseStep : ∀ base ∈ decl.bases, ∀ graph : Graph Entity, graph.Sound →
      [qualify package decl.name] ⊆ graph.names →
        ∃ added, added.length = 1 ∧ graph.Grows (linkBase package decl graph base) added :=
    fun base _ graph sound present =>
      ⟨_, rfl, grows_addBase sound (present List.mem_cons_self) _ _ _⟩
  obtain ⟨added, counted, grown⟩ := exists_grows_foldl memberStep sound present
  obtain ⟨more, countedMore, further⟩ := exists_grows_foldl baseStep grown.sound
    (List.Subset.trans present grown.kept)
  refine ⟨added ++ more, ?_, ?_⟩
  · rw [List.length_append, counted, countedMore, weigh_one, weigh_one,
      decl.length_members_add_bases]
  · rw [addClass_eq]
    exact grown.trans further

/-- The enums and classes of a unit, before anything is known of their members. -/
def tops (unit : UnitDecl) : List (String × Entity) :=
  unit.enums.map (fun decl => (decl.name, decl.entity)) ++
    unit.classes.map fun decl => (decl.name, decl.entity)

def addTop (package : String) (graph : Graph Entity) (top : String × Entity) : Graph Entity :=
  graph.addVertex (qualify package top.1) top.2

theorem ofUnit_eq (unit : UnitDecl) :
    ofUnit unit = unit.classes.foldl (addClass (unit.package.getD ""))
      ((tops unit).foldl (addTop (unit.package.getD "")) {}) := by
  simp only [tops, List.foldl_append, List.foldl_map]
  rfl

theorem sound_tops (package : String) (tops : List (String × Entity)) {graph : Graph Entity}
    (sound : graph.Sound) :
    (tops.foldl (addTop package) graph).Sound ∧
      (tops.foldl (addTop package) graph).edges = graph.edges ∧
      ∀ name, name ∈ (tops.foldl (addTop package) graph).names ↔
        name ∈ graph.names ∨ name ∈ tops.map fun top => qualify package top.1 := by
  induction tops generalizing graph with
  | nil => simp [sound]
  | cons top rest ih =>
      obtain ⟨later, edges, names⟩ := ih (sound.addVertex (qualify package top.1) top.2)
      refine ⟨later, edges.trans (edges_addVertex _ _ _), fun name => (names name).trans ?_⟩
      rw [mem_names_addVertex, or_assoc, List.map_cons, List.mem_cons]

/-- The graph of a unit is sound and has an edge for each member and each base type. -/
theorem sound_ofUnit (unit : UnitDecl) :
    (ofUnit unit).Sound ∧ (ofUnit unit).edges.length = weigh ClassDecl.linkCount unit.classes := by
  obtain ⟨sound, edges, names⟩ := sound_tops (unit.package.getD "") (tops unit) sound_empty
  have present : unit.classes.map (fun decl => qualify (unit.package.getD "") decl.name) ⊆
      ((tops unit).foldl (addTop (unit.package.getD "")) {}).names := by
    intro name member
    obtain ⟨decl, declared, rfl⟩ := List.mem_map.mp member
    refine (names _).mpr (.inr (List.mem_map.mpr ⟨(decl.name, decl.entity), ?_, rfl⟩))
    exact List.mem_append_right _ (List.mem_map_of_mem declared)
  have classStep : ∀ decl ∈ unit.classes, ∀ graph : Graph Entity, graph.Sound →
      unit.classes.map (fun decl => qualify (unit.package.getD "") decl.name) ⊆ graph.names →
        ∃ added, added.length = decl.linkCount ∧
          graph.Grows (addClass (unit.package.getD "") graph decl) added := by
    intro decl declared graph sound present
    apply exists_grows_addClass _ sound
    simpa using present (List.mem_map_of_mem declared)
  obtain ⟨added, counted, grown⟩ := exists_grows_foldl classStep sound present
  rw [ofUnit_eq]
  refine ⟨grown.sound, ?_⟩
  rw [grown.edges.length_eq, edges, edges_empty, List.nil_append, counted]

end Graph

/-- A unit that was compiled can always be shown as a graph. -/
theorem Service.exists_graphOf (request : Request) (output : Output) :
    ∃ graph, graphOf request output = .ok graph := by
  unfold graphOf
  split
  case h_1 unit _ _ =>
    obtain ⟨listing, shown, -⟩ := (Graph.sound_ofUnit unit).1.exists_listing
    exact ⟨some listing, by rw [shown]⟩
  case h_2 => exact ⟨none, rfl⟩

/-- Every unit has a graph that can be listed: each end of an edge is a vertex with its data, and
there are as many edges as members and base types. So asking for the graph never spoils an answer:
the answer is the one given without it, with the graph beside it. -/
theorem ofUnit_listed :
    (∀ unit : UnitDecl, ∃ listing, (Graph.ofUnit unit).listing? = some listing ∧
      (∀ edge ∈ listing.edges, (∃ entity, (edge.source, entity) ∈ listing.vertices) ∧
        ∃ entity, (edge.target, entity) ∈ listing.vertices) ∧
      listing.edges.length = weigh ClassDecl.linkCount unit.classes) ∧
    ∀ request : Service.Request,
      (Service.answer { request with includeGraph := true }).map
          (fun response => { response with graph := none }) =
        Service.answer { request with includeGraph := false } := by
  constructor
  · intro unit
    obtain ⟨sound, counted⟩ := Graph.sound_ofUnit unit
    obtain ⟨listing, found, vertices, edges⟩ := sound.exists_listing
    have data : ∀ name ∈ (Graph.ofUnit unit).names,
        ∃ entity, (name, entity) ∈ listing.vertices := by
      intro name member
      rw [Graph.names, vertices] at member
      simpa using member
    rw [← edges] at counted
    refine ⟨listing, found, fun edge member => ?_, counted⟩
    obtain ⟨source, target⟩ := sound.anchored edge (edges ▸ member)
    exact ⟨data _ source, data _ target⟩
  · intro request
    cases named : Target.ofName? request.target with
    | none =>
        simp only [Service.answer, named]
        rfl
    | some target =>
        cases read : Dump.node request.tree with
        | error issues =>
            simp only [Service.answer, named, read]
            rfl
        | ok root =>
            cases compiled : compile root (some target) request.enforce with
            | error fault =>
                simp only [Service.answer, named, read, compiled]
                rfl
            | ok output =>
                obtain ⟨graph, shown⟩ := Service.exists_graphOf
                  { request with includeGraph := true } output
                simp only [Service.answer, named, read, compiled, shown]
                rfl

end SharpToJava
