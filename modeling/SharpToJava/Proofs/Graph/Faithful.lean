import SharpToJava.Proofs.Graph.Members

/-!
What the graph of a unit shows. The vertices and edges that a unit should have are written down from
its declarations alone. While names have no marks in them and no two declarations at one place share
a name, no vertex is ever overwritten: every vertex that is added is one of those, and since each of
them is the target of an edge or at the top, none is missing in the end.
-/

namespace SharpToJava

namespace ClassDecl

/-- Fields and properties share their names. -/
def valueNames (decl : ClassDecl) : List String :=
  decl.fields.flatMap (·.declarators.map Prod.fst) ++ decl.properties.map (·.name)

/-- Every name that is written in a class, its own and those of its base types included. -/
def names (decl : ClassDecl) : List String :=
  decl.name :: decl.enums.map (·.name) ++ decl.valueNames ++ decl.methods.map (·.name) ++
    decl.bases.map (·.name)

end ClassDecl

namespace UnitDecl

def topNames (unit : UnitDecl) : List String :=
  unit.enums.map (·.name) ++ unit.classes.map (·.name)

structure WellNamed (unit : UnitDecl) : Prop where
  simple : ∀ name ∈ unit.enums.map (·.name) ++ unit.classes.flatMap (·.names), Text.IsSimple name
  tops : unit.topNames.Nodup
  enums : ∀ decl ∈ unit.classes, (decl.enums.map (·.name)).Nodup
  values : ∀ decl ∈ unit.classes, decl.valueNames.Nodup
  /-- Methods may share a name if their parameters differ. -/
  methods : ∀ decl ∈ unit.classes, (decl.methods.map fun m => (m.name, m.parameterTypes)).Nodup

/-- All that a unit declares: enums and classes, and the members of each class. -/
def declared (unit : UnitDecl) : List (Address × Entity) :=
  (Graph.tops unit).map (fun top => (.top top.1, top.2)) ++
    unit.classes.flatMap fun decl => decl.members.map fun member => (member.address, member.entity)

/-- The base types that are not declared in the unit. -/
def foreign (unit : UnitDecl) : List String :=
  ((unit.classes.flatMap fun decl => decl.bases.map (·.name)).filter (· ∉ unit.topNames)).eraseDups

/-- The declarations and the base types from elsewhere, under the names of their vertices. -/
def entities (unit : UnitDecl) : List (String × Entity) :=
  unit.declared.map (fun (address, entity) => (address.text (unit.package.getD ""), entity)) ++
    unit.foreign.map fun name => (name, .externalType name)

/-- The vertex that stands for a base type. -/
def target (unit : UnitDecl) (base : String) : String :=
  if base ∈ unit.topNames then (Address.top base).text (unit.package.getD "") else base

def memberEdge (unit : UnitDecl) (decl : ClassDecl) (member : Member) : Edge where
  source := (Address.top decl.name).text (unit.package.getD "")
  target := member.address.text (unit.package.getD "")
  label := member.label

def baseEdge (unit : UnitDecl) (decl : ClassDecl) (base : Base) : Edge where
  source := (Address.top decl.name).text (unit.package.getD "")
  target := unit.target base.name
  label := base.label

def edges (unit : UnitDecl) : List Edge :=
  unit.classes.flatMap fun decl =>
    decl.members.map (unit.memberEdge decl) ++ decl.bases.map (unit.baseEdge decl)

theorem mem_foreign {unit : UnitDecl} {name : String} :
    name ∈ unit.foreign ↔
      (∃ decl ∈ unit.classes, ∃ base ∈ decl.bases, base.name = name) ∧ name ∉ unit.topNames := by
  simp [foreign, List.mem_eraseDups]

theorem names_subset {unit : UnitDecl} {decl : ClassDecl} (member : decl ∈ unit.classes) :
    decl.names ⊆ unit.enums.map (·.name) ++ unit.classes.flatMap (·.names) := fun _ written =>
  List.mem_append_right _ (List.mem_flatMap.mpr ⟨decl, member, written⟩)

theorem topNames_subset (unit : UnitDecl) :
    unit.topNames ⊆ unit.enums.map (·.name) ++ unit.classes.flatMap (·.names) := by
  intro name member
  rcases List.mem_append.mp member with inEnums | inClasses
  · exact List.mem_append_left _ inEnums
  · obtain ⟨decl, declared, rfl⟩ := List.mem_map.mp inClasses
    exact names_subset declared (by simp [ClassDecl.names])

theorem baseName_mem_names {decl : ClassDecl} {base : Base} (listed : base ∈ decl.bases) :
    base.name ∈ decl.names :=
  List.mem_append_right _ (List.mem_map_of_mem listed)

end UnitDecl

namespace ClassDecl

variable {decl : ClassDecl}

def addresses (decl : ClassDecl) : List Address :=
  (decl.enums.map (·.name)).map (.nested decl.name) ++ decl.valueNames.map (.value decl.name) ++
    (decl.methods.map fun m => (m.name, m.parameterTypes)).map fun (name, parameters) =>
      .method decl.name name parameters

theorem map_address_members (decl : ClassDecl) :
    decl.members.map Member.address = decl.addresses := by
  simp [members, addresses, valueNames, EnumDecl.member, FieldDecl.members, PropertyDecl.member,
    MethodDecl.member, List.map_flatMap, Function.comp_def]

theorem mem_addresses {address : Address} :
    address ∈ decl.addresses ↔ (∃ inner ∈ decl.enums, .nested decl.name inner.name = address) ∨
      (∃ name ∈ decl.valueNames, .value decl.name name = address) ∨
      ∃ m ∈ decl.methods, .method decl.name m.name m.parameterTypes = address := by
  simp [addresses]

theorem owner_of_mem_addresses {address : Address} (member : address ∈ decl.addresses) :
    address.head = decl.name ∧ ∀ name, address ≠ .top name := by
  rcases mem_addresses.mp member with ⟨inner, -, rfl⟩ | ⟨name, -, rfl⟩ | ⟨method, -, rfl⟩ <;>
    exact ⟨rfl, fun _ => nofun⟩

theorem nodup_addresses (enums : (decl.enums.map (·.name)).Nodup) (values : decl.valueNames.Nodup)
    (methods : (decl.methods.map fun m => (m.name, m.parameterTypes)).Nodup) :
    decl.addresses.Nodup := by
  have nested := enums.map (f := Address.nested decl.name) fun _ _ same =>
    (Address.nested.inj same).2
  have value := values.map (f := Address.value decl.name) fun _ _ same =>
    (Address.value.inj same).2
  have method := methods.map (f := fun (m : String × String) => Address.method decl.name m.1 m.2)
    fun _ _ same => Prod.ext (Address.method.inj same).2.1 (Address.method.inj same).2.2
  refine List.nodup_append.mpr ⟨List.nodup_append.mpr ⟨nested, value, ?_⟩, method, ?_⟩
  · simp
  · simp [or_imp, forall_and]

end ClassDecl

namespace UnitDecl

variable {unit : UnitDecl}

theorem map_fst_declared (unit : UnitDecl) :
    unit.declared.map Prod.fst =
      unit.topNames.map .top ++ unit.classes.flatMap ClassDecl.addresses := by
  rw [funext fun decl => (ClassDecl.map_address_members decl).symm]
  simp [declared, topNames, Graph.tops, List.map_flatMap, Function.comp_def]

theorem WellNamed.nodup_declared (named : unit.WellNamed) : (unit.declared.map Prod.fst).Nodup := by
  rw [map_fst_declared]
  have topsOnce := named.tops.map (f := Address.top) fun _ _ same => by injection same
  -- addresses in different classes have different owners
  have classesOnce : (unit.classes.map (·.name)).Nodup := (List.nodup_append.mp named.tops).2.1
  have membersOnce : (unit.classes.flatMap ClassDecl.addresses).Nodup := by
    refine List.nodup_flatMap.mpr ⟨fun decl member => ClassDecl.nodup_addresses
      (named.enums decl member) (named.values decl member) (named.methods decl member), ?_⟩
    refine (List.pairwise_map.mp classesOnce).imp fun differ => ?_
    refine List.disjoint_left.mpr fun address inFirst inSecond => differ ?_
    rw [← (ClassDecl.owner_of_mem_addresses inFirst).1,
      (ClassDecl.owner_of_mem_addresses inSecond).1]
  refine List.nodup_append.mpr ⟨topsOnce, membersOnce, ?_⟩
  intro top atTop address member same
  obtain ⟨name, -, rfl⟩ := List.mem_map.mp atTop
  obtain ⟨decl, -, inside⟩ := List.mem_flatMap.mp member
  exact (ClassDecl.owner_of_mem_addresses inside).2 name same.symm

theorem WellNamed.simple_top (named : unit.WellNamed) {name : String}
    (member : name ∈ unit.topNames) : Text.IsSimple name :=
  named.simple name (topNames_subset unit member)

theorem WellNamed.simple_name (named : unit.WellNamed) {decl : ClassDecl}
    (member : decl ∈ unit.classes) {name : String} (written : name ∈ decl.names) :
    Text.IsSimple name :=
  named.simple name (names_subset member written)

theorem WellNamed.simple_base (named : unit.WellNamed) {decl : ClassDecl}
    (member : decl ∈ unit.classes) {base : Base} (listed : base ∈ decl.bases) :
    Text.IsSimple base.name :=
  named.simple_name member (baseName_mem_names listed)

theorem WellNamed.simple_declared (named : unit.WellNamed) {address : Address}
    (member : address ∈ unit.declared.map Prod.fst) : address.Simple := by
  rw [map_fst_declared] at member
  rcases List.mem_append.mp member with atTop | inside
  · obtain ⟨name, listed, rfl⟩ := List.mem_map.mp atTop
    exact named.simple_top listed
  · obtain ⟨decl, declared, inClass⟩ := List.mem_flatMap.mp inside
    have owner : Text.IsSimple decl.name := named.simple_name declared (by simp [ClassDecl.names])
    rcases ClassDecl.mem_addresses.mp inClass with
      ⟨inner, listed, rfl⟩ | ⟨name, listed, rfl⟩ | ⟨method, listed, rfl⟩
    all_goals
      refine ⟨owner, named.simple_name declared ?_⟩
      simp only [ClassDecl.names, List.mem_append, List.mem_cons, List.mem_map]
    · exact .inl (.inl (.inl (.inr ⟨inner, listed, rfl⟩)))
    · exact .inl (.inl (.inr listed))
    · exact .inl (.inr ⟨method, listed, rfl⟩)

/-- A base type that is not declared in the unit is not named like anything that is. -/
theorem WellNamed.text_ne_foreign (named : unit.WellNamed) {package name : String}
    {address : Address} (member : address ∈ unit.declared.map Prod.fst) (bare : Text.IsSimple name)
    (absent : name ∉ unit.topNames) : address.text package ≠ name := by
  intro same
  obtain ⟨-, rfl⟩ := Address.eq_top_of_text_eq (named.simple_declared member) bare same
  rw [map_fst_declared] at member
  rcases List.mem_append.mp member with atTop | inside
  · exact absent (by simpa using atTop)
  · obtain ⟨decl, -, inClass⟩ := List.mem_flatMap.mp inside
    exact (ClassDecl.owner_of_mem_addresses inClass).2 name rfl

theorem WellNamed.simple_foreign (named : unit.WellNamed) {name : String}
    (member : name ∈ unit.foreign) : Text.IsSimple name := by
  obtain ⟨⟨decl, declared, base, listed, rfl⟩, -⟩ := mem_foreign.mp member
  exact named.simple_base declared listed

theorem map_fst_entities (unit : UnitDecl) :
    unit.entities.map Prod.fst =
      (unit.declared.map Prod.fst).map (Address.text (unit.package.getD "")) ++ unit.foreign := by
  simp [entities, Function.comp_def]

/-- No two vertices of a unit share a name. -/
theorem WellNamed.nodup_entities (named : unit.WellNamed) : (unit.entities.map Prod.fst).Nodup := by
  rw [map_fst_entities]
  refine List.nodup_append.mpr ⟨?_, nodup_eraseDups _, ?_⟩
  · exact named.nodup_declared.map_on fun first one second two same =>
      Address.text_injective (named.simple_declared one) (named.simple_declared two) same
  · intro text declared name outside
    obtain ⟨address, member, rfl⟩ := List.mem_map.mp declared
    exact named.text_ne_foreign member (named.simple_foreign outside) (mem_foreign.mp outside).2

/-- With the package before it, a base type from elsewhere is not found, unless there is none. -/
theorem WellNamed.qualify_eq_self (named : unit.WellNamed) {name : String}
    (bare : Text.IsSimple name) (absent : name ∉ unit.topNames)
    (known : Graph.qualify (unit.package.getD "") name ∈ unit.entities.map Prod.fst) :
    Graph.qualify (unit.package.getD "") name = name := by
  have top : (Address.top name).Simple := bare
  rw [map_fst_entities] at known
  rcases List.mem_append.mp known with inside | outside
  · obtain ⟨address, member, same⟩ := List.mem_map.mp inside
    obtain rfl := Address.text_injective (named.simple_declared member) top same
    have differ : (Address.top name).text "" ≠ name := named.text_ne_foreign member bare absent
    exact absurd rfl differ
  · obtain ⟨-, same⟩ := Address.eq_top_of_text_eq top (named.simple_foreign outside) rfl
    exact (Address.top.inj same).symm

end UnitDecl

namespace Graph

variable {unit : UnitDecl} {graph : Graph Entity}

/-- A graph to which nothing was added that the unit does not have, and which has all that stands
at the top. -/
structure Charts (unit : UnitDecl) (graph : Graph Entity) : Prop where
  sound : graph.Sound
  tops : unit.topNames.map (qualify (unit.package.getD "")) ⊆ graph.names
  within : ∀ vertex ∈ graph.vertices, ∃ known ∈ unit.entities, vertex = (known.1, some known.2)

theorem Charts.top_mem (charts : graph.Charts unit) {name : String}
    (member : name ∈ unit.topNames) : qualify (unit.package.getD "") name ∈ graph.names :=
  charts.tops (List.mem_map_of_mem member)

theorem Charts.owner_mem (charts : graph.Charts unit) {decl : ClassDecl}
    (member : decl ∈ unit.classes) : qualify (unit.package.getD "") decl.name ∈ graph.names :=
  charts.top_mem (List.mem_append_right _ (List.mem_map_of_mem member))

theorem Charts.names_subset (charts : graph.Charts unit) :
    graph.names ⊆ unit.entities.map Prod.fst := by
  intro name member
  obtain ⟨vertex, present, rfl⟩ := List.mem_map.mp member
  obtain ⟨known, listed, rfl⟩ := charts.within vertex present
  exact List.mem_map_of_mem listed

theorem Charts.addVertex (charts : graph.Charts unit) {name : String} {entity : Entity}
    (known : (name, entity) ∈ unit.entities) : (graph.addVertex name entity).Charts unit where
  sound := charts.sound.addVertex name entity
  tops other member := mem_names_addVertex.mpr (.inl (charts.tops member))
  within vertex member := by
    rcases mem_vertices_addVertex member with rfl | before
    · exact ⟨_, known, rfl⟩
    · exact charts.within vertex before

theorem Charts.addEdge (charts : graph.Charts unit) {edge : Edge}
    (source : edge.source ∈ graph.names) (target : edge.target ∈ graph.names) :
    (graph.addEdge edge).Charts unit where
  sound := charts.sound.addEdge source target
  tops := by
    rw [names_addEdge source target]
    exact charts.tops
  within := by
    rw [vertices_addEdge source target]
    exact charts.within

theorem mem_declared_of_member {decl : ClassDecl} (declared : decl ∈ unit.classes)
    {member : Member} (listed : member ∈ decl.members) :
    (member.address, member.entity) ∈ unit.declared :=
  List.mem_append_right _ (List.mem_flatMap.mpr ⟨decl, declared, List.mem_map_of_mem listed⟩)

theorem mem_entities_of_member {decl : ClassDecl} (declared : decl ∈ unit.classes)
    {member : Member} (listed : member ∈ decl.members) :
    (member.address.text (unit.package.getD ""), member.entity) ∈ unit.entities :=
  List.mem_append_left _ (List.mem_map.mpr ⟨_, mem_declared_of_member declared listed, rfl⟩)

theorem Charts.addOwned (charts : graph.Charts unit) {decl : ClassDecl}
    (declared : decl ∈ unit.classes) {member : Member} (listed : member ∈ decl.members) :
    (addOwned (unit.package.getD "") decl graph member).Charts unit ∧
      graph.Grows (addOwned (unit.package.getD "") decl graph member)
        [unit.memberEdge decl member] := by
  have vertex := charts.addVertex (mem_entities_of_member declared listed)
  exact ⟨vertex.addEdge (vertex.owner_mem declared) (mem_names_addVertex.mpr (.inr rfl)),
    grows_addMember charts.sound (charts.owner_mem declared) _ _ _⟩

/-- Whatever was added so far, a base type is found where it belongs. -/
theorem Charts.resolve (named : unit.WellNamed) (charts : graph.Charts unit) {decl : ClassDecl}
    (declared : decl ∈ unit.classes) {base : Base} (listed : base ∈ decl.bases) :
    (graph.resolve (unit.package.getD "") base.name).1.Charts unit ∧
      (graph.resolve (unit.package.getD "") base.name).2 = unit.target base.name := by
  by_cases atTop : base.name ∈ unit.topNames
  · rw [resolve_of_local (charts.top_mem atTop), UnitDecl.target, if_pos atTop]
    exact ⟨charts, rfl⟩
  have bare := named.simple_base declared listed
  rw [UnitDecl.target, if_neg atTop]
  by_cases here : qualify (unit.package.getD "") base.name ∈ graph.names
  · rw [resolve_of_local here]
    exact ⟨charts, named.qualify_eq_self bare atTop (charts.names_subset here)⟩
  by_cases known : base.name ∈ graph.names
  · rw [resolve_of_known here known]
    exact ⟨charts, rfl⟩
  · rw [resolve_of_new here known]
    have foreign : base.name ∈ unit.foreign :=
      UnitDecl.mem_foreign.mpr ⟨⟨decl, declared, base, listed, rfl⟩, atTop⟩
    exact ⟨charts.addVertex (List.mem_append_right _ (List.mem_map_of_mem foreign)), rfl⟩

theorem Charts.linkBase (named : unit.WellNamed) (charts : graph.Charts unit) {decl : ClassDecl}
    (declared : decl ∈ unit.classes) {base : Base} (listed : base ∈ decl.bases) :
    (linkBase (unit.package.getD "") decl graph base).Charts unit ∧
      graph.Grows (linkBase (unit.package.getD "") decl graph base) [unit.baseEdge decl base] := by
  obtain ⟨looked, target⟩ := charts.resolve named declared listed
  have present := (grows_resolve charts.sound (unit.package.getD "") base.name).2
  have grown := grows_addBase charts.sound (charts.owner_mem declared) (unit.package.getD "")
    base.label base.name
  rw [target] at grown
  refine ⟨?_, grown⟩
  rw [Graph.linkBase, addBase_eq]
  exact looked.addEdge (looked.owner_mem declared) present

theorem Charts.foldl {α : Type} (charts : graph.Charts unit) (items : List α)
    (step : Graph Entity → α → Graph Entity) (edges : α → List Edge)
    (each : ∀ item ∈ items, ∀ graph : Graph Entity, graph.Charts unit →
      (step graph item).Charts unit ∧ graph.Grows (step graph item) (edges item)) :
    (items.foldl step graph).Charts unit ∧
      graph.Grows (items.foldl step graph) (items.flatMap edges) := by
  induction items generalizing graph with
  | nil => exact ⟨charts, charts.sound.grows_refl⟩
  | cons item rest ih =>
      obtain ⟨next, grown⟩ := each item List.mem_cons_self graph charts
      obtain ⟨last, further⟩ := ih next fun later member =>
        each later (List.mem_cons_of_mem _ member)
      exact ⟨last, grown.trans further⟩

theorem Charts.addClass (named : unit.WellNamed) (charts : graph.Charts unit) {decl : ClassDecl}
    (declared : decl ∈ unit.classes) :
    (addClass (unit.package.getD "") graph decl).Charts unit ∧
      graph.Grows (addClass (unit.package.getD "") graph decl)
        (decl.members.map (unit.memberEdge decl) ++ decl.bases.map (unit.baseEdge decl)) := by
  obtain ⟨filled, grown⟩ := charts.foldl decl.members (Graph.addOwned (unit.package.getD "") decl)
    (fun member => [unit.memberEdge decl member]) fun _ listed _ now =>
      now.addOwned declared listed
  obtain ⟨linked, further⟩ := filled.foldl decl.bases (Graph.linkBase (unit.package.getD "") decl)
    (fun base => [unit.baseEdge decl base]) fun _ listed _ now =>
      now.linkBase named declared listed
  rw [addClass_eq, List.map_eq_flatMap, List.map_eq_flatMap]
  exact ⟨linked, grown.trans further⟩

theorem mem_vertices_foldl_addTop {package : String} {tops : List (String × Entity)}
    {vertex : String × Option Entity}
    (member : vertex ∈ (tops.foldl (addTop package) graph).vertices) :
    vertex ∈ graph.vertices ∨ ∃ top ∈ tops, vertex = (qualify package top.1, some top.2) := by
  induction tops generalizing graph with
  | nil => exact .inl member
  | cons top rest ih =>
      rcases ih member with before | ⟨later, listed, same⟩
      · rcases mem_vertices_addVertex before with same | earlier
        · exact .inr ⟨top, List.mem_cons_self, same⟩
        · exact .inl earlier
      · exact .inr ⟨later, List.mem_cons_of_mem _ listed, same⟩

theorem charts_tops (unit : UnitDecl) :
    ((tops unit).foldl (addTop (unit.package.getD "")) {}).Charts unit where
  sound := (sound_tops _ _ sound_empty).1
  tops name member := by
    refine ((sound_tops _ _ sound_empty).2.2 name).mpr (.inr ?_)
    simpa [tops, UnitDecl.topNames] using member
  within vertex member := by
    rcases mem_vertices_foldl_addTop member with before | ⟨top, listed, rfl⟩
    · exact absurd before List.not_mem_nil
    · refine ⟨_, List.mem_append_left _ (List.mem_map.mpr ⟨(.top top.1, top.2), ?_, rfl⟩), rfl⟩
      exact List.mem_append_left _ (List.mem_map_of_mem listed)

theorem charts_ofUnit (named : unit.WellNamed) :
    (ofUnit unit).Charts unit ∧ (ofUnit unit).edges.Perm unit.edges := by
  obtain ⟨charts, grown⟩ := (charts_tops unit).foldl unit.classes
    (Graph.addClass (unit.package.getD "")) _ fun _ declared _ now => now.addClass named declared
  rw [ofUnit_eq]
  refine ⟨charts, grown.edges.trans ?_⟩
  rw [(sound_tops _ _ sound_empty).2.1, edges_empty, List.nil_append]
  exact List.Perm.refl _

/-- A vertex of a member or of a base type from elsewhere is where an edge leads. -/
theorem Charts.entities_subset (charts : graph.Charts unit)
    (edges : graph.edges.Perm unit.edges) :
    unit.entities.map Prod.fst ⊆ graph.names := by
  have linked : ∀ edge ∈ unit.edges, edge.target ∈ graph.names := fun edge member =>
    (charts.sound.anchored edge (edges.mem_iff.mpr member)).2
  intro name member
  rw [UnitDecl.map_fst_entities, UnitDecl.map_fst_declared, List.map_append, List.mem_append,
    List.mem_append] at member
  rcases member with (atTop | inside) | outside
  · rw [List.map_map] at atTop
    exact charts.tops atTop
  · obtain ⟨address, listed, rfl⟩ := List.mem_map.mp inside
    obtain ⟨decl, declared, inClass⟩ := List.mem_flatMap.mp listed
    rw [← ClassDecl.map_address_members] at inClass
    obtain ⟨member, owned, rfl⟩ := List.mem_map.mp inClass
    refine linked (unit.memberEdge decl member) (List.mem_flatMap.mpr ⟨decl, declared, ?_⟩)
    exact List.mem_append_left _ (List.mem_map_of_mem owned)
  · obtain ⟨⟨decl, declared, base, listed, rfl⟩, absent⟩ := UnitDecl.mem_foreign.mp outside
    have target : (unit.baseEdge decl base).target = base.name := if_neg absent
    rw [← target]
    refine linked _ (List.mem_flatMap.mpr ⟨decl, declared, ?_⟩)
    exact List.mem_append_right _ (List.mem_map_of_mem listed)

end Graph

/-- A vertex as it is shown. -/
structure Vertex where
  name : String
  kind : String
  attributes : List (String × Json)

/-- The vertices of a listing as they are shown. -/
def Graph.Listing.shown (listing : Listing Entity) : List Vertex :=
  listing.vertices.map fun (name, entity) => ⟨name, entity.kind, entity.attributes⟩

def Json.texts (texts : List String) : Json := .array (texts.map .string)

namespace EnumDecl

def attributes (decl : EnumDecl) : List (String × Json) :=
  [("name", .string decl.name), ("modifiers", .texts decl.modifiers),
    ("members", .texts decl.members)]

end EnumDecl

namespace ClassDecl

/-- The vertices of the members of a class, each with all that its declaration says of it. -/
def vertices (package : String) (decl : ClassDecl) : List Vertex :=
  (decl.enums.map fun inner =>
    ⟨(Address.nested decl.name inner.name).text package, "Enum", inner.attributes⟩) ++
  (decl.fields.flatMap fun field => field.declarators.map fun (name, value) =>
    ⟨(Address.value decl.name name).text package, "Field",
      [("name", .string name), ("type_name", .string field.type),
        ("modifiers", .texts field.modifiers), ("value", (value.map Json.string).getD .null)]⟩) ++
  (decl.properties.map fun property =>
    ⟨(Address.value decl.name property.name).text package, "Property",
      [("name", .string property.name), ("type_name", .string property.type),
        ("has_getter", .bool property.getter.isSome),
        ("has_setter", .bool property.setter.isSome)]⟩) ++
  decl.methods.map fun method =>
    ⟨(Address.method decl.name method.name method.parameterTypes).text package, "Method",
      [("name", .string method.name), ("return_type", .string method.returnType),
        ("modifiers", .texts method.modifiers),
        ("parameters", .array (method.parameters.map fun parameter =>
          .texts [parameter.type, parameter.name]))]⟩

theorem map_members (package : String) (decl : ClassDecl) :
    decl.members.map (fun member => (⟨member.address.text package, member.entity.kind,
      member.entity.attributes⟩ : Vertex)) = decl.vertices package := by
  have optional : ∀ value : Option String,
      (value.map Json.string).getD .null = Entity.textOrNull value := by
    intro value
    cases value <;> rfl
  simp only [members, vertices, FieldDecl.members, optional, List.map_append, List.map_map,
    List.map_flatMap, Function.comp_def]
  rfl

end ClassDecl

namespace UnitDecl

/-- The vertices that a unit should have, one for each declaration and one for each base type from
elsewhere. -/
def vertices (unit : UnitDecl) : List Vertex :=
  (unit.enums.map fun decl =>
    ⟨(Address.top decl.name).text (unit.package.getD ""), "Enum", decl.attributes⟩) ++
  (unit.classes.map fun decl =>
    ⟨(Address.top decl.name).text (unit.package.getD ""), "Class",
      [("name", .string decl.name), ("modifiers", .texts decl.modifiers),
        ("is_final", .bool decl.isFinal)]⟩) ++
  unit.classes.flatMap (ClassDecl.vertices (unit.package.getD "")) ++
  unit.foreign.map fun name => ⟨name, "ExternalType", [("name", .string name)]⟩

theorem map_entities (unit : UnitDecl) :
    unit.entities.map (fun (name, entity) => (⟨name, entity.kind, entity.attributes⟩ : Vertex)) =
      unit.vertices := by
  have members : ClassDecl.vertices (unit.package.getD "") = fun decl => decl.members.map
      fun member => ⟨member.address.text (unit.package.getD ""), member.entity.kind,
        member.entity.attributes⟩ :=
    funext fun decl => (decl.map_members (unit.package.getD "")).symm
  rw [entities, declared, Graph.tops, vertices, members]
  simp only [List.map_append, List.map_map, List.map_flatMap, Function.comp_def]
  rfl

end UnitDecl

/-- The graph of a unit shows what the unit declares, each declaration once and with its kind and
attributes, and the base types from elsewhere, each name once; and its edges lead from each class
to its members and base types. -/
theorem ofUnit_faithful (unit : UnitDecl) (named : unit.WellNamed) :
    ∃ listing, (Graph.ofUnit unit).listing? = some listing ∧
      (listing.shown.map Vertex.name).Nodup ∧ listing.shown.Perm unit.vertices ∧
      listing.edges.Perm unit.edges := by
  obtain ⟨charts, edges⟩ := Graph.charts_ofUnit named
  obtain ⟨listing, found, vertices, listed⟩ := charts.sound.exists_listing
  have names : (Graph.ofUnit unit).names = listing.vertices.map Prod.fst := by
    rw [Graph.names, vertices, List.map_map]
    rfl
  have once := charts.sound.once
  have covered := charts.entities_subset edges
  rw [names] at once covered
  have within : listing.vertices ⊆ unit.entities := by
    intro vertex member
    obtain ⟨known, present, same⟩ := charts.within (vertex.1, some vertex.2)
      (vertices ▸ List.mem_map_of_mem member)
    obtain rfl : vertex = known := by simpa [Prod.ext_iff] using same
    exact present
  have permuted := perm_of_same_keys once named.nodup_entities within covered
  refine ⟨listing, found, ?_, ?_, listed ▸ edges⟩
  · rw [Graph.Listing.shown, List.map_map]
    exact once
  · rw [← UnitDecl.map_entities]
    exact permuted.map _

/-- Two classes, the first derived from the second and both from types declared elsewhere. -/
def orderUnit : UnitDecl where
  package := some "shop"
  enums := [{ name := "State", members := ["OPEN", "PAID"] }]
  classes := [
    { name := "Order", superclass := some "Entry", interfaces := ["Comparable", "Closeable"]
      enums := [{ name := "State" }]
      fields := [{ type := "int", modifiers := ["private"]
                   declarators := [("count", some "0"), ("total", none)] }]
      properties := [{ name := "add", type := "String", getter := some [] }]
      methods := [
        { name := "add", returnType := "void", parameters := [⟨"int", "count"⟩] },
        { name := "add", returnType := "void"
          parameters := [⟨"int", "count"⟩, ⟨"int", "price"⟩] }] },
    { name := "Entry", modifiers := ["abstract"], isFinal := true, superclass := some ""
      interfaces := ["Comparable"] }]

theorem ofUnit_faithful_orderUnit :
    orderUnit.WellNamed ∧
      ∃ listing, (Graph.ofUnit orderUnit).listing? = some listing ∧
        listing.shown.Perm [
          ⟨"shop.State", "Enum", [("name", .string "State"), ("modifiers", .array []),
            ("members", .array [.string "OPEN", .string "PAID"])]⟩,
          ⟨"shop.Order", "Class", [("name", .string "Order"), ("modifiers", .array []),
            ("is_final", .bool false)]⟩,
          ⟨"shop.Entry", "Class", [("name", .string "Entry"),
            ("modifiers", .array [.string "abstract"]), ("is_final", .bool true)]⟩,
          ⟨"shop.Order.State", "Enum", [("name", .string "State"), ("modifiers", .array []),
            ("members", .array [])]⟩,
          ⟨"shop.Order#count", "Field", [("name", .string "count"), ("type_name", .string "int"),
            ("modifiers", .array [.string "private"]), ("value", .string "0")]⟩,
          ⟨"shop.Order#total", "Field", [("name", .string "total"), ("type_name", .string "int"),
            ("modifiers", .array [.string "private"]), ("value", .null)]⟩,
          ⟨"shop.Order#add", "Property", [("name", .string "add"), ("type_name", .string "String"),
            ("has_getter", .bool true), ("has_setter", .bool false)]⟩,
          ⟨"shop.Order#add(int)", "Method", [("name", .string "add"),
            ("return_type", .string "void"), ("modifiers", .array []),
            ("parameters", .array [.array [.string "int", .string "count"]])]⟩,
          ⟨"shop.Order#add(int, int)", "Method", [("name", .string "add"),
            ("return_type", .string "void"), ("modifiers", .array []),
            ("parameters", .array [.array [.string "int", .string "count"],
              .array [.string "int", .string "price"]])]⟩,
          ⟨"Comparable", "ExternalType", [("name", .string "Comparable")]⟩,
          ⟨"Closeable", "ExternalType", [("name", .string "Closeable")]⟩] ∧
        listing.edges.Perm [
          ⟨"shop.Order", "shop.Order.State", "HAS_ENUM"⟩,
          ⟨"shop.Order", "shop.Order#count", "HAS_FIELD"⟩,
          ⟨"shop.Order", "shop.Order#total", "HAS_FIELD"⟩,
          ⟨"shop.Order", "shop.Order#add", "HAS_PROPERTY"⟩,
          ⟨"shop.Order", "shop.Order#add(int)", "HAS_METHOD"⟩,
          ⟨"shop.Order", "shop.Order#add(int, int)", "HAS_METHOD"⟩,
          ⟨"shop.Order", "shop.Entry", "INHERITS"⟩,
          ⟨"shop.Order", "Comparable", "IMPLEMENTS"⟩,
          ⟨"shop.Order", "Closeable", "IMPLEMENTS"⟩,
          ⟨"shop.Entry", "Comparable", "IMPLEMENTS"⟩] := by
  have named : orderUnit.WellNamed :=
    ⟨by decide, by decide, by decide, by decide, by decide⟩
  obtain ⟨listing, found, -, vertices, edges⟩ := ofUnit_faithful orderUnit named
  exact ⟨named, listing, found, vertices, edges⟩

end SharpToJava
