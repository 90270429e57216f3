import SharpToJava.Proofs.Graph.Faithful

/-!
The order of the classes of a unit makes no difference to its graph. A vertex shows what was written
last under its name, so names may be written twice; but what two classes write is kept apart by
their names, and no base type is named like a member. So looking up a base type finds the same
vertex at whatever time it is done, and the last one to write under a name is the same.
-/

namespace SharpToJava

/-- A name without the marks that end the name of a class. -/
def Text.IsUnmarked (name : String) : Prop := '.' ∉ name.toList ∧ '#' ∉ name.toList

instance : DecidablePred Text.IsUnmarked := fun _ => inferInstanceAs (Decidable (_ ∧ _))

theorem Graph.qualify_eq_self {package name : String}
    (unmarked : Text.IsUnmarked (qualify package name)) : qualify package name = name := by
  unfold qualify at unmarked ⊢
  split at unmarked
  case isTrue empty => rw [if_pos empty]
  case isFalse => exact absurd (by simp) unmarked.1

namespace Address

theorem not_isMark_of_unmarked {name : String} (unmarked : Text.IsUnmarked name) :
    ∀ c ∈ name.toList, isMark c = false := by
  intro c member
  have noDot : c ≠ '.' := fun same => unmarked.1 (same ▸ member)
  have noHash : c ≠ '#' := fun same => unmarked.2 (same ▸ member)
  simp [isMark, noDot, noHash]

/-- The name of a class can be read off the vertices of its members. -/
theorem head_eq_of_text_eq {package : String} {first second : Address}
    (unmarked : Text.IsUnmarked first.head) (unmarkedToo : Text.IsUnmarked second.head)
    (same : first.text package = second.text package) :
    first.head = second.head ∧ first.tail = second.tail := by
  have lists := congrArg String.toList (Graph.qualify_injective same)
  rw [toList_path, toList_path] at lists
  obtain ⟨heads, tails⟩ := append_inj_of_cut (not_isMark_of_unmarked unmarked)
    (not_isMark_of_unmarked unmarkedToo) (isMark_head_tail first) (isMark_head_tail second) lists
  exact ⟨String.toList_inj.mp heads, tails⟩

theorem eq_top_of_tail_eq_nil {address : Address} (bare : address.tail = []) :
    address = .top address.head := by
  cases address <;> first | rfl | cases bare

end Address

/-- What was written last under a name. -/
def lastWritten {α : Type} (writes : List (String × α)) (name : String) : Option α :=
  (writes.filter (·.1 == name)).getLast?.map Prod.snd

theorem lastWritten_concat {α : Type} (writes : List (String × α)) (key name : String) (data : α) :
    lastWritten (writes ++ [(key, data)]) name =
      if key = name then some data else lastWritten writes name := by
  unfold lastWritten
  rw [List.filter_append]
  split
  case isTrue here => simp [here]
  case isFalse elsewhere => simp [elsewhere]

theorem mem_of_lastWritten {α : Type} {writes : List (String × α)} {name : String} {data : α}
    (found : lastWritten writes name = some data) : (name, data) ∈ writes := by
  obtain ⟨⟨key, value⟩, last, rfl⟩ := Option.map_eq_some_iff.mp found
  obtain ⟨present, here⟩ := List.mem_filter.mp (List.mem_of_getLast? last)
  obtain rfl : key = name := by simpa using here
  exact present

namespace Graph

variable {graph : Graph Entity} {writes : List (String × Entity)}

/-- After an addition a vertex is the one added, or an earlier one with another name. -/
theorem Sound.mem_vertices_addVertex_iff {α : Type} {graph : Graph α} (sound : graph.Sound)
    {name : String} {data : α} {vertex : String × Option α} :
    vertex ∈ (graph.addVertex name data).vertices ↔
      vertex = (name, some data) ∨ vertex.1 ≠ name ∧ vertex ∈ graph.vertices :=
  Table.mem_put_iff sound.once

/-- A sound graph that shows what was written last under each name, and beyond that only types from
elsewhere. -/
structure Shows (foreign : List String) (writes : List (String × Entity)) (graph : Graph Entity) :
    Prop where
  sound : graph.Sound
  last : ∀ name entity, lastWritten writes name = some entity →
    (name, some entity) ∈ graph.vertices
  others : ∀ vertex ∈ graph.vertices, lastWritten writes vertex.1 = none →
    vertex.1 ∈ foreign ∧ vertex.2 = some (.externalType vertex.1)

theorem shows_empty (foreign : List String) : ({} : Graph Entity).Shows foreign [] where
  sound := sound_empty
  last := nofun
  others := nofun

theorem Shows.addVertex {foreign : List String} (shows : graph.Shows foreign writes) (name : String)
    (entity : Entity) :
    (graph.addVertex name entity).Shows foreign (writes ++ [(name, entity)]) where
  sound := shows.sound.addVertex name entity
  last other found given := by
    rw [lastWritten_concat] at given
    refine shows.sound.mem_vertices_addVertex_iff.mpr ?_
    split at given
    case isTrue here =>
      cases given
      exact .inl (by rw [here])
    case isFalse elsewhere => exact .inr ⟨Ne.symm elsewhere, shows.last other found given⟩
  others vertex member given := by
    rw [lastWritten_concat] at given
    split at given
    case isTrue => cases given
    case isFalse elsewhere =>
      rcases shows.sound.mem_vertices_addVertex_iff.mp member with rfl | ⟨-, before⟩
      · exact absurd rfl elsewhere
      · exact shows.others vertex before given

/-- A type from elsewhere gets a vertex of its own. -/
theorem Shows.addForeign {foreign : List String} (shows : graph.Shows foreign writes)
    {name : String} (listed : name ∈ foreign) (fresh : name ∉ graph.names) :
    (graph.addVertex name (.externalType name)).Shows foreign writes where
  sound := shows.sound.addVertex name _
  last other found given := by
    have before := shows.last other found given
    refine shows.sound.mem_vertices_addVertex_iff.mpr (.inr ⟨fun same => fresh ?_, before⟩)
    exact same ▸ List.mem_map_of_mem before
  others vertex member given := by
    rcases shows.sound.mem_vertices_addVertex_iff.mp member with rfl | ⟨-, before⟩
    · exact ⟨listed, rfl⟩
    · exact shows.others vertex before given

theorem Shows.addEdge {foreign : List String} (shows : graph.Shows foreign writes) {edge : Edge}
    (source : edge.source ∈ graph.names) (target : edge.target ∈ graph.names) :
    (graph.addEdge edge).Shows foreign writes where
  sound := shows.sound.addEdge source target
  last := by
    rw [vertices_addEdge source target]
    exact shows.last
  others := by
    rw [vertices_addEdge source target]
    exact shows.others

theorem Shows.tops {foreign : List String} (shows : graph.Shows foreign writes) (package : String)
    (tops : List (String × Entity)) :
    (tops.foldl (addTop package) graph).Shows foreign
      (writes ++ tops.map fun top => (qualify package top.1, top.2)) := by
  induction tops generalizing graph writes with
  | nil => simpa using shows
  | cons top rest ih =>
      have later := ih (shows.addVertex (qualify package top.1) top.2)
      rwa [List.append_assoc] at later

end Graph

/-- Names have no marks in them and classes have different names; other names may be shared. -/
structure UnitDecl.Unmarked (unit : UnitDecl) : Prop where
  names : ∀ name ∈ unit.enums.map (·.name) ++ unit.classes.flatMap (·.names), Text.IsUnmarked name
  classes : (unit.classes.map (·.name)).Nodup

namespace ClassDecl

/-- All that is written into the graph for the members of a class, in order. -/
def writes (package : String) (decl : ClassDecl) : List (String × Entity) :=
  decl.members.map fun member => (member.address.text package, member.entity)

end ClassDecl

namespace UnitDecl

variable {unit : UnitDecl}

/-- All that is written into the graph for what a unit declares, in order. -/
def writes (unit : UnitDecl) : List (String × Entity) :=
  (Graph.tops unit).map (fun top => (Graph.qualify (unit.package.getD "") top.1, top.2)) ++
    unit.classes.flatMap (ClassDecl.writes (unit.package.getD ""))

theorem writes_eq_map_declared (unit : UnitDecl) :
    unit.writes = unit.declared.map fun (address, entity) =>
      (address.text (unit.package.getD ""), entity) := by
  have inClass : ClassDecl.writes (unit.package.getD "") = fun decl =>
      decl.members.map fun member => (member.address.text (unit.package.getD ""), member.entity) :=
    rfl
  rw [writes, declared, inClass, List.map_append, List.map_map, List.map_flatMap]
  simp only [List.map_map]
  rfl

theorem Unmarked.className (unmarked : unit.Unmarked) {decl : ClassDecl}
    (member : decl ∈ unit.classes) : Text.IsUnmarked decl.name :=
  unmarked.names _ (names_subset member (by simp [ClassDecl.names]))

theorem Unmarked.base (unmarked : unit.Unmarked) {decl : ClassDecl} (member : decl ∈ unit.classes)
    {base : Base} (listed : base ∈ decl.bases) : Text.IsUnmarked base.name :=
  unmarked.names _ (names_subset member (baseName_mem_names listed))

theorem Unmarked.head (unmarked : unit.Unmarked) {address : Address}
    (member : address ∈ unit.declared.map Prod.fst) : Text.IsUnmarked address.head := by
  rw [map_fst_declared] at member
  rcases List.mem_append.mp member with atTop | inside
  · obtain ⟨name, listed, rfl⟩ := List.mem_map.mp atTop
    exact unmarked.names name (topNames_subset unit listed)
  · obtain ⟨decl, declared, inClass⟩ := List.mem_flatMap.mp inside
    rw [(ClassDecl.owner_of_mem_addresses inClass).1]
    exact unmarked.className declared

/-- Where a base type would be declared, nothing is written unless the unit declares it. -/
theorem Unmarked.mem_topNames (unmarked : unit.Unmarked) {name : String} {entity : Entity}
    (bare : Text.IsUnmarked name)
    (written : (Graph.qualify (unit.package.getD "") name, entity) ∈ unit.writes) :
    name ∈ unit.topNames := by
  rw [writes_eq_map_declared] at written
  obtain ⟨⟨address, _⟩, declared, same⟩ := List.mem_map.mp written
  have listed : address ∈ unit.declared.map Prod.fst := List.mem_map_of_mem declared
  have sameText : address.text (unit.package.getD "") = (Address.top name).text _ :=
    congrArg Prod.fst same
  have bareHead : Text.IsUnmarked (Address.top name).head := bare
  obtain ⟨heads, tails⟩ := Address.head_eq_of_text_eq (unmarked.head listed) bareHead sameText
  obtain rfl : address = .top name := by
    rw [Address.eq_top_of_tail_eq_nil tails, heads]
    rfl
  rw [map_fst_declared] at listed
  rcases List.mem_append.mp listed with atTop | inside
  · simpa using atTop
  · obtain ⟨decl, -, inClass⟩ := List.mem_flatMap.mp inside
    exact absurd rfl ((ClassDecl.owner_of_mem_addresses inClass).2 name)

end UnitDecl

namespace Graph

variable {unit : UnitDecl} {graph : Graph Entity} {writes : List (String × Entity)}
  {edges : List Edge}

/-- A graph on its way to that of the unit: what was written so far, and the edges so far. -/
structure Records (unit : UnitDecl) (writes : List (String × Entity)) (edges : List Edge)
    (graph : Graph Entity) : Prop where
  shows : graph.Shows unit.foreign writes
  edges : graph.edges.Perm edges
  tops : unit.topNames.map (qualify (unit.package.getD "")) ⊆ graph.names
  known : writes ⊆ unit.writes

theorem Records.addEdge (records : graph.Records unit writes edges) {edge : Edge}
    (source : edge.source ∈ graph.names) (target : edge.target ∈ graph.names) :
    (graph.addEdge edge).Records unit writes (edges ++ [edge]) where
  shows := records.shows.addEdge source target
  edges := (edges_addEdge_perm graph edge).trans (records.edges.append_right [edge])
  tops := by
    rw [names_addEdge source target]
    exact records.tops
  known := records.known

theorem Records.edges_addVertex (records : graph.Records unit writes edges) (name : String)
    (entity : Entity) : (graph.addVertex name entity).edges.Perm edges := by
  rw [Graph.edges_addVertex]
  exact records.edges

theorem Records.owner_mem (records : graph.Records unit writes edges) {decl : ClassDecl}
    (member : decl ∈ unit.classes) : qualify (unit.package.getD "") decl.name ∈ graph.names :=
  records.tops (List.mem_map_of_mem (List.mem_append_right _ (List.mem_map_of_mem member)))

theorem Records.addOwned (records : graph.Records unit writes edges) {decl : ClassDecl}
    (declared : decl ∈ unit.classes) {member : Member} (listed : member ∈ decl.members) :
    (addOwned (unit.package.getD "") decl graph member).Records unit
      (writes ++ [(member.address.text (unit.package.getD ""), member.entity)])
      (edges ++ [unit.memberEdge decl member]) := by
  have inUnit : (member.address.text (unit.package.getD ""), member.entity) ∈ unit.writes := by
    rw [UnitDecl.writes_eq_map_declared]
    exact List.mem_map.mpr ⟨_, mem_declared_of_member declared listed, rfl⟩
  have vertex : (graph.addVertex (member.address.text (unit.package.getD "")) member.entity).Records
      unit (writes ++ [(member.address.text (unit.package.getD ""), member.entity)]) edges :=
    ⟨records.shows.addVertex _ _, records.edges_addVertex _ _,
      fun _ top => mem_names_addVertex.mpr (.inl (records.tops top)),
      List.append_subset.mpr ⟨records.known, by simpa using inUnit⟩⟩
  exact vertex.addEdge (vertex.owner_mem declared) (mem_names_addVertex.mpr (.inr rfl))

/-- With the package before it, a base type from elsewhere is found only if there is no package. -/
theorem Records.qualify_eq_self (records : graph.Records unit writes edges)
    (unmarked : unit.Unmarked) {name : String} (bare : Text.IsUnmarked name)
    (absent : name ∉ unit.topNames)
    (here : qualify (unit.package.getD "") name ∈ graph.names) :
    qualify (unit.package.getD "") name = name := by
  obtain ⟨vertex, member, named⟩ := List.mem_map.mp here
  cases written : lastWritten writes vertex.1 with
  | some entity =>
      have listed := records.known (mem_of_lastWritten written)
      rw [named] at listed
      exact absurd (unmarked.mem_topNames bare listed) absent
  | none =>
      have foreign := (records.shows.others vertex member written).1
      obtain ⟨⟨decl, declared, base, listed, same⟩, -⟩ := UnitDecl.mem_foreign.mp foreign
      apply Graph.qualify_eq_self
      rw [← named, ← same]
      exact unmarked.base declared listed

/-- Whatever was added so far, a base type is found where it belongs. -/
theorem Records.resolve (records : graph.Records unit writes edges) (unmarked : unit.Unmarked)
    {decl : ClassDecl} (declared : decl ∈ unit.classes) {base : Base}
    (listed : base ∈ decl.bases) :
    (graph.resolve (unit.package.getD "") base.name).1.Records unit writes edges ∧
      (graph.resolve (unit.package.getD "") base.name).2 = unit.target base.name := by
  by_cases atTop : base.name ∈ unit.topNames
  · rw [resolve_of_local (records.tops (List.mem_map_of_mem atTop)), UnitDecl.target, if_pos atTop]
    exact ⟨records, rfl⟩
  rw [UnitDecl.target, if_neg atTop]
  by_cases here : qualify (unit.package.getD "") base.name ∈ graph.names
  · rw [resolve_of_local here]
    exact ⟨records, records.qualify_eq_self unmarked (unmarked.base declared listed) atTop here⟩
  by_cases known : base.name ∈ graph.names
  · rw [resolve_of_known here known]
    exact ⟨records, rfl⟩
  · rw [resolve_of_new here known]
    have foreign : base.name ∈ unit.foreign :=
      UnitDecl.mem_foreign.mpr ⟨⟨decl, declared, base, listed, rfl⟩, atTop⟩
    exact ⟨⟨records.shows.addForeign foreign known, records.edges_addVertex _ _,
      fun _ top => mem_names_addVertex.mpr (.inl (records.tops top)), records.known⟩, rfl⟩

theorem Records.linkBase (records : graph.Records unit writes edges) (unmarked : unit.Unmarked)
    {decl : ClassDecl} (declared : decl ∈ unit.classes) {base : Base}
    (listed : base ∈ decl.bases) :
    (linkBase (unit.package.getD "") decl graph base).Records unit writes
      (edges ++ [unit.baseEdge decl base]) := by
  obtain ⟨looked, target⟩ := records.resolve unmarked declared listed
  have present := (grows_resolve records.shows.sound (unit.package.getD "") base.name).2
  rw [target] at present
  rw [Graph.linkBase, addBase_eq, target]
  exact looked.addEdge (looked.owner_mem declared) present

theorem Records.foldl {α : Type} (records : graph.Records unit writes edges) (items : List α)
    (step : Graph Entity → α → Graph Entity) (written : α → List (String × Entity))
    (linked : α → List Edge)
    (each : ∀ item ∈ items, ∀ graph writes edges, graph.Records unit writes edges →
      (step graph item).Records unit (writes ++ written item) (edges ++ linked item)) :
    (items.foldl step graph).Records unit (writes ++ items.flatMap written)
      (edges ++ items.flatMap linked) := by
  induction items generalizing graph writes edges with
  | nil => simpa using records
  | cons item rest ih =>
      have later := ih (each item List.mem_cons_self graph writes edges records) fun other member =>
        each other (List.mem_cons_of_mem _ member)
      rwa [List.append_assoc, List.append_assoc] at later

theorem Records.addClass (records : graph.Records unit writes edges) (unmarked : unit.Unmarked)
    {decl : ClassDecl} (declared : decl ∈ unit.classes) :
    (addClass (unit.package.getD "") graph decl).Records unit
      (writes ++ decl.writes (unit.package.getD ""))
      (edges ++ (decl.members.map (unit.memberEdge decl) ++
        decl.bases.map (unit.baseEdge decl))) := by
  have filled := records.foldl decl.members (Graph.addOwned (unit.package.getD "") decl)
    (fun member => [(member.address.text (unit.package.getD ""), member.entity)])
    (fun member => [unit.memberEdge decl member]) fun _ listed _ _ _ now =>
      now.addOwned declared listed
  have linked := filled.foldl decl.bases (Graph.linkBase (unit.package.getD "") decl)
    (fun _ => []) (fun base => [unit.baseEdge decl base]) fun _ listed _ _ _ now => by
      rw [List.append_nil]
      exact now.linkBase unmarked declared listed
  have silent : decl.bases.flatMap (fun _ => ([] : List (String × Entity))) = [] := by simp
  rw [silent, List.append_nil, List.append_assoc] at linked
  rw [addClass_eq, ClassDecl.writes, List.map_eq_flatMap, List.map_eq_flatMap, List.map_eq_flatMap]
  exact linked

theorem records_tops (unit : UnitDecl) :
    ((tops unit).foldl (addTop (unit.package.getD "")) {}).Records unit
      ((tops unit).map fun top => (qualify (unit.package.getD "") top.1, top.2)) [] where
  shows := (shows_empty unit.foreign).tops _ _
  edges := by rw [(sound_tops _ _ sound_empty).2.1, edges_empty]
  tops := (charts_tops unit).tops
  known := List.subset_append_left _ _

theorem records_ofUnit (unmarked : unit.Unmarked) :
    (ofUnit unit).Records unit unit.writes unit.edges := by
  have records := (records_tops unit).foldl unit.classes
    (Graph.addClass (unit.package.getD "")) _ _ fun _ declared _ _ _ now =>
      now.addClass unmarked declared
  rw [ofUnit_eq]
  exact records

theorem Records.foreign_mem (records : graph.Records unit writes unit.edges) {name : String}
    (outside : name ∈ unit.foreign) : name ∈ graph.names := by
  obtain ⟨⟨decl, declared, base, listed, rfl⟩, absent⟩ := UnitDecl.mem_foreign.mp outside
  have target : (unit.baseEdge decl base).target = base.name := if_neg absent
  rw [← target]
  have linked : unit.baseEdge decl base ∈ unit.edges := List.mem_flatMap.mpr
    ⟨decl, declared, List.mem_append_right _ (List.mem_map_of_mem listed)⟩
  exact (records.shows.sound.anchored _ (records.edges.mem_iff.mpr linked)).2

/-- The vertices of the graph, said without the order in which they were added. -/
theorem Records.mem_vertices_iff (records : graph.Records unit writes unit.edges)
    {vertex : String × Option Entity} :
    vertex ∈ graph.vertices ↔
      match lastWritten writes vertex.1 with
      | some entity => vertex.2 = some entity
      | none => vertex.1 ∈ unit.foreign ∧ vertex.2 = some (.externalType vertex.1) := by
  have once := records.shows.sound.once
  cases written : lastWritten writes vertex.1 with
  | some entity =>
      have present := records.shows.last _ _ written
      constructor
      · intro member
        rw [List.inj_on_of_nodup_map once member present rfl]
      · intro same
        rwa [← same] at present
  | none =>
      refine ⟨fun member => records.shows.others vertex member written, ?_⟩
      rintro ⟨foreign, same⟩
      obtain ⟨known, present, named⟩ := List.mem_map.mp (records.foreign_mem foreign)
      have alike := (records.shows.others known present (named ▸ written)).2
      rwa [show vertex = known from Prod.ext named.symm (by rw [same, alike, named])]

end Graph

namespace UnitDecl

variable {unit : UnitDecl} {classes : List ClassDecl}

theorem mem_topNames_of_perm (permuted : classes.Perm unit.classes) {name : String} :
    name ∈ ({ unit with classes } : UnitDecl).topNames ↔ name ∈ unit.topNames := by
  simp [topNames, permuted.mem_iff]

theorem mem_foreign_of_perm (permuted : classes.Perm unit.classes) {name : String} :
    name ∈ ({ unit with classes } : UnitDecl).foreign ↔ name ∈ unit.foreign := by
  simp only [mem_foreign, mem_topNames_of_perm permuted, permuted.mem_iff]

theorem edges_perm (permuted : classes.Perm unit.classes) :
    ({ unit with classes } : UnitDecl).edges.Perm unit.edges := by
  have targets : ({ unit with classes } : UnitDecl).target = unit.target := by
    funext base
    simp only [target, mem_topNames_of_perm permuted]
  have links : ({ unit with classes } : UnitDecl).baseEdge = unit.baseEdge := by
    unfold baseEdge
    rw [targets]
  unfold edges
  rw [links]
  exact permuted.flatMap_right _

theorem Unmarked.of_perm (unmarked : unit.Unmarked) (permuted : classes.Perm unit.classes) :
    ({ unit with classes } : UnitDecl).Unmarked where
  names name member := by
    apply unmarked.names
    simpa only [List.mem_append, List.mem_flatMap, permuted.mem_iff] using member
  classes := (permuted.map _).nodup_iff.mpr unmarked.classes

/-- What has the name of its class as a head is kept apart by it. -/
theorem Unmarked.apart (unmarked : unit.Unmarked) (writes : ClassDecl → List (String × Entity))
    (owned : ∀ decl ∈ unit.classes, ∀ write ∈ writes decl, ∃ address : Address,
      address.head = decl.name ∧ address.text (unit.package.getD "") = write.1) (name : String) :
    unit.classes.Pairwise fun decl other =>
      (writes decl).filter (·.1 == name) = [] ∨ (writes other).filter (·.1 == name) = [] := by
  have distinct : unit.classes.Pairwise fun decl other => decl.name ≠ other.name :=
    List.pairwise_map.mp unmarked.classes
  refine distinct.imp_of_mem fun {decl other} member memberToo differ => ?_
  by_contra both
  obtain ⟨hits, hitsToo⟩ := not_or.mp both
  obtain ⟨write, hit⟩ := List.exists_mem_of_ne_nil _ hits
  obtain ⟨writeToo, hitToo⟩ := List.exists_mem_of_ne_nil _ hitsToo
  obtain ⟨listed, here⟩ := List.mem_filter.mp hit
  obtain ⟨listedToo, hereToo⟩ := List.mem_filter.mp hitToo
  obtain ⟨address, head, text⟩ := owned decl member write listed
  obtain ⟨addressToo, headToo, textToo⟩ := owned other memberToo writeToo listedToo
  have same : address.text (unit.package.getD "") = addressToo.text (unit.package.getD "") := by
    rw [text, textToo, eq_of_beq here, eq_of_beq hereToo]
  refine differ ?_
  rw [← head, ← headToo]
  exact (Address.head_eq_of_text_eq (head ▸ unmarked.className member)
    (headToo ▸ unmarked.className memberToo) same).1

/-- Whatever writes under one name belongs to one class. -/
theorem Unmarked.lastWritten_of_perm (unmarked : unit.Unmarked)
    (permuted : classes.Perm unit.classes) (name : String) :
    lastWritten ({ unit with classes } : UnitDecl).writes name = lastWritten unit.writes name := by
  unfold lastWritten
  congr 2
  simp only [writes, Graph.tops, List.map_append, List.map_map, List.filter_append]
  congr 1
  · congr 1
    rw [List.map_eq_flatMap, List.map_eq_flatMap]
    refine (filter_flatMap_eq_of_perm permuted.symm (unmarked.apart _ ?_ name)).symm
    intro decl _ write member
    exact ⟨.top decl.name, rfl, by rw [List.mem_singleton.mp member]; rfl⟩
  · refine (filter_flatMap_eq_of_perm permuted.symm (unmarked.apart _ ?_ name)).symm
    intro decl _ write member
    obtain ⟨inClass, listed, rfl⟩ := List.mem_map.mp member
    have inside : inClass.address ∈ decl.addresses :=
      ClassDecl.map_address_members decl ▸ List.mem_map_of_mem listed
    exact ⟨inClass.address, (ClassDecl.owner_of_mem_addresses inside).1, rfl⟩

end UnitDecl

/-- The graph of a unit is the same in whatever order its classes stand: it has the same vertices
with the same data, each name once, and the same edges. -/
theorem ofUnit_perm (unit : UnitDecl) (unmarked : unit.Unmarked) (classes : List ClassDecl)
    (permuted : classes.Perm unit.classes) :
    (Graph.ofUnit { unit with classes }).vertices.Perm (Graph.ofUnit unit).vertices ∧
      (Graph.ofUnit { unit with classes }).edges.Perm (Graph.ofUnit unit).edges ∧
      (Graph.ofUnit unit).names.Nodup := by
  have records := Graph.records_ofUnit unmarked
  have recordsToo := Graph.records_ofUnit (unmarked.of_perm permuted)
  refine ⟨?_, ?_, records.shows.sound.once⟩
  · refine (List.perm_ext_iff_of_nodup recordsToo.shows.sound.once.of_map
      records.shows.sound.once.of_map).mpr fun vertex => ?_
    rw [records.mem_vertices_iff, recordsToo.mem_vertices_iff,
      unmarked.lastWritten_of_perm permuted,
      UnitDecl.mem_foreign_of_perm permuted]
  · exact recordsToo.edges.trans ((UnitDecl.edges_perm permuted).trans records.edges.symm)

/-- Names are shared wherever they may be: an enum and a class, and a field and a property. -/
def sharedUnit : UnitDecl where
  enums := [{ name := "Entry", members := ["OPEN"] }]
  classes := [
    { name := "Order", superclass := some "Entry", interfaces := ["Comparable(int)"]
      fields := [{ type := "int", declarators := [("total", some "0"), ("total", none)] }]
      properties := [{ name := "total", type := "String", getter := some [] }] },
    { name := "Entry", superclass := some "Order", interfaces := ["Comparable(int)"] }]

theorem ofUnit_perm_sharedUnit :
    sharedUnit.Unmarked ∧ sharedUnit.classes.reverse.Perm sharedUnit.classes ∧
      (Graph.ofUnit { sharedUnit with classes := sharedUnit.classes.reverse }).vertices.Perm
        (Graph.ofUnit sharedUnit).vertices ∧
      (Graph.ofUnit { sharedUnit with classes := sharedUnit.classes.reverse }).edges.Perm
        (Graph.ofUnit sharedUnit).edges ∧
      (Graph.ofUnit sharedUnit).names.Nodup := by
  have unmarked : sharedUnit.Unmarked := ⟨by decide, by decide⟩
  have permuted := sharedUnit.classes.reverse_perm
  exact ⟨unmarked, permuted, ofUnit_perm sharedUnit unmarked _ permuted⟩

end SharpToJava
