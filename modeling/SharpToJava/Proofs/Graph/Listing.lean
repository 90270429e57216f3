import SharpToJava.Graph.Basic
import SharpToJava.Proofs.Lists

/-!
When a graph can be listed. In a sound graph every vertex is named once and has data, and every edge
joins two vertices. Such a graph has a listing, with all its vertices in order and all its edges,
each as often as it was added.
-/

namespace SharpToJava

theorem Row.edges_link_perm (source target label : String) (row : Row) :
    ((row.link target label).edges source).Perm
      (row.edges source ++ [⟨source, target, label⟩]) := by
  apply Table.flatMap_alter_perm
  · intro labels
    rw [Option.getD_some, List.map_append]
    rfl
  · rfl

namespace Graph

variable {α : Type} {graph : Graph α} {name : String} {data : α} {edge : Edge}

def names (graph : Graph α) : List String := graph.vertices.map Prod.fst

theorem contains_iff : graph.contains name = true ↔ name ∈ graph.names := Table.has_iff

theorem names_addVertex (graph : Graph α) (name : String) (data : α) :
    (graph.addVertex name data).names =
      if name ∈ graph.names then graph.names else graph.names ++ [name] :=
  Table.map_fst_alter _ _ _

theorem mem_names_addVertex {other : String} :
    other ∈ (graph.addVertex name data).names ↔ other ∈ graph.names ∨ other = name :=
  Table.mem_map_fst_alter

theorem mem_vertices_addVertex {vertex : String × Option α}
    (member : vertex ∈ (graph.addVertex name data).vertices) :
    vertex = (name, some data) ∨ vertex ∈ graph.vertices := by
  rcases Table.mem_alter member with before | added
  · exact .inr before
  · obtain ⟨found, rfl⟩ := added
    exact .inl rfl

/-- Between vertices that are there an edge adds no vertex. -/
theorem vertices_addEdge (source : edge.source ∈ graph.names) (target : edge.target ∈ graph.names) :
    (graph.addEdge edge).vertices = graph.vertices := by
  have ends : (graph.addEdge edge).vertices =
      (graph.vertices.ensure edge.source none).ensure edge.target none := rfl
  rw [ends, Table.ensure_of_mem source, Table.ensure_of_mem target]

theorem names_addEdge (source : edge.source ∈ graph.names) (target : edge.target ∈ graph.names) :
    (graph.addEdge edge).names = graph.names := by
  rw [names, vertices_addEdge source target, names]

theorem edges_empty : ({} : Graph α).edges = [] := rfl

theorem edges_addVertex (graph : Graph α) (name : String) (data : α) :
    (graph.addVertex name data).edges = graph.edges :=
  graph.adjacency.flatMap_ensure name rfl

theorem edges_mention (graph : Graph α) (name : String) :
    (graph.mention name).edges = graph.edges :=
  graph.adjacency.flatMap_ensure name rfl

/-- Wherever it is put, an edge is added once. -/
theorem edges_addEdge_perm (graph : Graph α) (edge : Edge) :
    (graph.addEdge edge).edges.Perm (graph.edges ++ [edge]) := by
  have ends : ((graph.mention edge.source).mention edge.target).edges = graph.edges := by
    rw [edges_mention, edges_mention]
  rw [← ends]
  apply Table.flatMap_alter_perm
  · exact fun row => row.edges_link_perm edge.source edge.target edge.label
  · rfl

structure Sound (graph : Graph α) : Prop where
  once : graph.names.Nodup
  described : ∀ vertex ∈ graph.vertices, vertex.2.isSome = true
  anchored : ∀ edge ∈ graph.edges, edge.source ∈ graph.names ∧ edge.target ∈ graph.names

theorem sound_empty : Sound ({} : Graph α) where
  once := List.nodup_nil
  described := by simp
  anchored := by simp [edges_empty]

theorem Sound.addVertex (sound : graph.Sound) (name : String) (data : α) :
    (graph.addVertex name data).Sound where
  once := by
    rw [names_addVertex]
    split
    case isTrue => exact sound.once
    case isFalse fresh =>
      rw [← List.concat_eq_append]
      exact sound.once.concat fresh
  described vertex member := by
    rcases mem_vertices_addVertex member with rfl | before
    · rfl
    · exact sound.described vertex before
  anchored edge member := by
    rw [edges_addVertex] at member
    obtain ⟨source, target⟩ := sound.anchored edge member
    exact ⟨mem_names_addVertex.mpr (.inl source), mem_names_addVertex.mpr (.inl target)⟩

theorem Sound.addEdge (sound : graph.Sound) (source : edge.source ∈ graph.names)
    (target : edge.target ∈ graph.names) : (graph.addEdge edge).Sound where
  once := by
    rw [names_addEdge source target]
    exact sound.once
  described := by
    rw [vertices_addEdge source target]
    exact sound.described
  anchored other member := by
    rw [names_addEdge source target]
    rcases List.mem_append.mp ((edges_addEdge_perm graph edge).subset member) with before | last
    · exact sound.anchored other before
    · rw [List.mem_singleton.mp last]
      exact ⟨source, target⟩

theorem exists_allData? {vertices : List (String × Option α)}
    (described : ∀ vertex ∈ vertices, vertex.2.isSome = true) :
    ∃ listed, allData? vertices = some listed ∧
      vertices = listed.map fun vertex => (vertex.1, some vertex.2) := by
  induction vertices with
  | nil => exact ⟨[], rfl, rfl⟩
  | cons vertex rest ih =>
      obtain ⟨name, found⟩ := vertex
      obtain ⟨listed, all, same⟩ := ih fun later member =>
        described later (List.mem_cons_of_mem _ member)
      cases found with
      | none => simpa using described _ List.mem_cons_self
      | some data => exact ⟨(name, data) :: listed, by rw [allData?, all]; rfl, by rw [same]; rfl⟩

theorem listing?_eq (graph : Graph α) :
    graph.listing? =
      (allData? graph.vertices).map fun vertices => { vertices, edges := graph.edges } := rfl

/-- A sound graph has a listing, which leaves out nothing and adds nothing. -/
theorem Sound.exists_listing (sound : graph.Sound) :
    ∃ listing, graph.listing? = some listing ∧
      graph.vertices = (listing.vertices.map fun vertex => (vertex.1, some vertex.2)) ∧
      listing.edges = graph.edges := by
  obtain ⟨listed, all, same⟩ := exists_allData? sound.described
  exact ⟨_, by rw [listing?_eq, all, Option.map_some], same, rfl⟩

end Graph

end SharpToJava
