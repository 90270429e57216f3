import SharpToJava.Table

/-!
Directed graphs with named vertices and labelled edges. Parallel edges and loops are kept. A vertex
exists as soon as an edge names it, but it may be without data until it is added itself.

What is asked of a container for such graphs is said step by step (`Multigraph`): how the vertices
and the rows of edges change with one addition. `Graph` is such a container, and what is listed of
one is put together from its vertices and rows alone.
-/

namespace SharpToJava

structure Edge where
  source : String
  target : String
  label : String
  deriving DecidableEq, Repr, Inhabited

/-- Where the edges of one vertex lead: each target with the labels of the edges to it. -/
abbrev Row : Type := Table (List String)

namespace Row

/-- Adds an edge behind those with the same target. -/
def link (row : Row) (target label : String) : Row :=
  row.alter target fun labels => labels.getD [] ++ [label]

def edges (source : String) (row : Row) : List Edge :=
  row.flatMap fun entry => entry.2.map fun label => ⟨source, entry.1, label⟩

end Row

/-- A container that keeps what is put in, in the order in which it is put in. An edge makes sure
that its source is there and then its target. -/
class Multigraph (G : Type) (α : outParam Type) where
  empty : G
  addVertex : G → String → α → G
  addEdge : G → Edge → G
  /-- The names with the data added last. -/
  vertices : G → Table (Option α)
  /-- The names with the edges that leave them. -/
  adjacency : G → Table Row
  vertices_empty : vertices empty = []
  adjacency_empty : adjacency empty = []
  vertices_addVertex (graph : G) (name : String) (data : α) :
    vertices (addVertex graph name data) = (vertices graph).put name (some data)
  adjacency_addVertex (graph : G) (name : String) (data : α) :
    adjacency (addVertex graph name data) = (adjacency graph).ensure name []
  vertices_addEdge (graph : G) (edge : Edge) :
    vertices (addEdge graph edge) =
      ((vertices graph).ensure edge.source none).ensure edge.target none
  adjacency_addEdge (graph : G) (edge : Edge) :
    adjacency (addEdge graph edge) =
      (((adjacency graph).ensure edge.source []).ensure edge.target []).alter edge.source
        fun row => (row.getD []).link edge.target edge.label

/-- The names and their rows side by side. -/
structure Graph (α : Type) where
  vertices : Table (Option α) := []
  adjacency : Table Row := []
  deriving DecidableEq, Repr, Inhabited

namespace Graph

variable {α : Type}

def contains (graph : Graph α) (name : String) : Bool := graph.vertices.has name

/-- Adds a vertex, or gives new data to one that is there. -/
def addVertex (graph : Graph α) (name : String) (data : α) : Graph α where
  vertices := graph.vertices.put name (some data)
  adjacency := graph.adjacency.ensure name []

/-- Makes sure that a vertex exists. -/
def mention (graph : Graph α) (name : String) : Graph α where
  vertices := graph.vertices.ensure name none
  adjacency := graph.adjacency.ensure name []

/-- Adds an edge, and its ends where they are missing. -/
def addEdge (graph : Graph α) (edge : Edge) : Graph α :=
  let graph := (graph.mention edge.source).mention edge.target
  { graph with
    adjacency := graph.adjacency.alter edge.source fun row =>
      (row.getD []).link edge.target edge.label }

instance : Multigraph (Graph α) α where
  empty := {}
  addVertex := addVertex
  addEdge := addEdge
  vertices := vertices
  adjacency := adjacency
  vertices_empty := rfl
  adjacency_empty := rfl
  vertices_addVertex _ _ _ := rfl
  adjacency_addVertex _ _ _ := rfl
  vertices_addEdge _ _ := rfl
  adjacency_addEdge _ _ := rfl

/-- Every vertex and every edge of a graph. -/
structure Listing (α : Type) where
  vertices : List (String × α)
  edges : List Edge
  deriving DecidableEq, Repr, Inhabited

/-- The data of all vertices; none if one is without. -/
def allData? : List (String × Option α) → Option (List (String × α))
  | [] => some []
  | (name, some data) :: rest => (allData? rest).map ((name, data) :: ·)
  | (_, none) :: _ => none

end Graph

namespace Multigraph

variable {G α : Type} [Multigraph G α]

/-- The edges row by row. -/
def edges (graph : G) : List Edge :=
  (adjacency graph).flatMap fun entry => entry.2.edges entry.1

/-- There is no listing while a vertex is without data. -/
def listing? (graph : G) : Option (Graph.Listing α) :=
  (Graph.allData? (vertices graph)).map fun vertices => { vertices, edges := edges graph }

end Multigraph

namespace Graph

variable {α : Type}

def edges (graph : Graph α) : List Edge := Multigraph.edges graph

def listing? (graph : Graph α) : Option (Listing α) := Multigraph.listing? graph

end Graph

end SharpToJava
