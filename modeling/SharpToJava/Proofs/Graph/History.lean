import SharpToJava.Proofs.Graph.Order
import SharpToJava.Session

/-!
The listing of a graph after any history. A container keeps its names in the order in which vertices
and edges first mentioned them, with the data written last; so it can be listed as soon as every end
of an edge was written once. The row of a name holds the targets in the order in which they were
first linked. So the edges are listed group by group, and this is said of the history alone: by
source, then by target, each as it first occurred, and parallel edges as they came.
-/

namespace SharpToJava

namespace Table

variable {β : Type} {key : String}

theorem alter_map_of_mem {keys : List String} (once : keys.Nodup) (known : key ∈ keys)
    (found : String → β) (change : Option β → β) :
    alter (keys.map fun name => (name, found name)) key change = keys.map fun name =>
      (name, if name = key then change (some (found name)) else found name) := by
  induction keys with
  | nil => simp at known
  | cons first rest ih =>
      obtain ⟨new, later⟩ := List.nodup_cons.mp once
      rw [List.map_cons, List.map_cons, alter]
      by_cases here : first = key
      · subst here
        have same : (rest.map fun name => (name, found name)) = rest.map fun name =>
            (name, if name = first then change (some (found name)) else found name) := by
          apply List.map_congr_left
          intro name member
          have differs : name ≠ first := fun equal => new (equal ▸ member)
          rw [if_neg differs]
        rw [if_pos rfl, if_pos rfl, same]
      · have inside : key ∈ rest := (List.mem_cons.mp known).resolve_left (Ne.symm here)
        rw [if_neg here, if_neg here, ih later inside]

/-- Names in the order of their first mention, each with what is found for it. -/
def recorded (names : List String) (found : String → β) : Table β :=
  names.eraseDups.map fun name => (name, found name)

/-- A change is one more mention of its key. -/
theorem alter_recorded (names : List String) (found : String → β) (key : String)
    (change : Option β → β) :
    (recorded names found).alter key change = recorded (names ++ [key]) fun name =>
      if name = key then change (if name ∈ names then some (found name) else none)
      else found name := by
  unfold recorded
  rw [eraseDups_concat]
  by_cases known : key ∈ names
  · rw [if_pos known, alter_map_of_mem (nodup_eraseDups _) (List.mem_eraseDups.mpr known)]
    apply List.map_congr_left
    intro name listed
    dsimp only
    rw [if_pos (List.mem_eraseDups.mp listed)]
  · have new : key ∉ (names.eraseDups.map fun name => (name, found name)).map Prod.fst := by
      simpa [Function.comp_def] using known
    have others : (names.eraseDups.map fun name => (name, found name)) =
        names.eraseDups.map fun name => (name,
          if name = key then change (if name ∈ names then some (found name) else none)
          else found name) := by
      apply List.map_congr_left
      intro name listed
      have differs : name ≠ key := fun equal => known (equal ▸ List.mem_eraseDups.mp listed)
      rw [if_neg differs]
    rw [if_neg known, alter_of_not_mem new, others, List.map_append, List.map_singleton]
    dsimp only
    rw [if_pos rfl, if_neg known]

theorem ensure_recorded (names : List String) {found : String → β} {value : β}
    (unheard : key ∉ names → found key = value) :
    (recorded names found).ensure key value = recorded (names ++ [key]) found := by
  rw [ensure, alter_recorded]
  congr 1
  funext name
  by_cases here : name = key
  · subst here
    rw [if_pos rfl]
    by_cases known : name ∈ names
    · rw [if_pos known, Option.getD_some]
    · rw [if_neg known, Option.getD_none, unheard known]
  · rw [if_neg here]

end Table

theorem lastWritten_eq_none_iff {α : Type} {writes : List (String × α)} {name : String} :
    lastWritten writes name = none ↔ ∀ data, (name, data) ∉ writes := by
  constructor
  · intro never data member
    have found : (name, data) ∈ writes.filter (·.1 == name) :=
      List.mem_filter.mpr ⟨member, beq_self_eq_true name⟩
    rw [lastWritten, Option.map_eq_none_iff, List.getLast?_eq_none_iff] at never
    exact absurd found (never ▸ List.not_mem_nil)
  · intro never
    cases found : lastWritten writes name with
    | none => rfl
    | some data => exact absurd (mem_of_lastWritten found) (never data)

/-- The targets of the edges that leave a vertex, as they were linked. -/
def linked (edges : List Edge) (source : String) : List String :=
  (edges.filter fun edge => edge.source == source).map Edge.target

/-- The edges from one vertex to another. -/
def parallels (edges : List Edge) (source target : String) : List Edge :=
  edges.filter fun edge => edge.source == source && edge.target == target

theorem ends_of_mem_parallels {edges : List Edge} {source target : String} {edge : Edge}
    (member : edge ∈ parallels edges source target) :
    edge.source = source ∧ edge.target = target := by
  simpa using (List.mem_filter.mp member).2

theorem linked_concat (edges : List Edge) (edge : Edge) (source : String) :
    linked (edges ++ [edge]) source =
      if source = edge.source then linked edges source ++ [edge.target]
      else linked edges source := by
  unfold linked
  rw [List.filter_append]
  split
  case isTrue here => simp [here]
  case isFalse elsewhere => simp [Ne.symm elsewhere]

theorem parallels_concat (edges : List Edge) (edge : Edge) (source target : String) :
    parallels (edges ++ [edge]) source target =
      if source = edge.source ∧ target = edge.target then parallels edges source target ++ [edge]
      else parallels edges source target := by
  unfold parallels
  rw [List.filter_append]
  split
  case isTrue here => simp [here]
  case isFalse elsewhere =>
    have differs : (edge.source == source && edge.target == target) = false := by
      rw [Bool.and_eq_false_imp, beq_iff_eq]
      intro same
      exact beq_false_of_ne fun sameToo => elsewhere ⟨same.symm, sameToo.symm⟩
    simp [differs]

theorem parallels_eq_nil {edges : List Edge} {source target : String}
    (unlinked : target ∉ linked edges source) : parallels edges source target = [] := by
  apply List.filter_eq_nil_iff.mpr
  intro edge present here
  rw [Bool.and_eq_true, beq_iff_eq, beq_iff_eq] at here
  apply unlinked
  rw [← here.2]
  exact List.mem_map_of_mem (List.mem_filter.mpr ⟨present, beq_iff_eq.mpr here.1⟩)

namespace Row

/-- The row of a vertex, said of all edges that were inserted. -/
def ofEdges (edges : List Edge) (source : String) : Row :=
  Table.recorded (linked edges source) fun target =>
    (parallels edges source target).map Edge.label

theorem ofEdges_concat (edges : List Edge) (edge : Edge) (source : String) :
    ofEdges (edges ++ [edge]) source =
      if source = edge.source then (ofEdges edges source).link edge.target edge.label
      else ofEdges edges source := by
  unfold ofEdges
  rw [linked_concat]
  split
  case isTrue here =>
    rw [link, Table.alter_recorded]
    congr 1
    funext target
    rw [parallels_concat]
    by_cases there : target = edge.target
    · rw [if_pos ⟨here, there⟩, if_pos there, List.map_append, List.map_singleton]
      by_cases known : target ∈ linked edges source
      · rw [if_pos known, Option.getD_some]
      · rw [if_neg known, Option.getD_none, parallels_eq_nil known, List.map_nil]
    · rw [if_neg fun both => there both.2, if_neg there]
  case isFalse elsewhere =>
    congr 1
    funext target
    rw [parallels_concat, if_neg fun both => elsewhere both.1]

/-- The edges of a row, target by target. -/
theorem edges_ofEdges (inserted : List Edge) (source : String) :
    (ofEdges inserted source).edges source =
      (linked inserted source).eraseDups.flatMap (parallels inserted source) := by
  unfold ofEdges edges Table.recorded
  rw [List.flatMap_map]
  congr 1
  funext target
  rw [List.map_map]
  apply (List.map_congr_left _).trans (List.map_id _)
  intro edge member
  obtain ⟨rfl, rfl⟩ := ends_of_mem_parallels member
  rfl

end Row

namespace Multigraph

namespace Call

variable {α : Type}

/-- The names that a call mentions; an edge mentions its source first. -/
def mentions : Call α → List String
  | addVertex name _ => [name]
  | addEdge edge => [edge.source, edge.target]

def write? : Call α → Option (String × α)
  | addVertex name data => some (name, data)
  | addEdge _ => none

def edge? : Call α → Option Edge
  | addVertex _ _ => none
  | addEdge edge => some edge

theorem mem_mentions_iff {calls : List (Call α)} {name : String} :
    name ∈ calls.flatMap mentions ↔ (∃ data, (name, data) ∈ calls.filterMap write?) ∨
      ∃ edge ∈ calls.filterMap edge?, name = edge.source ∨ name = edge.target := by
  simp only [List.mem_flatMap, List.mem_filterMap]
  constructor
  · intro ⟨call, made, mentioned⟩
    cases call with
    | addVertex other data =>
        cases List.mem_singleton.mp mentioned
        exact .inl ⟨data, _, made, rfl⟩
    | addEdge edge => exact .inr ⟨edge, ⟨_, made, rfl⟩, by simpa [mentions] using mentioned⟩
  · intro either
    rcases either with ⟨data, call, made, wrote⟩ | ⟨edge, ⟨call, made, inserted⟩, isEnd⟩
    · cases call with
      | addVertex other value =>
          cases wrote
          exact ⟨_, made, List.mem_singleton.mpr rfl⟩
      | addEdge edge => cases wrote
    · cases call with
      | addVertex other value => cases inserted
      | addEdge other =>
          cases inserted
          exact ⟨_, made, by simpa [mentions] using isEnd⟩

end Call

variable {G α : Type} [Multigraph G α] {graph : G}

/-- The container holds the names that were mentioned, in the order of their first mention, with the
data written last and with the rows of the edges that were inserted. -/
structure Remembers (mentioned : List String) (writes : List (String × α)) (inserted : List Edge)
    (graph : G) : Prop where
  vertices : vertices graph = Table.recorded mentioned (lastWritten writes)
  adjacency : adjacency graph = Table.recorded mentioned (Row.ofEdges inserted)
  written : ∀ write ∈ writes, write.1 ∈ mentioned
  anchored : ∀ edge ∈ inserted, edge.source ∈ mentioned

theorem remembers_empty : Remembers [] [] [] (empty : G) where
  vertices := vertices_empty
  adjacency := adjacency_empty
  written := by simp
  anchored := by simp

namespace Remembers

variable {mentioned : List String} {writes : List (String × α)} {inserted : List Edge}

theorem unwritten (remembers : Remembers mentioned writes inserted graph) {name : String}
    (new : name ∉ mentioned) : lastWritten writes name = none :=
  lastWritten_eq_none_iff.mpr fun data member => new (remembers.written (name, data) member)

theorem unlinked (remembers : Remembers mentioned writes inserted graph) {name : String}
    (new : name ∉ mentioned) : Row.ofEdges inserted name = [] := by
  have none : linked inserted name = [] := by
    apply List.map_eq_nil_iff.mpr
    apply List.filter_eq_nil_iff.mpr
    intro edge present here
    exact new (eq_of_beq here ▸ remembers.anchored edge present)
  rw [Row.ofEdges, none]
  rfl

theorem addVertex (remembers : Remembers mentioned writes inserted graph) (name : String)
    (data : α) :
    Remembers (mentioned ++ [name]) (writes ++ [(name, data)]) inserted
      (addVertex graph name data) where
  vertices := by
    rw [vertices_addVertex, remembers.vertices, Table.put, Table.alter_recorded]
    congr 1
    funext other
    rw [lastWritten_concat]
    simp only [eq_comm]
  adjacency := by
    rw [adjacency_addVertex, remembers.adjacency, Table.ensure_recorded _ remembers.unlinked]
  written write member := by
    rcases List.mem_append.mp member with before | last
    · exact List.mem_append_left _ (remembers.written write before)
    · rw [List.mem_singleton.mp last]
      exact List.mem_append_right _ List.mem_cons_self
  anchored edge present := List.mem_append_left _ (remembers.anchored edge present)

theorem addEdge (remembers : Remembers mentioned writes inserted graph) (edge : Edge) :
    Remembers (mentioned ++ [edge.source, edge.target]) writes (inserted ++ [edge])
      (addEdge graph edge) where
  vertices := by
    have later : edge.target ∉ mentioned ++ [edge.source] →
        lastWritten writes edge.target = none :=
      fun new => remembers.unwritten fun known => new (List.mem_append_left _ known)
    rw [vertices_addEdge, remembers.vertices, Table.ensure_recorded _ remembers.unwritten,
      Table.ensure_recorded _ later, List.append_assoc]
    rfl
  adjacency := by
    have later : edge.target ∉ mentioned ++ [edge.source] →
        Row.ofEdges inserted edge.target = [] :=
      fun new => remembers.unlinked fun known => new (List.mem_append_left _ known)
    have known : edge.source ∈ (mentioned ++ [edge.source, edge.target]).eraseDups := by
      simp [List.mem_eraseDups]
    rw [adjacency_addEdge, remembers.adjacency, Table.ensure_recorded _ remembers.unlinked,
      Table.ensure_recorded _ later, List.append_assoc, List.singleton_append,
      Table.recorded, Table.alter_map_of_mem (nodup_eraseDups _) known, Table.recorded]
    apply List.map_congr_left
    intro name _
    rw [Row.ofEdges_concat, Option.getD_some]
  written write member := List.mem_append_left _ (remembers.written write member)
  anchored other member := by
    rcases List.mem_append.mp member with before | last
    · exact List.mem_append_left _ (remembers.anchored other before)
    · rw [List.mem_singleton.mp last]
      exact List.mem_append_right _ List.mem_cons_self

theorem call (remembers : Remembers mentioned writes inserted graph) (call : Call α) :
    Remembers (mentioned ++ call.mentions) (writes ++ call.write?.toList)
      (inserted ++ call.edge?.toList) (Multigraph.call graph call) := by
  cases call with
  | addVertex name data =>
      have added := remembers.addVertex name data
      rwa [← List.append_nil inserted] at added
  | addEdge edge =>
      have added := remembers.addEdge edge
      rwa [← List.append_nil writes] at added

end Remembers

theorem remembers_calls (calls : List (Call α)) :
    Remembers (calls.flatMap Call.mentions) (calls.filterMap Call.write?)
      (calls.filterMap Call.edge?) (calls.foldl call (empty : G)) := by
  -- from the end, since what is written last counts
  induction calls using List.reverseRecOn with
  | nil => exact remembers_empty
  | append_singleton calls last ih =>
      have single : ∀ {β : Type} (f : Call α → Option β), [last].filterMap f = (f last).toList := by
        intro β f
        cases found : f last <;> simp [found]
      rw [List.flatMap_append, List.filterMap_append, List.filterMap_append, List.foldl_append,
        List.flatMap_singleton, single, single]
      exact ih.call last

theorem vertices_of_allData? {vertices : List (String × Option α)} {listed : List (String × α)}
    (all : Graph.allData? vertices = some listed) :
    (listed.map fun vertex => (vertex.1, some vertex.2)) = vertices := by
  induction vertices generalizing listed with
  | nil =>
      cases all
      rfl
  | cons vertex rest ih =>
      obtain ⟨name, found⟩ := vertex
      cases found with
      | none => cases all
      | some data =>
          obtain ⟨others, later, rfl⟩ := Option.map_eq_some_iff.mp all
          rw [List.map_cons, ih later]

theorem listing?_eq_none_iff :
    listing? graph = none ↔ ∃ vertex ∈ vertices graph, vertex.2 = none := by
  rw [listing?, Option.map_eq_none_iff]
  constructor
  · intro unlisted
    by_contra complete
    have described : ∀ vertex ∈ vertices graph, vertex.2.isSome = true := by
      intro vertex member
      exact Option.isSome_iff_ne_none.mpr fun missing => complete ⟨vertex, member, missing⟩
    obtain ⟨listed, all, -⟩ := Graph.exists_allData? described
    rw [all] at unlisted
    cases unlisted
  · intro incomplete
    obtain ⟨vertex, member, missing⟩ := incomplete
    cases all : Graph.allData? (vertices graph) with
    | none => rfl
    | some listed =>
        rw [← vertices_of_allData? all] at member
        obtain ⟨described, -, rfl⟩ := List.mem_map.mp member
        cases missing

end Multigraph

/-- The edges are listed group by group: by source in the order in which the names were mentioned,
from one source by target in the order in which it was linked, and parallel edges as they were
inserted. -/
structure ListsEdges (mentioned : List String) (inserted listed : List Edge) : Prop where
  perm : listed.Perm inserted
  bySource : listed.Pairwise fun one other =>
    mentioned.idxOf one.source ≤ mentioned.idxOf other.source
  byTarget : listed.Pairwise fun one other => one.source = other.source →
    (linked inserted one.source).idxOf one.target ≤ (linked inserted one.source).idxOf other.target
  parallel : ∀ source target,
    parallels listed source target = parallels inserted source target

/-- The edges that leave a vertex, target by target. -/
def outgoing (edges : List Edge) (name : String) : List Edge :=
  (linked edges name).eraseDups.flatMap (parallels edges name)

section Outgoing

variable {edges : List Edge} {name : String}

theorem source_of_mem_outgoing {edge : Edge} (member : edge ∈ outgoing edges name) :
    edge.source = name := by
  obtain ⟨target, -, inGroup⟩ := List.mem_flatMap.mp member
  exact (ends_of_mem_parallels inGroup).1

theorem outgoing_perm (edges : List Edge) (name : String) :
    (outgoing edges name).Perm (edges.filter fun edge => edge.source == name) := by
  have groups : parallels edges name = fun target =>
      (edges.filter fun edge => edge.source == name).filter fun edge => edge.target == target := by
    funext target
    rw [parallels, List.filter_filter]
    simp only [Bool.and_comm]
  rw [outgoing, groups]
  apply perm_of_grouped Edge.target (nodup_eraseDups _)
  intro edge member
  exact List.mem_eraseDups.mpr (List.mem_map_of_mem member)

theorem outgoing_pairwise (edges : List Edge) (name : String) :
    (outgoing edges name).Pairwise fun one other =>
      (linked edges name).idxOf one.target ≤ (linked edges name).idxOf other.target :=
  pairwise_flatMap_key Edge.target (fun _ _ _ member => (ends_of_mem_parallels member).2)
    (pairwise_idxOf_eraseDups _)

theorem filter_outgoing (edges : List Edge) (name target : String) :
    (outgoing edges name).filter (fun edge => edge.target == target) =
      parallels edges name target := by
  rw [outgoing, filter_flatMap_key Edge.target
    (fun _ _ _ member => (ends_of_mem_parallels member).2) (nodup_eraseDups _)]
  split
  case isTrue => rfl
  case isFalse unlinked =>
    -- what is no target of an edge has no edges either
    exact (parallels_eq_nil fun known => unlinked (List.mem_eraseDups.mpr known)).symm

end Outgoing

namespace Multigraph.Remembers

variable {G α : Type} [Multigraph G α] {graph : G} {mentioned : List String}
  {writes : List (String × α)} {inserted : List Edge}

theorem edges_eq (remembers : Remembers mentioned writes inserted graph) :
    edges graph = mentioned.eraseDups.flatMap (outgoing inserted) := by
  rw [edges, remembers.adjacency, Table.recorded, List.flatMap_map]
  congr 1
  funext name
  exact Row.edges_ofEdges inserted name

theorem listsEdges (remembers : Remembers mentioned writes inserted graph) :
    ListsEdges mentioned inserted (edges graph) := by
  have sources : ∀ name ∈ mentioned.eraseDups, ∀ edge ∈ outgoing inserted name,
      edge.source = name :=
    fun name _ edge member => source_of_mem_outgoing member
  rw [remembers.edges_eq]
  refine ⟨?_, pairwise_flatMap_key Edge.source sources (pairwise_idxOf_eraseDups _), ?_, ?_⟩
  · have permuted := perm_of_grouped Edge.source (nodup_eraseDups mentioned)
      fun edge member => List.mem_eraseDups.mpr (remembers.anchored edge member)
    exact (List.Perm.flatMap_left _ fun name _ => outgoing_perm inserted name).trans permuted
  · apply List.pairwise_flatMap.mpr
    constructor
    · intro name listed
      apply (outgoing_pairwise inserted name).imp_of_mem
      intro one other here there before _
      rwa [source_of_mem_outgoing here]
    · apply (nodup_eraseDups mentioned).imp
      intro first second differs one inFirst other inSecond same
      rw [source_of_mem_outgoing inFirst, source_of_mem_outgoing inSecond] at same
      exact absurd same differs
  · intro source target
    have apart : ∀ listed : List Edge, parallels listed source target =
        (listed.filter fun edge => edge.source == source).filter
          fun edge => edge.target == target := by
      intro listed
      rw [parallels, List.filter_filter]
      simp only [Bool.and_comm]
    rw [apart, filter_flatMap_key Edge.source sources (nodup_eraseDups _)]
    split
    case isTrue => rw [filter_outgoing]
    case isFalse unmentioned =>
      symm
      apply List.filter_eq_nil_iff.mpr
      intro edge present here
      rw [Bool.and_eq_true, beq_iff_eq] at here
      exact unmentioned (List.mem_eraseDups.mpr (here.1 ▸ remembers.anchored edge present))

end Multigraph.Remembers

/-- After any calls on any container that keeps the order of insertion, there is no listing exactly
if an end of some edge was never written. The listing has every name once, in the order of first
mention, with the data written last, and the edges that were inserted, each as often as it was,
group by group. -/
theorem graph_listing_history {G α : Type} [Multigraph G α] (calls : List (Multigraph.Call α)) :
    let graph : G := calls.foldl Multigraph.call Multigraph.empty
    let mentioned := calls.flatMap Multigraph.Call.mentions
    let writes := calls.filterMap Multigraph.Call.write?
    let inserted := calls.filterMap Multigraph.Call.edge?
    (Multigraph.listing? graph = none ↔
      ∃ edge ∈ inserted, ∃ name, (name = edge.source ∨ name = edge.target) ∧
        ∀ data, (name, data) ∉ writes) ∧
    ∀ listing, Multigraph.listing? graph = some listing →
      (listing.vertices.map fun vertex => (vertex.1, some vertex.2)) =
        (mentioned.eraseDups.map fun name => (name, lastWritten writes name)) ∧
      ListsEdges mentioned inserted listing.edges := by
  intro graph mentioned writes inserted
  have remembers : Multigraph.Remembers mentioned writes inserted graph :=
    Multigraph.remembers_calls calls
  constructor
  · rw [Multigraph.listing?_eq_none_iff, remembers.vertices]
    constructor
    · intro incomplete
      obtain ⟨vertex, member, missing⟩ := incomplete
      obtain ⟨name, first, rfl⟩ := List.mem_map.mp member
      have never := lastWritten_eq_none_iff.mp missing
      rcases Multigraph.Call.mem_mentions_iff.mp (List.mem_eraseDups.mp first) with wrote | linked
      · obtain ⟨data, written⟩ := wrote
        exact absurd written (never data)
      · obtain ⟨edge, present, isEnd⟩ := linked
        exact ⟨edge, present, name, isEnd, never⟩
    · intro unwritten
      obtain ⟨edge, present, name, isEnd, never⟩ := unwritten
      have first : name ∈ mentioned :=
        Multigraph.Call.mem_mentions_iff.mpr (.inr ⟨edge, present, isEnd⟩)
      exact ⟨_, List.mem_map_of_mem (List.mem_eraseDups.mpr first),
        lastWritten_eq_none_iff.mpr never⟩
  · intro listing listed
    obtain ⟨vertices, all, rfl⟩ := Option.map_eq_some_iff.mp listed
    constructor
    · rw [Multigraph.vertices_of_allData? all, remembers.vertices]
      rfl
    · exact remembers.listsEdges

/-- An edge before its ends, parallel edges apart from each other, a loop and a vertex written
twice. -/
def Multigraph.Call.tangled : List (Multigraph.Call Nat) :=
  [.addEdge ⟨"b", "a", "first"⟩, .addVertex "a" 1, .addEdge ⟨"a", "a", "loop"⟩,
    .addEdge ⟨"b", "b", "loop"⟩, .addEdge ⟨"b", "a", "second"⟩, .addVertex "b" 2,
    .addEdge ⟨"b", "a", "first"⟩, .addVertex "a" 3]

/-- The edges of the calls as they are listed. -/
def Multigraph.Call.tangledEdges : List Edge :=
  [⟨"b", "a", "first"⟩, ⟨"b", "a", "second"⟩, ⟨"b", "a", "first"⟩, ⟨"b", "b", "loop"⟩,
    ⟨"a", "a", "loop"⟩]

theorem graph_listing_history_tangled :
    Graph.listing? ((Multigraph.Call.tangled.take 5).foldl Multigraph.call Multigraph.empty) =
      none ∧
    Graph.listing? (Multigraph.Call.tangled.foldl Multigraph.call Multigraph.empty) =
      some { vertices := [("b", 2), ("a", 3)], edges := Multigraph.Call.tangledEdges } ∧
    ListsEdges (Multigraph.Call.tangled.flatMap Multigraph.Call.mentions)
      (Multigraph.Call.tangled.filterMap Multigraph.Call.edge?) Multigraph.Call.tangledEdges := by
  have unwritten : ∀ data, ("b", data) ∉
      (Multigraph.Call.tangled.take 5).filterMap Multigraph.Call.write? := by
    simp [Multigraph.Call.tangled, Multigraph.Call.write?]
  have incomplete :=
    (graph_listing_history (G := Graph Nat) (Multigraph.Call.tangled.take 5)).1.mpr
      ⟨⟨"b", "a", "first"⟩, by decide, "b", .inl rfl, unwritten⟩
  have listed : Graph.listing? (Multigraph.Call.tangled.foldl Multigraph.call Multigraph.empty) =
      some { vertices := [("b", 2), ("a", 3)], edges := Multigraph.Call.tangledEdges } := by decide
  have grouped := (graph_listing_history (G := Graph Nat) Multigraph.Call.tangled).2 _ listed
  exact ⟨incomplete, listed, grouped.2⟩

end SharpToJava
