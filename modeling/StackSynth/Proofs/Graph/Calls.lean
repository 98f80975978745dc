import Mathlib.Logic.Relation
import StackSynth.Graph.Search

/-!
Dependency graphs as sequences of calls leave them: every id has one node, and every edge runs
between ids of the graph.
-/
namespace StackSynth

inductive GraphCall
  | node (id type : String)
  | dependency (d : Dependency)

namespace DependencyGraph

/-- A call that fails leaves the graph as it is. -/
def after (g : DependencyGraph) : GraphCall → DependencyGraph
  | .node id type => g.addNode id type
  | .dependency d =>
    match g.addDependency d with
    | .ok grown => grown
    | .error _ => g

def ofCalls (calls : List GraphCall) : DependencyGraph := calls.foldl after empty

def Edge (g : DependencyGraph) (source target : String) : Prop :=
  ∃ e ∈ g.edges, e.source = source ∧ e.target = target

/-- One or more edges lead from the first id to the second. -/
abbrev Reaches (g : DependencyGraph) : String → String → Prop := Relation.TransGen g.Edge

/-- No id can be reached from itself; an edge from an id to itself counts. -/
def Acyclic (g : DependencyGraph) : Prop := ∀ id, ¬ g.Reaches id id

structure Valid (g : DependencyGraph) : Prop where
  ids_nodup : g.ids.Nodup
  source_known : ∀ e ∈ g.edges, e.source ∈ g.ids
  target_known : ∀ e ∈ g.edges, e.target ∈ g.ids

theorem has_node_iff (g : DependencyGraph) (id : String) : g.hasNode id = true ↔ id ∈ g.ids := by
  simp [hasNode, node?, ids]

theorem has_edge_iff (g : DependencyGraph) (source target : String) :
    g.hasEdge source target = true ↔ g.Edge source target := by
  simp [hasEdge, Edge]

theorem ids_add_node (g : DependencyGraph) (id type : String) :
    (g.addNode id type).ids = if g.hasNode id then g.ids else g.ids ++ [id] := by
  by_cases known : g.hasNode id = true
  · simp only [addNode, ids, known, if_true, List.map_map]
    apply List.map_congr_left
    intro n _
    by_cases same : n.logicalId = id <;> simp [same]
  · simp [addNode, ids, known]

theorem ids_subset_add_node (g : DependencyGraph) (id type : String) :
    g.ids ⊆ (g.addNode id type).ids := by
  rw [ids_add_node]
  split
  · exact fun _ member => member
  · exact fun _ member => List.mem_append_left _ member

theorem add_node_valid {g : DependencyGraph} (valid : g.Valid) (id type : String) :
    (g.addNode id type).Valid := by
  have kept := ids_subset_add_node g id type
  refine ⟨?_, fun e member => kept (valid.source_known e member),
    fun e member => kept (valid.target_known e member)⟩
  rw [ids_add_node]
  split
  · exact valid.ids_nodup
  · next unknown =>
    rw [has_node_iff] at unknown
    exact List.nodup_append.mpr ⟨valid.ids_nodup, by simp, by
      intro a known b last
      rw [List.mem_singleton.mp last]
      exact fun same => unknown (same ▸ known)⟩

/-- A dependency is refused for its source before it is refused for its target, and one that is
taken up changes the edges only. -/
theorem add_dependency_cases (g : DependencyGraph) (d : Dependency) :
    (d.source ∉ g.ids ∧ g.addDependency d = .error (.danglingReference d.target d.source)) ∨
    (d.source ∈ g.ids ∧ d.target ∉ g.ids ∧
      g.addDependency d = .error (.resourceNotFound d.target)) ∨
    (d.source ∈ g.ids ∧ d.target ∈ g.ids ∧ g.Edge d.source d.target ∧ g.addDependency d = .ok g) ∨
    (d.source ∈ g.ids ∧ d.target ∈ g.ids ∧ ¬ g.Edge d.source d.target ∧
      g.addDependency d = .ok { g with edges := g.edges ++ [d] }) := by
  simp only [addDependency, ← has_node_iff, ← has_edge_iff]
  by_cases source : g.hasNode d.source = true
  · by_cases target : g.hasNode d.target = true
    · by_cases present : g.hasEdge d.source d.target = true
      · exact .inr (.inr (.inl ⟨source, target, present, by simp [source, target, present]⟩))
      · exact .inr (.inr (.inr ⟨source, target, present, by simp [source, target, present]⟩))
    · exact .inr (.inl ⟨source, target, by simp [source, target]⟩)
  · exact .inl ⟨source, by simp [source]⟩

theorem add_dependency_valid {g grown : DependencyGraph} (valid : g.Valid) {d : Dependency}
    (taken : g.addDependency d = .ok grown) : grown.Valid := by
  rcases add_dependency_cases g d with ⟨_, refused⟩ | ⟨_, _, refused⟩ | ⟨_, _, _, same⟩ |
    ⟨source, target, _, added⟩
  · rw [refused] at taken; cases taken
  · rw [refused] at taken; cases taken
  · rw [same] at taken; cases taken; exact valid
  · rw [added] at taken
    cases taken
    constructor
    · exact valid.ids_nodup
    · intro e member
      rcases List.mem_append.mp member with old | new
      · exact valid.source_known e old
      · rw [List.mem_singleton.mp new]; exact source
    · intro e member
      rcases List.mem_append.mp member with old | new
      · exact valid.target_known e old
      · rw [List.mem_singleton.mp new]; exact target

theorem after_valid {g : DependencyGraph} (valid : g.Valid) (call : GraphCall) :
    (g.after call).Valid := by
  cases call with
  | node id type => exact add_node_valid valid id type
  | dependency d =>
    simp only [after]
    split
    · next grown taken => exact add_dependency_valid valid taken
    · exact valid

theorem empty_valid : empty.Valid := ⟨by simp [empty, ids], by simp [empty], by simp [empty]⟩

theorem of_calls_valid (calls : List GraphCall) : (ofCalls calls).Valid := by
  suffices keeps : ∀ g : DependencyGraph, g.Valid → (calls.foldl after g).Valid from
    keeps empty empty_valid
  induction calls with
  | nil => exact fun _ valid => valid
  | cons call rest ih => exact fun g valid => ih (g.after call) (after_valid valid call)

theorem mem_targets_iff (g : DependencyGraph) (source target : String) :
    target ∈ g.targets source ↔ g.Edge source target := by
  simp only [targets, List.mem_map, List.mem_filter, beq_iff_eq, Edge]
  exact ⟨fun ⟨e, ⟨member, source⟩, target⟩ => ⟨e, member, source, target⟩,
    fun ⟨e, member, source, target⟩ => ⟨e, ⟨member, source⟩, target⟩⟩

theorem mem_sources_iff (g : DependencyGraph) (source target : String) :
    source ∈ g.sources target ↔ g.Edge source target := by
  simp only [sources, List.mem_map, List.mem_filter, beq_iff_eq, Edge]
  exact ⟨fun ⟨e, ⟨member, target⟩, source⟩ => ⟨e, member, source, target⟩,
    fun ⟨e, member, source, target⟩ => ⟨e, ⟨member, target⟩, source⟩⟩

theorem edge_source_known {g : DependencyGraph} (valid : g.Valid) {source target : String}
    (edge : g.Edge source target) : source ∈ g.ids := by
  obtain ⟨e, member, rfl, rfl⟩ := edge
  exact valid.source_known e member

theorem edge_target_known {g : DependencyGraph} (valid : g.Valid) {source target : String}
    (edge : g.Edge source target) : target ∈ g.ids := by
  obtain ⟨e, member, rfl, rfl⟩ := edge
  exact valid.target_known e member

theorem reaches_source_known {g : DependencyGraph} (valid : g.Valid) {source target : String}
    (way : g.Reaches source target) : source ∈ g.ids := by
  obtain ⟨next, edge, _⟩ := Relation.TransGen.head'_iff.mp way
  exact edge_source_known valid edge

end DependencyGraph

end StackSynth
