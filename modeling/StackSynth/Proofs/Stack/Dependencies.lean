import Mathlib.Data.List.Nodup
import StackSynth.Proofs.Graph.DeployOrder
import StackSynth.Stack.Synthesis

/-!
The dependency graph of resources: one node for each, and an edge for each resource that another one
waits for or refers to. Building it fails only where one of these is missing.
-/
namespace StackSynth

namespace Bootstrap

theorem parameter_iff (name : String) :
    parameters.contains name = true ↔ name = versionParameter := by
  rw [OrderedMap.contains_iff]
  have only : parameters.keys = [versionParameter] := rfl
  rw [only, List.mem_singleton]

end Bootstrap

namespace Resource

/-- What has to be there before a resource: what it depends on by its own word, and what it refers
to unless that is the parameter of every template. -/
def prerequisites (r : Resource) : List String :=
  r.dependsOn ++ (r.references.filter fun ref => !Bootstrap.parameters.contains ref.target).map
    (·.target)

theorem mem_prerequisites_iff (r : Resource) (id : String) :
    id ∈ r.prerequisites ↔ id ∈ r.dependsOn ∨
      ∃ ref ∈ r.references, ref.target ≠ Bootstrap.versionParameter ∧ ref.target = id := by
  simp [prerequisites, Bool.eq_false_iff, Bootstrap.parameter_iff, and_assoc]

end Resource

namespace DependencyGraph

variable {g : DependencyGraph}

theorem ids_add_nodes {entries : List (String × Resource)}
    (nodup : (g.ids ++ entries.map Prod.fst).Nodup) :
    (entries.foldl (fun g entry => g.addNode entry.1 entry.2.type) g).ids =
      g.ids ++ entries.map Prod.fst := by
  induction entries generalizing g with
  | nil => simp
  | cons entry rest ih =>
    have fresh : entry.1 ∉ g.ids := fun known =>
      (List.nodup_append.mp nodup).2.2 entry.1 known entry.1 List.mem_cons_self rfl
    have added : (g.addNode entry.1 entry.2.type).ids = g.ids ++ [entry.1] := by
      rw [ids_add_node, if_neg]
      rwa [has_node_iff]
    have split : g.ids ++ (entry :: rest).map Prod.fst =
        (g.addNode entry.1 entry.2.type).ids ++ rest.map Prod.fst := by simp [added]
    rw [List.foldl_cons, split]
    exact ih (split ▸ nodup)

theorem add_nodes_valid (valid : g.Valid) (entries : List (String × Resource)) :
    (entries.foldl (fun g entry => g.addNode entry.1 entry.2.type) g).Valid := by
  induction entries generalizing g with
  | nil => exact valid
  | cons entry rest ih => exact ih (add_node_valid valid entry.1 entry.2.type)

theorem edges_add_nodes (entries : List (String × Resource)) :
    (entries.foldl (fun g entry => g.addNode entry.1 entry.2.type) g).edges = g.edges := by
  induction entries generalizing g with
  | nil => rfl
  | cons entry rest ih => exact ih

theorem edge_add_dependency {grown : DependencyGraph} {d : Dependency}
    (taken : g.addDependency d = .ok grown) (source target : String) :
    grown.Edge source target ↔
      g.Edge source target ∨ (d.source = source ∧ d.target = target) := by
  rcases add_dependency_cases g d with ⟨_, refused⟩ | ⟨_, _, refused⟩ | ⟨_, _, present, same⟩ |
    ⟨_, _, _, added⟩
  · rw [refused] at taken; cases taken
  · rw [refused] at taken; cases taken
  · rw [same] at taken
    cases taken
    exact ⟨.inl, fun either => either.elim (fun old => old) fun ⟨first, second⟩ =>
      first ▸ second ▸ present⟩
  · rw [added] at taken
    cases taken
    simp [Edge, or_and_right, exists_or]

theorem ids_add_dependency {grown : DependencyGraph} {d : Dependency}
    (taken : g.addDependency d = .ok grown) : grown.ids = g.ids := by
  rcases add_dependency_cases g d with ⟨_, result⟩ | ⟨_, _, result⟩ | ⟨_, _, _, result⟩ |
    ⟨_, _, _, result⟩
  all_goals rw [result] at taken; cases taken
  · rfl
  · rfl

theorem add_dependencies_ok {grown : DependencyGraph} {ds : List Dependency} (valid : g.Valid)
    (added : ds.foldlM addDependency g = .ok grown) :
    grown.Valid ∧ grown.ids = g.ids ∧ ∀ source target, grown.Edge source target ↔
      g.Edge source target ∨ ∃ d ∈ ds, d.source = source ∧ d.target = target := by
  induction ds generalizing g with
  | nil => cases added; simp [valid]
  | cons d rest ih =>
    rw [List.foldlM_cons] at added
    cases taken : g.addDependency d with
    | error failure => rw [taken] at added; cases added
    | ok middle =>
      rw [taken] at added
      obtain ⟨grown_valid, same_ids, edges⟩ := ih (add_dependency_valid valid taken) added
      refine ⟨grown_valid, same_ids.trans (ids_add_dependency taken), fun source target => ?_⟩
      rw [edges, edge_add_dependency taken, List.exists_mem_cons_iff, or_assoc]

/-- A dependency that fails has an end that is missing, and its source is looked for first. -/
theorem add_dependencies_error {failure : Failure} {ds : List Dependency}
    (failed : ds.foldlM addDependency g = .error failure) :
    ∃ d ∈ ds, (d.source ∉ g.ids ∧ failure = .danglingReference d.target d.source) ∨
      (d.target ∉ g.ids ∧ failure = .resourceNotFound d.target) := by
  induction ds generalizing g with
  | nil => cases failed
  | cons d rest ih =>
    rw [List.foldlM_cons] at failed
    rcases add_dependency_cases g d with ⟨missing, refused⟩ | ⟨_, missing, refused⟩ |
      ⟨_, _, _, same⟩ | ⟨_, _, _, added⟩
    · rw [refused] at failed
      cases failed
      exact ⟨d, List.mem_cons_self, .inl ⟨missing, rfl⟩⟩
    · rw [refused] at failed
      cases failed
      exact ⟨d, List.mem_cons_self, .inr ⟨missing, rfl⟩⟩
    · rw [same] at failed
      obtain ⟨later, member, missing⟩ := ih failed
      exact ⟨later, List.mem_cons_of_mem d member, missing⟩
    · rw [added] at failed
      obtain ⟨later, member, missing⟩ := ih failed
      exact ⟨later, List.mem_cons_of_mem d member, missing⟩

end DependencyGraph

namespace Stack

open DependencyGraph

variable {resources : OrderedMap Resource}

theorem mem_dependencies_of (id : String) (r : Resource) (source target : String) :
    (∃ d ∈ dependenciesOf id r, d.source = source ∧ d.target = target) ↔
      source ∈ r.prerequisites ∧ id = target := by
  simp only [dependenciesOf, Resource.prerequisites, List.mem_append, List.mem_map]
  constructor
  · rintro ⟨d, ⟨explicit, member, rfl⟩ | ⟨ref, member, rfl⟩, rfl, rfl⟩
    · exact ⟨.inl member, rfl⟩
    · exact ⟨.inr ⟨ref, member, rfl⟩, rfl⟩
  · rintro ⟨member | ⟨ref, member, rfl⟩, rfl⟩
    · exact ⟨_, .inl ⟨source, member, rfl⟩, rfl, rfl⟩
    · exact ⟨_, .inr ⟨ref, member, rfl⟩, rfl, rfl⟩

theorem mem_all_dependencies (source target : String) :
    (∃ d ∈ resources.entries.flatMap fun entry => dependenciesOf entry.1 entry.2,
      d.source = source ∧ d.target = target) ↔
      ∃ r, resources.get? target = some r ∧ source ∈ r.prerequisites := by
  simp only [List.mem_flatMap, OrderedMap.get?_eq_some_iff]
  constructor
  · rintro ⟨d, ⟨⟨id, r⟩, member, listed⟩, ends⟩
    obtain ⟨needed, rfl⟩ := (mem_dependencies_of id r source target).mp ⟨d, listed, ends⟩
    exact ⟨r, member, needed⟩
  · rintro ⟨r, member, needed⟩
    obtain ⟨d, listed, ends⟩ := (mem_dependencies_of target r source target).mpr ⟨needed, rfl⟩
    exact ⟨d, ⟨(target, r), member, listed⟩, ends⟩

/-- The graph before its edges. -/
def nodesOf (resources : OrderedMap Resource) : DependencyGraph :=
  resources.entries.foldl (fun g entry => g.addNode entry.1 entry.2.type) DependencyGraph.empty

theorem nodes_of_valid (resources : OrderedMap Resource) : (nodesOf resources).Valid :=
  add_nodes_valid empty_valid resources.entries

theorem ids_nodes_of (resources : OrderedMap Resource) :
    (nodesOf resources).ids = resources.keys := by
  have distinct : (DependencyGraph.empty.ids ++ resources.entries.map Prod.fst).Nodup :=
    resources.distinct
  exact ids_add_nodes distinct

theorem edge_nodes_of (source target : String) : ¬ (nodesOf resources).Edge source target := by
  rintro ⟨e, member, _⟩
  rw [nodesOf, edges_add_nodes] at member
  simp [DependencyGraph.empty] at member

theorem graph_of_ok {g : DependencyGraph} (built : graphOf resources = .ok g) :
    g.Valid ∧ g.ids = resources.keys ∧ ∀ source target, g.Edge source target ↔
      ∃ r, resources.get? target = some r ∧ source ∈ r.prerequisites := by
  obtain ⟨valid, same_ids, edges⟩ := add_dependencies_ok (nodes_of_valid resources) built
  refine ⟨valid, same_ids.trans (ids_nodes_of resources), fun source target => ?_⟩
  rw [edges, mem_all_dependencies]
  exact or_iff_right (edge_nodes_of source target)

theorem graph_of_error {failure : Failure} (failed : graphOf resources = .error failure) :
    ∃ id r source, resources.get? id = some r ∧ source ∈ r.prerequisites ∧
      source ∉ resources.keys ∧ failure = .danglingReference id source := by
  obtain ⟨d, listed, missing⟩ := add_dependencies_error failed
  obtain ⟨r, present, needed⟩ := (mem_all_dependencies d.source d.target).mp ⟨d, listed, rfl, rfl⟩
  rcases missing with ⟨missing, rfl⟩ | ⟨missing, _⟩
  · exact ⟨d.target, r, d.source, present, needed, by rwa [← ids_nodes_of], rfl⟩
  · refine absurd ?_ missing
    rw [← nodesOf, ids_nodes_of, ← OrderedMap.contains_iff, OrderedMap.contains, present]
    rfl

end Stack

end StackSynth
