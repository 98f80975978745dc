import StackSynth.Proofs.Stack.Resolution
import StackSynth.Proofs.Stack.Steps

/-!
The dependency graph told from the stack itself: an edge comes from what a resource requires by what
is declared of it, or from what it waits for.
-/
namespace StackSynth.Stack

open DependencyGraph

variable {s : Stack} {g : DependencyGraph}

/-- What a declared resource needs, apart from what it waits for. -/
def Requires (s : Stack) (id source : String) : Prop :=
  ∃ d, s.declared.get? id = some d ∧ source ∈ d.resource.prerequisites

theorem mem_prerequisites_with_waits_iff (s : Stack) (id source : String) (r : Resource) :
    source ∈ (s.withWaits id r).prerequisites ↔ source ∈ r.prerequisites ∨
      ∃ w ∈ s.waits, w.dependent = id ∧ source ∈ s.waitedFor w := by
  have same : (s.withWaits id r).references = r.references := by
    rw [with_waits_eq]
    rfl
  rw [Resource.mem_prerequisites_iff, Resource.mem_prerequisites_iff, mem_with_waits, same]
  exact or_right_comm

/-- The edges of the dependency graph, told from the stack. -/
theorem edge_iff (graph : s.dependencyGraph = .ok g) (source target : String) :
    g.Edge source target ↔ s.Requires target source ∨
      s.contains target = true ∧ ∃ w ∈ s.waits, w.dependent = target ∧ source ∈ s.waitedFor w := by
  obtain ⟨expansion, expands, built⟩ := graph_expands graph
  obtain ⟨_, _, edges⟩ := graph_of_ok built
  rw [edges, expanded_ok expands]
  simp only [resources, OrderedMap.get?_mapValues, Option.map_map, Option.map_eq_some_iff,
    Function.comp_apply, Requires, contains, OrderedMap.contains, Option.isSome_iff_exists]
  constructor
  · rintro ⟨_, ⟨d, found, rfl⟩, needed⟩
    rw [mem_prerequisites_with_waits_iff] at needed
    exact needed.imp (fun own => ⟨d, found, own⟩) fun waits => ⟨⟨d, found⟩, waits⟩
  · rintro (⟨d, found, own⟩ | ⟨⟨d, found⟩, waits⟩)
    · exact ⟨_, ⟨d, found, rfl⟩, (mem_prerequisites_with_waits_iff _ _ _ _).mpr (.inl own)⟩
    · exact ⟨_, ⟨d, found, rfl⟩, (mem_prerequisites_with_waits_iff _ _ _ _).mpr (.inr waits)⟩

theorem edge_target_declared (graph : s.dependencyGraph = .ok g) {source target : String}
    (edge : g.Edge source target) : s.contains target = true := by
  rcases (edge_iff graph source target).mp edge with ⟨d, found, _⟩ | ⟨declared, _⟩
  · exact At.contains ⟨d, found, rfl, rfl⟩
  · exact declared

/-- Where all waits are answered, the graph fails only for what is needed and not declared. -/
theorem graph_or_dangling (resolved : ∀ w ∈ s.waits, s.Resolves w) :
    (∃ g, s.dependencyGraph = .ok g) ∨ ∃ id source, s.Requires id source ∧
      s.contains source = false ∧ s.dependencyGraph = .error (.danglingReference id source) := by
  rcases expanded_cases s with ⟨_, expands⟩ | ⟨unresolved, _⟩
  · have graph := graph_of_expansion expands
    cases built : graphOf (s.resources.mapValues s.withWaits) with
    | ok g => exact .inl ⟨g, graph.trans built⟩
    | error failure =>
      obtain ⟨id, r, source, found, needed, missing, rfl⟩ := graph_of_error built
      rw [mem_keys_expansion expands, Bool.not_eq_true] at missing
      simp only [resources, OrderedMap.get?_mapValues, Option.map_map, Option.map_eq_some_iff,
        Function.comp_apply] at found
      obtain ⟨d, found, rfl⟩ := found
      rcases (mem_prerequisites_with_waits_iff _ _ _ _).mp needed with own | ⟨w, _, _, answer⟩
      · exact .inr ⟨id, source, ⟨d, found, own⟩, missing, graph.trans built⟩
      · obtain ⟨_, e, found, _⟩ := (mem_waited_for w source).mp answer
        rw [At.contains ⟨e, found, rfl, rfl⟩] at missing
        cases missing
  · exact absurd resolved unresolved

/-- There is a graph exactly where all waits are answered and all that is needed is declared. -/
theorem graph_iff (s : Stack) :
    (∃ g, s.dependencyGraph = .ok g) ↔
      (∀ w ∈ s.waits, s.Resolves w) ∧ ∀ id x, s.Requires id x → s.contains x = true := by
  constructor
  · rintro ⟨g, graph⟩
    obtain ⟨expansion, expands, built⟩ := graph_expands graph
    obtain ⟨valid, ids, _⟩ := graph_of_ok built
    refine ⟨?_, fun id x needed => ?_⟩
    · rcases expanded_cases s with ⟨resolved, _⟩ | ⟨_, _, failed⟩
      · exact resolved
      · rw [expands] at failed
        cases failed
    · have edge := (edge_iff graph x id).mpr (.inl needed)
      have source := edge_source_known valid edge
      rwa [ids, mem_keys_expansion expands] at source
  · rintro ⟨resolved, declared⟩
    rcases graph_or_dangling resolved with graph | ⟨id, source, needed, missing, _⟩
    · exact graph
    · rw [declared id source needed] at missing
      cases missing

end StackSynth.Stack
