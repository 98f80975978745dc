import StackSynth.Proofs.Outcome
import StackSynth.Proofs.Stack.Dependencies
import StackSynth.Proofs.Stack.Expansion

/-!
Synthesis and the deployment order go together: a template is made exactly where the dependency
graph is there, has no cycle and no output leads nowhere, and then its resources have an order.
-/
namespace StackSynth.Stack

open DependencyGraph

variable {s : Stack}

def OutputsLead (s : Stack) : Prop :=
  ∀ output ∈ s.outputs.values, ∀ ref ∈ output.value.references, s.contains ref.target = true

/-- The template of a stack, given what its resources wait for. -/
def templateOf (s : Stack) (resources : OrderedMap Resource) : Template := {
  description := s.description
  parameters := Bootstrap.parameters
  resources
  outputs := s.outputs
  rules := Bootstrap.rules }

theorem dangling_output_none_iff {expansion : OrderedMap Resource}
    (expands : s.expanded = .ok expansion) :
    danglingOutput? expansion s.outputs = none ↔ s.OutputsLead := by
  have known : ∀ id, expansion.contains id = s.contains id := fun id => by
    rw [expanded_ok expands, OrderedMap.contains_mapValues, contains_resources]
  simp only [danglingOutput?, List.findSome?_eq_none_iff, Option.map_eq_none_iff,
    List.find?_eq_none, Bool.not_eq_true', Bool.not_eq_false, known, OutputsLead, OrderedMap.values,
    List.forall_mem_map]

theorem graph_expands {g : DependencyGraph} (graph : s.dependencyGraph = .ok g) :
    ∃ expansion, s.expanded = .ok expansion ∧ graphOf expansion = .ok g := by
  rw [dependencyGraph] at graph
  exact Outcome.bind_ok graph

theorem graph_valid {g : DependencyGraph} (graph : s.dependencyGraph = .ok g) : g.Valid := by
  obtain ⟨_, _, built⟩ := graph_expands graph
  exact (graph_of_ok built).1

/-- What synthesis comes to once there is a graph. -/
theorem synthesize_of_graph {g : DependencyGraph} {expansion : OrderedMap Resource}
    (expands : s.expanded = .ok expansion) (built : graphOf expansion = .ok g) :
    (g.Acyclic ∧ s.OutputsLead ∧ s.synthesize = .ok (s.templateOf expansion)) ∨
    (g.Acyclic ∧ ¬ s.OutputsLead ∧
      ∃ source target, s.synthesize = .error (.danglingReference source target)) ∨
    (¬ g.Acyclic ∧ s.synthesize = .error (.dependencyCycle g.describeCycles)) := by
  have valid := (graph_of_ok built).1
  have leads := dangling_output_none_iff expands
  by_cases acyclic : g.Acyclic
  · have straight := (has_cycles_iff valid).mpr acyclic
    cases dangling : danglingOutput? expansion s.outputs with
    | none =>
      refine .inl ⟨acyclic, leads.mp dangling, ?_⟩
      simp only [synthesize, expands, built, bind, Except.bind, straight, dangling]
      rfl
    | some found =>
      refine .inr (.inl ⟨acyclic, fun all => ?_, found.1, found.2, ?_⟩)
      · rw [leads.mpr all] at dangling; cases dangling
      · simp only [synthesize, expands, built, bind, Except.bind, straight, dangling]
        rfl
  · have cyclic : g.hasCycles = true := by
      rw [← Bool.not_eq_false, has_cycles_iff valid]
      exact acyclic
    refine .inr (.inr ⟨acyclic, ?_⟩)
    simp only [synthesize, expands, built, bind, Except.bind, cyclic]
    rfl

theorem synthesize_of_no_graph {failure : Failure} (failed : s.dependencyGraph = .error failure) :
    s.synthesize = .error failure := by
  rw [dependencyGraph] at failed
  cases expands : s.expanded with
  | error first =>
    rw [expands] at failed
    cases failed
    simp [synthesize, expands, bind, Except.bind]
  | ok expansion =>
    rw [expands] at failed
    have unbuilt : graphOf expansion = .error failure := failed
    simp [synthesize, expands, unbuilt, bind, Except.bind]

/-- A template comes with the graph that it was made from. -/
theorem graph_of_template {t : Template} (made : s.synthesize = .ok t) :
    ∃ g expansion, s.expanded = .ok expansion ∧ graphOf expansion = .ok g ∧
      s.dependencyGraph = .ok g ∧ g.Acyclic ∧ s.OutputsLead ∧ t = s.templateOf expansion := by
  cases graph : s.dependencyGraph with
  | error failure => rw [synthesize_of_no_graph graph] at made; cases made
  | ok g =>
    obtain ⟨expansion, expands, built⟩ := graph_expands graph
    rcases synthesize_of_graph expands built with ⟨acyclic, leads, result⟩ |
      ⟨_, _, source, target, result⟩ | ⟨_, result⟩
    · rw [result] at made
      cases made
      exact ⟨g, expansion, expands, built, rfl, acyclic, leads, rfl⟩
    · rw [result] at made; cases made
    · rw [result] at made; cases made

theorem synthesize_ok_iff (s : Stack) :
    (∃ t, s.synthesize = .ok t) ↔
      ∃ g, s.dependencyGraph = .ok g ∧ g.Acyclic ∧ s.OutputsLead := by
  constructor
  · rintro ⟨t, made⟩
    obtain ⟨g, _, _, _, graph, acyclic, leads, _⟩ := graph_of_template made
    exact ⟨g, graph, acyclic, leads⟩
  · rintro ⟨g, graph, acyclic, leads⟩
    obtain ⟨expansion, expands, built⟩ := graph_expands graph
    rcases synthesize_of_graph expands built with ⟨_, _, result⟩ | ⟨_, dangling, _⟩ | ⟨cyclic, _⟩
    · exact ⟨_, result⟩
    · exact absurd leads dangling
    · exact absurd acyclic cyclic

theorem deploy_order_of_graph {g : DependencyGraph} (graph : s.dependencyGraph = .ok g) :
    s.deployOrder = g.deployOrder := by
  simp [deployOrder, graph, bind, Except.bind]

theorem deploy_order_error_synthesize {failure : Failure}
    (failed : s.deployOrder = .error failure) : s.synthesize = .error failure := by
  cases graph : s.dependencyGraph with
  | error first =>
    have same : s.deployOrder = .error first := by simp [deployOrder, graph, bind, Except.bind]
    rw [same] at failed
    cases failed
    exact synthesize_of_no_graph graph
  | ok g =>
    rw [deploy_order_of_graph graph] at failed
    have cyclic : ¬ g.Acyclic := fun acyclic => by
      obtain ⟨order, found⟩ := (deploy_order_ok_iff (graph_valid graph)).mpr acyclic
      rw [found] at failed
      cases failed
    obtain ⟨expansion, expands, built⟩ := graph_expands graph
    rcases synthesize_of_graph expands built with ⟨acyclic, _⟩ | ⟨acyclic, _⟩ | ⟨_, result⟩
    · exact absurd acyclic cyclic
    · exact absurd acyclic cyclic
    · rw [result, deploy_order_error failed]

/-- Every resource of the template once, each after all that it depends on or refers to. -/
structure IsOrderOf (t : Template) (order : List String) : Prop where
  nodup : order.Nodup
  mem_iff : ∀ id, id ∈ order ↔ id ∈ t.resources.keys
  depends : ∀ id r, (id, r) ∈ t.resources.entries → ∀ source ∈ r.dependsOn,
    Precedes order source id
  refers : ∀ id r, (id, r) ∈ t.resources.entries → ∀ ref ∈ r.references,
    ref.target ≠ Bootstrap.versionParameter → Precedes order ref.target id

theorem template_ordered {t : Template} (made : s.synthesize = .ok t) :
    ∃ order, s.deployOrder = .ok order ∧ IsOrderOf t order := by
  obtain ⟨g, expansion, expands, built, graph, acyclic, _, rfl⟩ := graph_of_template made
  obtain ⟨valid, same_ids, edges⟩ := graph_of_ok built
  obtain ⟨order, found⟩ := (deploy_order_ok_iff valid).mpr acyclic
  have sound := deploy_order_sound valid found
  have after : ∀ id r, (id, r) ∈ expansion.entries → ∀ source ∈ r.prerequisites,
      Precedes order source id := fun id r member source needed =>
    sound.sorted source id
      ((edges source id).mpr ⟨r, (OrderedMap.get?_eq_some_iff _ _ _).mpr member, needed⟩)
  refine ⟨order, by rw [deploy_order_of_graph graph, found], sound.nodup, ?_, ?_, ?_⟩
  · exact fun id => (sound.mem_iff id).trans (by rw [same_ids]; rfl)
  · exact fun id r member source depends =>
      after id r member source ((Resource.mem_prerequisites_iff r source).mpr (.inl depends))
  · exact fun id r member ref refers declared =>
      after id r member ref.target
        ((Resource.mem_prerequisites_iff r ref.target).mpr (.inr ⟨ref, refers, declared, rfl⟩))

theorem synthesis_agrees_with_order (s : Stack) :
    ((∃ t, s.synthesize = .ok t) ↔
      ∃ g, s.dependencyGraph = .ok g ∧ g.Acyclic ∧ s.OutputsLead) ∧
    (∀ failure, s.deployOrder = .error failure → s.synthesize = .error failure) ∧
    (∀ t, s.synthesize = .ok t → ∃ order, s.deployOrder = .ok order ∧ IsOrderOf t order) :=
  ⟨synthesize_ok_iff s, fun _ failed => deploy_order_error_synthesize failed,
    fun _ made => template_ordered made⟩

end StackSynth.Stack
