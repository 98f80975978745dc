import StackSynth.Proofs.Stack.Calls
import StackSynth.Proofs.Stack.Resolution

/-!
The names in a template. Parameters, resources and outputs are named in one space. A stack refuses an
id that a resource or an output has already; nobody asks whether it is the name of the parameter that
every template carries, and references to that name make no edge.
-/
namespace StackSynth

namespace Template

/-- Every name in the template, as often as it is given. -/
def names (t : Template) : List String := t.parameters.keys ++ (t.resources.keys ++ t.outputs.keys)

def Unambiguous (t : Template) : Prop := t.names.Nodup

/-- What a reference of the template's resources leads to is there once, and comes before the
resource that refers to it if it is a resource, too. -/
structure Resolves (t : Template) (g : DependencyGraph) : Prop where
  once : ∀ id r, t.resource? id = some r → ∀ ref ∈ r.references, t.names.count ref.target = 1
  edge : ∀ id r, t.resource? id = some r → ∀ ref ∈ r.references,
    t.resources.contains ref.target = true → g.Edge ref.target id

end Template

/-- A call that wants something of the stack to have a name. -/
def StackCall.AsksFor (name : String) : StackCall → Prop
  | declare path _ => LogicalId.ofPath path = .ok name
  | addOutput id _ _ => id = name
  | edit _ _ | pushProperty _ _ _ | waitFor _ _ | waitForPath _ _ | recordGrant _ | addAsset _
  | setDescription _ => False

instance (name : String) : DecidablePred (StackCall.AsksFor name)
  | .declare path _ => inferInstanceAs (Decidable (LogicalId.ofPath path = .ok name))
  | .addOutput id _ _ => inferInstanceAs (Decidable (id = name))
  | .edit _ _ | .pushProperty _ _ _ | .waitFor _ _ | .waitForPath _ _ | .recordGrant _
  | .addAsset _ | .setDescription _ => isFalse fun asks => asks

namespace Stack

open DependencyGraph

variable {s : Stack} {t : Template} {g : DependencyGraph} {name : String}

namespace Maps

variable {m : Maps}

theorem taken_edit (m : Maps) (id name : String) (f : Resource → Resource) :
    (m.edit id f).isTaken name = m.isTaken name := by
  rw [edit]
  split
  · rw [isTaken, isTaken, OrderedMap.modify, OrderedMap.contains_mapValues]
  · rfl

theorem taken_already {id : String} (taken : m.isTaken id = true) (name : String) :
    m.isTaken name = true ↔ m.isTaken name = true ∨ id = name :=
  ⟨.inl, fun either => either.elim (fun old => old) fun same => same ▸ taken⟩

theorem taken_declare (m : Maps) (path : List String) (r : Resource) (name : String) :
    (m.declare path r).isTaken name = true ↔
      m.isTaken name = true ∨ LogicalId.ofPath path = .ok name := by
  rw [declare]
  cases LogicalId.ofPath path with
  | error failure => simp
  | ok id =>
    simp only [Except.ok.injEq]
    by_cases taken : m.isTaken id = true
    · rw [if_pos taken]
      exact taken_already taken name
    · rw [if_neg taken]
      simp only [isTaken, OrderedMap.contains_insert, Bool.or_eq_true, decide_eq_true_eq]
      rw [or_assoc, or_comm]

theorem taken_add_output (m : Maps) (id name : String) (output : Output) :
    (m.addOutput id output).isTaken name = true ↔ m.isTaken name = true ∨ id = name := by
  rw [addOutput]
  by_cases taken : m.isTaken id = true
  · rw [if_pos taken]
    exact taken_already taken name
  · rw [if_neg taken]
    simp only [isTaken, OrderedMap.contains_insert, Bool.or_eq_true, decide_eq_true_eq]
    rw [or_assoc, @or_comm (id = name)]

end Maps

/-- A call takes the name that it asks for, if it is not taken already, and no other. -/
theorem taken_after (s : Stack) (call : StackCall) (name : String) :
    (s.after call).isTaken name = true ↔ s.isTaken name = true ∨ call.AsksFor name := by
  rw [← maps_taken, ← maps_taken, maps_after]
  cases call with
  | declare path r => exact Maps.taken_declare s.maps path r name
  | addOutput id value description => exact Maps.taken_add_output s.maps id name _
  | edit id f => simp [Maps.after, Maps.taken_edit, StackCall.AsksFor]
  | pushProperty id key value => simp [Maps.after, Maps.taken_edit, StackCall.AsksFor]
  | waitFor _ _ | waitForPath _ _ | recordGrant _ | addAsset _ | setDescription _ =>
    simp [Maps.after, StackCall.AsksFor]

theorem taken_after_all (s : Stack) (calls : List StackCall) (name : String) :
    (s.afterAll calls).isTaken name = true ↔
      s.isTaken name = true ∨ ∃ call ∈ calls, call.AsksFor name := by
  induction calls generalizing s with
  | nil => simp [afterAll]
  | cons call rest ih =>
    rw [List.exists_mem_cons_iff, ← or_assoc, ← taken_after]
    exact ih (s.after call)

/-! What becomes of the names in the template. -/

theorem keys_of_template (made : s.synthesize = .ok t) :
    t.parameters.keys = [Bootstrap.versionParameter] ∧ t.resources.keys = s.resources.keys ∧
      t.outputs = s.outputs := by
  obtain ⟨_, expansion, expands, _, _, _, _, rfl⟩ := graph_of_template made
  refine ⟨rfl, ?_, rfl⟩
  change expansion.keys = s.resources.keys
  rw [expanded_ok expands, OrderedMap.keys_mapValues]

theorem Consistent.named_apart (consistent : s.Consistent) :
    (s.resources.keys ++ s.outputs.keys).Nodup := by
  rw [List.nodup_append]
  refine ⟨s.resources.distinct, s.outputs.distinct, ?_⟩
  rintro id resource _ output rfl
  have free := consistent.apart id ((OrderedMap.contains_iff _ _).mpr resource)
  rw [(OrderedMap.contains_iff _ _).mpr output] at free
  cases free

theorem taken_iff (s : Stack) (id : String) :
    s.isTaken id = true ↔ id ∈ s.resources.keys ++ s.outputs.keys := by
  rw [isTaken, Bool.or_eq_true, List.mem_append, ← OrderedMap.contains_iff,
    ← OrderedMap.contains_iff, contains_resources]

theorem unambiguous_iff (consistent : s.Consistent) (made : s.synthesize = .ok t) :
    t.Unambiguous ↔ s.isTaken Bootstrap.versionParameter = false := by
  obtain ⟨parameters, resources, outputs⟩ := keys_of_template made
  rw [← Bool.not_eq_true, taken_iff, Template.Unambiguous, Template.names, parameters, resources,
    outputs, List.singleton_append, List.nodup_cons]
  exact and_iff_left consistent.named_apart

/-- A reference leads to the parameter or to a resource, and to a resource by an edge, unless the
resource has the parameter's name. -/
theorem reference_leads (made : s.synthesize = .ok t) (graph : s.dependencyGraph = .ok g)
    {id : String} {r : Resource} (found : t.resource? id = some r) {ref : Reference}
    (refers : ref ∈ r.references) :
    ref.target ∈ t.parameters.keys ++ t.resources.keys ∧
      (t.resources.contains ref.target = true →
        (g.Edge ref.target id ↔
          ref.target ≠ Bootstrap.versionParameter ∨ ref.target ∈ r.dependsOn)) := by
  obtain ⟨g', expansion, expands, built, graph', _, _, rfl⟩ := graph_of_template made
  obtain rfl : g = g' := Except.ok.inj (graph.symm.trans graph')
  have edge := (is_graph_of expands built).edge_iff ref.target id
  constructor
  · by_cases parameter : ref.target = Bootstrap.versionParameter
    · exact List.mem_append_left _ (parameter ▸ List.mem_singleton_self _)
    · have known := edge_source_known (graph_valid graph)
        (edge.mpr ⟨r, found, .inr ⟨parameter, ref, refers, rfl⟩⟩)
      rw [(graph_of_ok built).2.1] at known
      exact List.mem_append_right _ known
  · intro _
    rw [edge]
    constructor
    · rintro ⟨r', again, depends | ⟨other, _⟩⟩
      · have same : r = r' := Option.some.inj (found.symm.trans again)
        exact .inr (same ▸ depends)
      · exact .inl other
    · rintro (other | depends)
      · exact ⟨r, found, .inr ⟨other, ref, refers, rfl⟩⟩
      · exact ⟨r, found, .inl depends⟩

theorem resolves_of_unambiguous (made : s.synthesize = .ok t) (graph : s.dependencyGraph = .ok g)
    (unambiguous : t.Unambiguous) : t.Resolves g where
  once := by
    intro id r found ref refers
    apply List.count_eq_one_of_mem unambiguous
    rw [Template.names, ← List.append_assoc]
    exact List.mem_append_left _ (reference_leads made graph found refers).1
  edge := by
    intro id r found ref refers resource
    refine ((reference_leads made graph found refers).2 resource).mpr (.inl ?_)
    intro parameter
    have parameters := (keys_of_template made).1
    rw [Template.Unambiguous, Template.names, List.nodup_append] at unambiguous
    refine unambiguous.2.2 ref.target ?_ ref.target ?_ rfl
    · rw [parameters, parameter]
      exact List.mem_singleton_self _
    · exact List.mem_append_left _ ((OrderedMap.contains_iff _ _).mp resource)

/-- Whatever is called: resources and outputs of a template never share a name, and no name is given
twice unless a call has asked for the parameter's. Where no name is, every reference leads to one
thing, and an edge comes from every resource that is referred to. -/
theorem names_of_calls {name : String} {environment : Environment} {start : Stack}
    (started : make name environment = .ok start) (calls : List StackCall)
    (made : (start.afterAll calls).synthesize = .ok t) :
    (t.resources.keys ++ t.outputs.keys).Nodup ∧
      (t.Unambiguous ↔ ∀ call ∈ calls, ¬ call.AsksFor Bootstrap.versionParameter) ∧
      ∃ g, (start.afterAll calls).dependencyGraph = .ok g ∧ (t.Unambiguous → t.Resolves g) ∧
        ∀ id r, t.resource? id = some r → ∀ ref ∈ r.references,
          t.resources.contains ref.target = true →
            (g.Edge ref.target id ↔
              ref.target ≠ Bootstrap.versionParameter ∨ ref.target ∈ r.dependsOn) := by
  have consistent := consistent_after_all (make_consistent started) calls
  obtain ⟨_, resources, outputs⟩ := keys_of_template made
  obtain ⟨g, _, _, _, graph, _⟩ := graph_of_template made
  refine ⟨?_, ?_, g, graph, resolves_of_unambiguous made graph, ?_⟩
  · rw [resources, outputs]
    exact consistent.named_apart
  · have fresh : start.isTaken Bootstrap.versionParameter = false := by
      rw [make_ok started]
      rfl
    rw [unambiguous_iff consistent made, ← Bool.not_eq_true, taken_after_all, fresh]
    simp
  · intro id r found ref refers
    exact (reference_leads made graph found refers).2

/-- A topic with the name of the parameter, and one that refers to that name. -/
def namesakes : List StackCall := [
  .declare ["BootstrapVersion"] { type := "AWS::SNS::Topic" },
  .declare ["Second"] {
    type := "AWS::SNS::Topic"
    properties := [("DisplayName", (Value.ref "BootstrapVersion").toJson)] }]

/-- The name is given twice, and the reference to it makes no edge. -/
theorem namesakes_confused :
    ∃ start t g, make "Test" ⟨"123456789012", "us-east-1"⟩ = .ok start ∧
      (start.afterAll namesakes).synthesize = .ok t ∧
      (start.afterAll namesakes).dependencyGraph = .ok g ∧ ¬ t.Unambiguous ∧
      ∃ r, t.resource? "Second" = some r ∧ ∃ ref ∈ r.references,
        t.resources.contains ref.target = true ∧ t.names.count ref.target = 2 ∧
        ¬ g.Edge ref.target "Second" := by
  have named : isName "Test" = true := by decide
  refine ⟨{ name := "Test", environment := ⟨"123456789012", "us-east-1"⟩ }, _, _, ?_, rfl, rfl,
    ?_, _, rfl, ⟨"BootstrapVersion", none⟩, ?_, rfl, by decide, ?_⟩
  · rw [make, if_pos named]
  · unfold Template.Unambiguous
    decide
  · decide
  · rintro ⟨e, member, -⟩
    cases member

/-- Two topics, one of which refers to the other, and an output for it. -/
def toldApart : List StackCall := [
  .declare ["First"] { type := "AWS::SNS::Topic" },
  .declare ["Second"] {
    type := "AWS::SNS::Topic"
    properties := [("DisplayName", (Value.ref "First").toJson)] },
  .addOutput "Topic" (.ref "Second") none]

theorem told_apart_resolves :
    ∃ start t g, make "Test" ⟨"123456789012", "us-east-1"⟩ = .ok start ∧
      (start.afterAll toldApart).synthesize = .ok t ∧
      (start.afterAll toldApart).dependencyGraph = .ok g ∧
      t.resources.keys ++ t.outputs.keys = ["First", "Second", "Topic"] ∧
      t.Unambiguous ∧ t.Resolves g ∧ g.Edge "First" "Second" := by
  have named : isName "Test" = true := by decide
  have started : make "Test" ⟨"123456789012", "us-east-1"⟩ =
      .ok { name := "Test", environment := ⟨"123456789012", "us-east-1"⟩ } := by
    rw [make, if_pos named]
  obtain ⟨_, unambiguous_iff, g, graph, resolves, -⟩ := names_of_calls started toldApart rfl
  have unambiguous := unambiguous_iff.mpr (by decide)
  refine ⟨_, _, g, started, rfl, graph, rfl, unambiguous, resolves unambiguous, ?_⟩
  exact (resolves unambiguous).edge "Second" _ rfl ⟨"First", none⟩ (by decide) rfl

end Stack

end StackSynth
