import StackSynth.Proofs.Stack.Built
import StackSynth.Proofs.Stack.Dependencies

/-!
Stacks that are built by terms whose values lead to what is declared have a dependency graph. The one
way to miss it is the function that empties buckets: where its id is that of another resource, the
role that comes with it may never be declared. Where the terms also keep to layers, the graph has no
cycle.
-/
namespace StackSynth

variable {t : Terms} {s : Stack}

/-- Terms that let values refer to nothing but what is there. -/
def Terms.Closed (t : Terms) : Prop := ∀ s id, t.refers s id → s.contains id = true

/-- All waits resolve, and all that a resource needs is declared, but for the role that goes missing
where the id of the function is taken. -/
structure Stack.Closed (s : Stack) : Prop where
  waits : ∀ w ∈ s.waits, s.Resolves w
  targets : ∀ id r, s.resource? id = some r → ∀ target ∈ r.targets, s.contains target = true ∨
    s.HandlerTaken ∧ LogicalId.ofPath AutoDelete.rolePath = .ok target

theorem Admits.closed (closed : t.Closed) {type target : String} (admits : Admits t s type target) :
    s.contains target = true ∨
      s.HandlerTaken ∧ LogicalId.ofPath AutoDelete.rolePath = .ok target := by
  cases admits with
  | below there _ => exact .inl there.contains
  | supplied _ refers => exact .inl (closed s target refers)
  | taken taken known => exact known.imp_right fun role => ⟨taken, role⟩

theorem built_closed (built : Built t s) (closed : t.Closed) : s.Closed := by
  have sound := built_sound built
  refine ⟨fun w member => (sound.waits w member).1, fun id r found target needed => ?_⟩
  obtain ⟨d, there, rfl⟩ := Option.map_eq_some_iff.mp found
  exact ((sound.fits id d there).admits target needed).closed closed

namespace Stack

/-- What a resource needs with its waits is what it needs itself, or an answer to a wait. -/
theorem mem_prerequisites_with_waits {id source : String} {r : Resource}
    (needed : source ∈ (s.withWaits id r).prerequisites) :
    source ∈ r.targets ∨ ∃ w ∈ s.waits, w.dependent = id ∧ source ∈ s.waitedFor w := by
  rw [Resource.mem_prerequisites_iff] at needed
  rcases needed with depends | ⟨ref, refers, _, rfl⟩
  · rcases (mem_with_waits s id r source).mp depends with own | waited
    · exact .inl (List.mem_append_left _ own)
    · exact .inr waited
  · rw [with_waits_eq] at refers
    exact .inl (List.mem_append_right _ (List.mem_map_of_mem refers))

theorem Closed.graph (closed : s.Closed) :
    (∃ g, s.dependencyGraph = .ok g) ∨
    s.HandlerTaken ∧ ∃ source target, LogicalId.ofPath AutoDelete.rolePath = .ok target ∧
      s.contains target = false ∧ s.dependencyGraph = .error (.danglingReference source target) := by
  rcases expanded_cases s with ⟨_, expands⟩ | ⟨unresolved, _⟩
  · cases built : graphOf (s.resources.mapValues s.withWaits) with
    | ok g =>
      exact .inl ⟨g, by simp [dependencyGraph, expands, built, bind, Except.bind]⟩
    | error failure =>
      obtain ⟨source, r, target, there, needed, missing, rfl⟩ := graph_of_error built
      have undeclared : s.contains target = false := by
        rw [← Bool.not_eq_true, ← contains_resources, ← OrderedMap.contains_mapValues s.withWaits]
        exact fun known => missing ((OrderedMap.contains_iff _ _).mp known)
      rw [OrderedMap.get?_mapValues, Option.map_eq_some_iff] at there
      obtain ⟨own, found, rfl⟩ := there
      refine .inr ?_
      rcases mem_prerequisites_with_waits needed with own_target | ⟨w, _, _, answer⟩
      · rw [resources, OrderedMap.get?_mapValues] at found
        rcases closed.targets source own found target own_target with known | ⟨taken, role⟩
        · rw [undeclared] at known
          cases known
        · refine ⟨taken, source, target, role, undeclared, ?_⟩
          simp [dependencyGraph, expands, built, bind, Except.bind]
      · obtain ⟨_, d, found, _⟩ := (mem_waited_for w target).mp answer
        have known : s.contains target = true := At.contains ⟨d, found, rfl, rfl⟩
        rw [undeclared] at known
        cases known
  · exact absurd closed.waits unresolved

end Stack

/-! Nothing waits for itself where a resource needs only what is of a lower layer, or what was declared
before it within the lowest one. -/

/-- Terms that keep supplied values and waits to lower layers, and the id of the function that
empties buckets to itself. -/
structure Terms.Layered (t : Terms) : Prop where
  refers : ∀ s id, t.refers s id → ∃ path type, s.At id path type ∧ layer type < 2
  awaits : ∀ type path, t.awaits type path → ∀ below lower, path <+: below →
    t.declares below lower → layer lower < layer type
  handler : ∀ path type, t.declares path type →
    LogicalId.ofPath path = LogicalId.ofPath AutoDelete.handlerPath → path = AutoDelete.handlerPath

theorem Terms.Layered.closed (layered : t.Layered) : t.Closed := by
  intro s id refers
  obtain ⟨path, type, there, _⟩ := layered.refers s id refers
  exact there.contains

theorem handler_untaken (built : Built t s) (layered : t.Layered) : ¬ s.HandlerTaken := by
  rintro ⟨id, path, type, handler, ⟨d, found, rfl, rfl⟩, other⟩
  have sound := built_sound built
  have same := (sound.named id d found).trans handler.symm
  exact other (layered.handler d.path _ (sound.fits id d found).declares same)

/-- One resource is of a lower layer than another, or of the same and declared before it. -/
def Before (s : Stack) (source target : String) : Prop :=
  ∃ d e, s.declared.get? source = some d ∧ s.declared.get? target = some e ∧
    (layer d.resource.type < layer e.resource.type ∨ layer d.resource.type = layer e.resource.type ∧
      s.declared.keys.idxOf source < s.declared.keys.idxOf target)

theorem before_trans {a b c : String} (first : Before s a b) (second : Before s b c) :
    Before s a c := by
  obtain ⟨d, e, found, there, below⟩ := first
  obtain ⟨e', f, again, last, above⟩ := second
  rw [there] at again
  cases again
  exact ⟨d, f, found, last, by omega⟩

theorem not_before_self (id : String) : ¬ Before s id id := by
  rintro ⟨d, e, found, again, below⟩
  rw [found] at again
  cases again
  omega

theorem target_before (built : Built t s) (layered : t.Layered) {id target : String}
    {d : DeclaredResource} (found : s.declared.get? id = some d)
    (needed : target ∈ d.resource.targets) : Before s target id := by
  have sound := built_sound built
  have free := handler_untaken built layered
  by_cases low : layer d.resource.type = 0
  · obtain ⟨⟨_, _, ⟨e, there, _, rfl⟩, same⟩, earlier⟩ :=
      sound.ordered id d found low free target needed
    exact ⟨e, d, there, found, .inr ⟨by omega, earlier⟩⟩
  · cases (sound.fits id d found).admits target needed with
    | below there lower =>
      obtain ⟨e, there, _, rfl⟩ := there
      exact ⟨e, d, there, found, .inl (by omega)⟩
    | supplied late refers =>
      obtain ⟨_, _, ⟨e, there, _, rfl⟩, lower⟩ := layered.refers s target refers
      exact ⟨e, d, there, found, .inl (by omega)⟩
    | taken taken _ => exact absurd taken free

theorem answer_before (built : Built t s) (layered : t.Layered) {w : Wait} {answer : String}
    (waits : w ∈ s.waits) (answers : answer ∈ s.waitedFor w) : Before s answer w.dependent := by
  have sound := built_sound built
  obtain ⟨_, d, found, below⟩ := (Stack.mem_waited_for w answer).mp answers
  obtain ⟨_, _, _, ⟨e, there, _, rfl⟩, awaits⟩ := sound.waits w waits
  exact ⟨d, e, found, there, .inl
    (layered.awaits _ _ awaits d.path _ below (sound.fits answer d found).declares)⟩

/-- What such a stack needs can be laid out in an order. -/
theorem built_acyclic (built : Built t s) (layered : t.Layered) :
    ∃ g, s.dependencyGraph = .ok g ∧ g.Acyclic := by
  rcases (built_closed built layered.closed).graph with ⟨g, graph⟩ | ⟨taken, _⟩
  · obtain ⟨expansion, expands, made⟩ := Stack.graph_expands graph
    have edge_before : ∀ source target, g.Edge source target → Before s source target := by
      intro source target edge
      obtain ⟨r, found, needed⟩ := ((Stack.graph_of_ok made).2.2 source target).mp edge
      rw [Stack.expanded_ok expands, OrderedMap.get?_mapValues, Stack.resources,
        OrderedMap.get?_mapValues, Option.map_map, Option.map_eq_some_iff] at found
      obtain ⟨d, there, rfl⟩ := found
      rcases Stack.mem_prerequisites_with_waits needed with own | ⟨w, waits, rfl, answers⟩
      · exact target_before built layered there own
      · exact answer_before built layered waits answers
    refine ⟨g, graph, fun id cycle => ?_⟩
    -- a path along edges goes up all the way
    have up : ∀ {a b}, g.Reaches a b → Before s a b := by
      intro a b path
      induction path with
      | single edge => exact edge_before _ _ edge
      | tail _ edge ih => exact before_trans ih (edge_before _ _ edge)
    exact not_before_self id (up cycle)
  · exact absurd taken (handler_untaken built layered)

end StackSynth
