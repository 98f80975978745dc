import StackSynth.Proofs.Stack.Edges

/-!
The template of a stack, resource by resource. Synthesis keeps the declared resources in their order
and changes nothing of them but what they depend on: the ids that their waits stand for come after
the declared ones, each once. A wait that nothing answers, or on which nobody waits, is the only
reason to miss a resource.
-/
namespace StackSynth

/-- The list goes on with ids that are new, each of them once. -/
def Extended (old new : List String) : Prop :=
  ∃ added, new = old ++ added ∧ added.Nodup ∧ ∀ id ∈ added, id ∉ old

theorem extended_refl (ids : List String) : Extended ids ids := ⟨[], by simp⟩

theorem extended_trans {ids more most : List String} (first : Extended ids more)
    (second : Extended more most) : Extended ids most := by
  obtain ⟨added, rfl, nodup, fresh⟩ := first
  obtain ⟨further, rfl, nodup', fresh'⟩ := second
  refine ⟨added ++ further, List.append_assoc _ _ _, ?_, ?_⟩
  · rw [List.nodup_append]
    refine ⟨nodup, nodup', ?_⟩
    rintro id member _ again rfl
    exact fresh' id again (List.mem_append_right _ member)
  · intro id member
    rcases List.mem_append.mp member with here | later
    · exact fresh id here
    · exact fun old => fresh' id later (List.mem_append_left _ old)

theorem foldl_extended {α : Type} {step : Resource → α → Resource}
    (extends_each : ∀ r a, Extended r.dependsOn (step r a).dependsOn) (items : List α)
    (r : Resource) : Extended r.dependsOn (items.foldl step r).dependsOn := by
  induction items generalizing r with
  | nil => exact extended_refl r.dependsOn
  | cons a rest ih => exact extended_trans (extends_each r a) (ih (step r a))

theorem Resource.add_dependency_extended (r : Resource) (id : String) :
    Extended r.dependsOn (r.addDependency id).dependsOn := by
  rw [addDependency]
  split
  · exact extended_refl r.dependsOn
  · next unknown =>
    refine ⟨[id], rfl, List.nodup_singleton id, ?_⟩
    intro other member known
    rw [List.mem_singleton.mp member] at known
    exact unknown (List.contains_iff_mem.mpr known)

namespace Stack

variable {s : Stack}

theorem add_wait_extended (s : Stack) (id : String) (r : Resource) (w : Wait) :
    Extended r.dependsOn (s.addWait id r w).dependsOn := by
  rw [addWait]
  split
  · exact foldl_extended Resource.add_dependency_extended (s.waitedFor w) r
  · exact extended_refl r.dependsOn

theorem with_waits_extended (s : Stack) (id : String) (r : Resource) :
    Extended r.dependsOn (s.withWaits id r).dependsOn :=
  foldl_extended (s.add_wait_extended id) s.waits r

/-- A resource other than the one that waits is declared at the path that is waited for, or below
it. -/
def Answers (s : Stack) (w : Wait) (id : String) : Prop :=
  id ≠ w.dependent ∧ ∃ path, s.path? id = some path ∧ w.path <+: path

theorem mem_waited_for_iff (w : Wait) (id : String) : id ∈ s.waitedFor w ↔ s.Answers w id := by
  simp only [mem_waited_for, Answers, path?, Option.map_eq_some_iff]
  constructor
  · rintro ⟨other, d, found, below⟩
    exact ⟨other, d.path, ⟨d, found, rfl⟩, below⟩
  · rintro ⟨other, _, ⟨d, found, rfl⟩, below⟩
    exact ⟨other, d, found, below⟩

/-- What synthesis may make of a declared resource. -/
structure Resolved (s : Stack) (id : String) (declared r : Resource) : Prop where
  same : r = { declared with dependsOn := r.dependsOn }
  extended : Extended declared.dependsOn r.dependsOn
  depends_iff : ∀ other, other ∈ r.dependsOn ↔
    other ∈ declared.dependsOn ∨ ∃ w ∈ s.waits, w.dependent = id ∧ s.Answers w other

theorem with_waits_resolved (s : Stack) (id : String) (declared : Resource) :
    Resolved s id declared (s.withWaits id declared) := by
  constructor
  · exact with_waits_eq s id declared
  · exact with_waits_extended s id declared
  · intro other
    simp only [mem_with_waits, mem_waited_for_iff]

theorem template_resolved {t : Template} (made : s.synthesize = .ok t) :
    t.resources.keys = s.declared.keys ∧ ∀ id r, t.resource? id = some r →
      ∃ declared, s.resource? id = some declared ∧ Resolved s id declared r := by
  obtain ⟨g, expansion, expands, _, _, _, _, rfl⟩ := graph_of_template made
  constructor
  · change expansion.keys = s.declared.keys
    rw [expanded_ok expands, resources, OrderedMap.keys_mapValues, OrderedMap.keys_mapValues]
  · intro id r found
    have found : expansion.get? id = some r := found
    rw [expanded_ok expands, OrderedMap.get?_mapValues, resources, OrderedMap.get?_mapValues,
      Option.map_map, Option.map_eq_some_iff] at found
    obtain ⟨d, there, rfl⟩ := found
    exact ⟨d.resource, Option.map_eq_some_iff.mpr ⟨d, there, rfl⟩, with_waits_resolved s id _⟩

/-- Where all waits resolve, nothing else is missed by name. -/
theorem synthesize_not_missing (resolve : ∀ w ∈ s.waits, s.Resolves w) (name : String) :
    s.synthesize ≠ .error (.resourceNotFound name) := by
  intro failed
  rcases expanded_cases s with ⟨_, expands⟩ | ⟨unresolved, _⟩
  · cases built : graphOf (s.resources.mapValues s.withWaits) with
    | error failure =>
      obtain ⟨id, _, source, _, _, _, rfl⟩ := graph_of_error built
      have graph := (graph_of_expansion expands).trans built
      rw [synthesize_of_no_graph graph] at failed
      cases failed
    | ok g =>
      rcases synthesize_of_graph expands built with ⟨_, _, result⟩ | ⟨_, _, _, _, result⟩ |
        ⟨_, result⟩
      all_goals rw [result] at failed; cases failed
  · exact unresolved resolve

theorem missing_iff (s : Stack) :
    (∃ name, s.synthesize = .error (.resourceNotFound name)) ↔
      ∃ w ∈ s.waits, (¬ ∃ id, s.Answers w id) ∨ s.contains w.dependent = false := by
  have unresolved_iff : (¬ ∀ w ∈ s.waits, s.Resolves w) ↔
      ∃ w ∈ s.waits, (¬ ∃ id, s.Answers w id) ∨ s.contains w.dependent = false := by
    simp only [Resolves, ne_eq, List.eq_nil_iff_forall_not_mem, mem_waited_for_iff, not_forall,
      not_and_or, not_not, Bool.not_eq_true, not_exists, exists_prop]
  rw [← unresolved_iff]
  constructor
  · rintro ⟨name, failed⟩ resolve
    exact synthesize_not_missing resolve name failed
  · intro unresolved
    rcases expanded_cases s with ⟨resolve, _⟩ | ⟨_, name, failed⟩
    · exact absurd resolve unresolved
    · have graph : s.dependencyGraph = .error (.resourceNotFound name) := by
        simp [dependencyGraph, failed, bind, Except.bind]
      exact ⟨name, synthesize_of_no_graph graph⟩

theorem synthesis_resolves_waits (s : Stack) :
    (∀ t, s.synthesize = .ok t → t.resources.keys = s.declared.keys ∧
      ∀ id r, t.resource? id = some r →
        ∃ declared, s.resource? id = some declared ∧ Resolved s id declared r) ∧
    ((∃ name, s.synthesize = .error (.resourceNotFound name)) ↔
      ∃ w ∈ s.waits, (¬ ∃ id, s.Answers w id) ∨ s.contains w.dependent = false) := by
  constructor
  · intro t made
    exact template_resolved made
  · exact missing_iff s

end Stack

end StackSynth
