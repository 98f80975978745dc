import Mathlib.Data.List.Basic
import StackSynth.Stack.Synthesis

/-!
Waits on paths spelled out as dependencies. The expansion fails only for a wait that nothing answers,
and otherwise adds to the dependencies of the resources that wait and changes nothing else.
-/
namespace StackSynth

namespace Resource

theorem add_dependency_eq (r : Resource) (id : String) :
    r.addDependency id = { r with dependsOn := (r.addDependency id).dependsOn } := by
  rw [addDependency]
  split <;> rfl

theorem mem_add_dependency (r : Resource) (id target : String) :
    target ∈ (r.addDependency id).dependsOn ↔ target ∈ r.dependsOn ∨ target = id := by
  rw [addDependency]
  split
  · next known =>
    have known : id ∈ r.dependsOn := by simpa using known
    exact ⟨.inl, fun either => either.elim (fun old => old) fun same => same ▸ known⟩
  · simp

theorem add_dependencies_eq (targets : List String) (r : Resource) :
    targets.foldl addDependency r =
      { r with dependsOn := (targets.foldl addDependency r).dependsOn } := by
  induction targets generalizing r with
  | nil => rfl
  | cons id rest ih => rw [List.foldl_cons, ih, add_dependency_eq]

theorem mem_add_dependencies (targets : List String) (r : Resource) (target : String) :
    target ∈ (targets.foldl addDependency r).dependsOn ↔
      target ∈ r.dependsOn ∨ target ∈ targets := by
  induction targets generalizing r with
  | nil => simp
  | cons id rest ih => rw [List.foldl_cons, ih, mem_add_dependency, List.mem_cons, or_assoc]

end Resource

namespace Stack

variable {s : Stack}

/-- There is a resource that waits, and another one that it waits for. -/
def Resolves (s : Stack) (w : Wait) : Prop := s.waitedFor w ≠ [] ∧ s.contains w.dependent = true

def addWait (s : Stack) (id : String) (r : Resource) (w : Wait) : Resource :=
  if id = w.dependent then (s.waitedFor w).foldl Resource.addDependency r else r

/-- A resource with all that its waits stand for. -/
def withWaits (s : Stack) (id : String) (r : Resource) : Resource := s.waits.foldl (s.addWait id) r

theorem mem_waited_for (w : Wait) (id : String) :
    id ∈ s.waitedFor w ↔
      id ≠ w.dependent ∧ ∃ d, s.declared.get? id = some d ∧ w.path <+: d.path := by
  simp only [waitedFor, List.mem_map, List.mem_filter, Bool.and_eq_true, bne_iff_ne,
    List.isPrefixOf_iff_prefix, OrderedMap.get?_eq_some_iff]
  constructor
  · rintro ⟨⟨k, d⟩, ⟨member, other, below⟩, rfl⟩
    exact ⟨other, d, member, below⟩
  · rintro ⟨other, d, member, below⟩
    exact ⟨(id, d), ⟨member, other, below⟩, rfl⟩

theorem contains_resources (s : Stack) (id : String) :
    s.resources.contains id = s.contains id := by
  simp [resources, contains]

theorem expand_wait_resolves {w : Wait} (resolves : s.Resolves w)
    (f : String → Resource → Resource) :
    s.expandWait (s.resources.mapValues f) w =
      .ok (s.resources.mapValues fun id r => s.addWait id (f id r) w) := by
  simp only [expandWait, List.isEmpty_iff, if_neg resolves.1, OrderedMap.contains_mapValues,
    contains_resources, resolves.2, OrderedMap.modify, OrderedMap.mapValues_mapValues]
  rfl

theorem expand_wait_fails {w : Wait} (unresolved : ¬ s.Resolves w)
    (f : String → Resource → Resource) :
    ∃ id, s.expandWait (s.resources.mapValues f) w = .error (.resourceNotFound id) := by
  by_cases none : s.waitedFor w = []
  · exact ⟨Text.join "/" w.path, by simp [expandWait, none]⟩
  · have undeclared : s.contains w.dependent = false := by
      simpa [Resolves, none] using unresolved
    exact ⟨w.dependent, by simp [expandWait, none, contains_resources, undeclared]⟩

theorem expand_waits (waits : List Wait) (f : String → Resource → Resource) :
    (∀ w ∈ waits, s.Resolves w) ∧ waits.foldlM s.expandWait (s.resources.mapValues f) =
      .ok (s.resources.mapValues fun id r => waits.foldl (s.addWait id) (f id r)) ∨
    (¬ ∀ w ∈ waits, s.Resolves w) ∧
      ∃ id, waits.foldlM s.expandWait (s.resources.mapValues f) = .error (.resourceNotFound id) := by
  induction waits generalizing f with
  | nil => exact .inl ⟨by simp, rfl⟩
  | cons w rest ih =>
    simp only [List.foldlM_cons, List.forall_mem_cons, List.foldl_cons]
    by_cases resolves : s.Resolves w
    · rw [expand_wait_resolves resolves]
      rcases ih fun id r => s.addWait id (f id r) w with ⟨others, done⟩ | ⟨others, failed⟩
      · exact .inl ⟨⟨resolves, others⟩, done⟩
      · exact .inr ⟨fun all => others all.2, failed⟩
    · obtain ⟨id, failed⟩ := expand_wait_fails resolves f
      rw [failed]
      exact .inr ⟨fun all => resolves all.1, id, rfl⟩

theorem map_values_same (s : Stack) : s.resources.mapValues (fun _ r => r) = s.resources := by
  apply OrderedMap.ext
  simp [OrderedMap.mapValues]

theorem expanded_cases (s : Stack) :
    (∀ w ∈ s.waits, s.Resolves w) ∧ s.expanded = .ok (s.resources.mapValues s.withWaits) ∨
    (¬ ∀ w ∈ s.waits, s.Resolves w) ∧ ∃ id, s.expanded = .error (.resourceNotFound id) := by
  have cases := expand_waits (s := s) s.waits fun _ r => r
  rw [map_values_same] at cases
  exact cases

theorem expanded_ok {expansion : OrderedMap Resource} (expands : s.expanded = .ok expansion) :
    expansion = s.resources.mapValues s.withWaits := by
  rcases expanded_cases s with ⟨_, result⟩ | ⟨_, id, result⟩
  · rw [result] at expands; cases expands; rfl
  · rw [result] at expands; cases expands

theorem add_wait_eq (id : String) (r : Resource) (w : Wait) :
    s.addWait id r w = { r with dependsOn := (s.addWait id r w).dependsOn } := by
  rw [addWait]
  split
  · exact Resource.add_dependencies_eq _ r
  · rfl

theorem mem_add_wait (id : String) (r : Resource) (w : Wait) (target : String) :
    target ∈ (s.addWait id r w).dependsOn ↔
      target ∈ r.dependsOn ∨ (w.dependent = id ∧ target ∈ s.waitedFor w) := by
  rw [addWait]
  split
  · next same => simp [Resource.mem_add_dependencies, same]
  · next other => simp [Ne.symm other]

theorem add_waits_eq (waits : List Wait) (id : String) (r : Resource) :
    waits.foldl (s.addWait id) r =
      { r with dependsOn := (waits.foldl (s.addWait id) r).dependsOn } := by
  induction waits generalizing r with
  | nil => rfl
  | cons w rest ih => rw [List.foldl_cons, ih, add_wait_eq]

/-- Nothing but the dependencies of a resource changes. -/
theorem with_waits_eq (s : Stack) (id : String) (r : Resource) :
    s.withWaits id r = { r with dependsOn := (s.withWaits id r).dependsOn } :=
  add_waits_eq s.waits id r

theorem mem_with_waits (s : Stack) (id : String) (r : Resource) (target : String) :
    target ∈ (s.withWaits id r).dependsOn ↔
      target ∈ r.dependsOn ∨ ∃ w ∈ s.waits, w.dependent = id ∧ target ∈ s.waitedFor w := by
  rw [withWaits]
  generalize s.waits = waits
  induction waits generalizing r with
  | nil => simp
  | cons w rest ih =>
    simp only [List.foldl_cons, ih, mem_add_wait, List.exists_mem_cons_iff, or_assoc]

end Stack

end StackSynth
