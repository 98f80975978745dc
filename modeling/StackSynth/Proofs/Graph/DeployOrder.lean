import Mathlib.Data.List.Nodup
import StackSynth.Proofs.Graph.DepthFirst
import StackSynth.Proofs.Graph.Exploration

/-!
Deployment orders and cycles. A graph has a deployment order exactly if no way leads back to where
it started, and exactly then no cycle is reported.
-/
namespace StackSynth

namespace DependencyGraph

variable {g : DependencyGraph}

theorem targets_inside (valid : g.Valid) (id : String) : g.targets id ⊆ g.ids := fun _ member =>
  edge_target_known valid ((mem_targets_iff g _ _).mp member)

theorem follows_targets (g : DependencyGraph) : (fun a b => b ∈ g.targets a) = g.Edge := by
  funext a b
  exact propext (mem_targets_iff g a b)

theorem mem_search_order (valid : g.Valid) (id : String) : id ∈ g.searchOrder ↔ id ∈ g.ids :=
  Traversal.search_done (targets_inside valid) g.nodeCount id

theorem search_order_nodup (valid : g.Valid) : g.searchOrder.Nodup :=
  (Traversal.visit_extends (targets_inside valid) (g.nodeCount + 1) (List.Subset.refl g.ids)
    Traversal.empty_sound).sound.nodup

theorem search_ordered (valid : g.Valid) (acyclic : g.Acyclic) :
    Traversal.Ordered g.targets g.searchOrder := by
  refine (Traversal.visit_ordered (targets_inside valid) ?_ (List.Subset.refl g.ids)
    Traversal.empty_sound trivial ?_ ?_).1
  · rw [follows_targets]; exact acyclic
  · intro u opened
    simp [Traversal.Open] at opened
  · exact Nat.lt_succ_of_le (Nat.le_trans (List.length_filter_le _ _) (by simp [nodeCount, ids]))

theorem is_ordered_of_ordered (valid : g.Valid) {placed order : List String}
    (known : ∀ id ∈ g.ids, id ∈ placed ∨ id ∈ order) (nodup : order.Nodup)
    (ordered : Traversal.Ordered g.targets order) : g.isOrdered placed order = true := by
  induction order generalizing placed with
  | nil => rfl
  | cons id rest ih =>
    have ⟨later, nodup_rest⟩ := List.nodup_cons.mp nodup
    simp only [isOrdered, Bool.and_eq_true, List.all_eq_true, List.contains_iff_mem]
    constructor
    · intro source member
      have edge : g.Edge source id := (mem_sources_iff g source id).mp member
      have follows : id ∈ g.targets source := (mem_targets_iff g source id).mpr edge
      -- a source that is not placed yet would have its target behind it
      rcases known source (edge_source_known valid edge) with before | here
      · exact before
      · rcases List.mem_cons.mp here with rfl | after
        · exact absurd (ordered.1 follows) later
        · exact absurd (Traversal.ordered_closed ordered.2 after follows) later
    · apply ih _ nodup_rest ordered.2
      intro v member
      rcases known v member with before | here
      · exact .inl (List.mem_cons_of_mem id before)
      · rcases List.mem_cons.mp here with rfl | after
        · exact .inl List.mem_cons_self
        · exact .inr after

theorem is_ordered_source {placed order : List String} (checked : g.isOrdered placed order = true)
    {front back : List String} {source target : String}
    (cut : order = front ++ target :: back) (edge : g.Edge source target) :
    source ∈ placed ∨ source ∈ front := by
  induction front generalizing placed order with
  | nil =>
    subst cut
    simp only [List.nil_append, isOrdered, Bool.and_eq_true, List.all_eq_true,
      List.contains_iff_mem] at checked
    exact .inl (checked.1 source ((mem_sources_iff g source target).mpr edge))
  | cons id front ih =>
    subst cut
    simp only [List.cons_append, isOrdered, Bool.and_eq_true] at checked
    rcases ih checked.2 rfl with before | within
    · rcases List.mem_cons.mp before with rfl | before
      · exact .inr List.mem_cons_self
      · exact .inl before
    · exact .inr (List.mem_cons_of_mem id within)

/-- In an order that passes the check, a resource stands after all that it waits for. -/
theorem source_before_target (valid : g.Valid) (checked : g.isOrdered [] g.searchOrder = true)
    {source target : String} (edge : g.Edge source target) :
    g.searchOrder.idxOf source < g.searchOrder.idxOf target := by
  have member := (mem_search_order valid target).mpr (edge_target_known valid edge)
  obtain ⟨front, back, cut⟩ := List.append_of_mem member
  have before := (is_ordered_source checked cut edge).resolve_left (by simp)
  have nodup := search_order_nodup valid
  rw [cut] at nodup ⊢
  have apart : target ∉ front := fun within =>
    (List.nodup_append.mp nodup).2.2 target within target List.mem_cons_self rfl
  rw [List.idxOf_append_of_mem before, List.idxOf_append_of_notMem apart]
  have := List.idxOf_lt_length_iff.mpr before
  omega

theorem acyclic_of_ordered (valid : g.Valid) (checked : g.isOrdered [] g.searchOrder = true) :
    g.Acyclic := by
  have forward : ∀ a b, g.Reaches a b → g.searchOrder.idxOf a < g.searchOrder.idxOf b := by
    intro a b way
    induction way with
    | single edge => exact source_before_target valid checked edge
    | tail _ edge ih => exact Nat.lt_trans ih (source_before_target valid checked edge)
  exact fun id way => Nat.lt_irrefl _ (forward id id way)

theorem ordered_iff_acyclic (valid : g.Valid) :
    g.isOrdered [] g.searchOrder = true ↔ g.Acyclic := by
  constructor
  · exact acyclic_of_ordered valid
  · intro acyclic
    have known : ∀ id ∈ g.ids, id ∈ [] ∨ id ∈ g.searchOrder := fun id member =>
      .inr ((mem_search_order valid id).mpr member)
    exact is_ordered_of_ordered valid known (search_order_nodup valid)
      (search_ordered valid acyclic)

theorem mem_cycle_through (valid : g.Valid) {id : String} (way : g.Reaches id id) :
    id ∈ g.cycleThrough id := by
  have after := (mem_dependents_iff valid id id).mpr way
  have known := reaches_source_known valid way
  simp [cycleThrough, after, known]

theorem sort_ids_nonempty {cycle : List String} (nonempty : cycle ≠ []) : sortIds cycle ≠ [] := by
  intro empty
  have length := congrArg List.length empty
  simp only [sortIds, List.length_mergeSort, List.length_nil] at length
  exact nonempty (List.length_eq_zero_iff.mp length)

theorem collected_nonempty (g : DependencyGraph) (covered ids : List String) :
    ∀ cycle ∈ g.collectCycles covered ids, cycle ≠ [] := by
  induction ids generalizing covered with
  | nil => simp [collectCycles]
  | cons id rest ih =>
    intro cycle member
    simp only [collectCycles] at member
    split at member
    · exact ih covered cycle member
    · split at member
      · exact ih covered cycle member
      · next found _ nonempty =>
        rcases List.mem_cons.mp member with rfl | later
        · exact sort_ids_nonempty (by simpa using nonempty)
        · exact ih _ cycle later

theorem collect_finds {covered ids : List String} {id : String} (member : id ∈ ids)
    (fresh : id ∉ covered) (cyclic : g.cycleThrough id ≠ []) :
    g.collectCycles covered ids ≠ [] := by
  induction ids with
  | nil => simp at member
  | cons first rest ih =>
    simp only [collectCycles]
    split
    · next known =>
      rcases List.mem_cons.mp member with rfl | later
      · exact absurd (by simpa using known) fresh
      · exact ih later
    · split
      · next none =>
        rcases List.mem_cons.mp member with rfl | later
        · exact absurd none cyclic
        · exact ih later
      · simp

theorem cycles_nonempty (g : DependencyGraph) : ∀ cycle ∈ g.cycles, cycle ≠ [] := by
  intro cycle member
  simp only [cycles] at member
  split at member
  · simp at member
  · exact collected_nonempty g _ _ cycle (List.mem_reverse.mp member)

theorem cycles_empty_iff (valid : g.Valid) : g.cycles = [] ↔ g.Acyclic := by
  constructor
  · intro none
    by_contra cyclic
    have unordered : g.isOrdered [] g.searchOrder ≠ true := fun checked =>
      cyclic ((ordered_iff_acyclic valid).mp checked)
    obtain ⟨id, way⟩ := not_forall_not.mp cyclic
    simp only [cycles, if_neg unordered, List.reverse_eq_nil_iff] at none
    refine collect_finds ?_ (by simp) (List.ne_nil_of_mem (mem_cycle_through valid way)) none
    have inside : ∀ v, (g.targets v).reverse ⊆ g.ids := fun v w step =>
      targets_inside valid v (List.mem_reverse.mp step)
    exact (Traversal.search_done inside g.nodeCount id).mpr (reaches_source_known valid way)
  · intro acyclic
    simp [cycles, (ordered_iff_acyclic valid).mpr acyclic]

theorem has_cycles_iff (valid : g.Valid) : g.hasCycles = false ↔ g.Acyclic := by
  simp [hasCycles, ← cycles_empty_iff valid]

theorem deploy_order_cases (g : DependencyGraph) :
    (g.isOrdered [] g.searchOrder = true ∧ g.deployOrder = .ok g.searchOrder) ∨
    (g.isOrdered [] g.searchOrder ≠ true ∧
      g.deployOrder = .error (.dependencyCycle g.describeCycles)) := by
  by_cases checked : g.isOrdered [] g.searchOrder = true
  · exact .inl ⟨checked, by simp [deployOrder, checked]⟩
  · exact .inr ⟨checked, by simp [deployOrder, checked]⟩

theorem join_empty_iff {separator : String} (visible : separator ≠ "") (parts : List String) :
    Text.join separator parts = "" ↔ parts = [] ∨ parts = [""] := by
  match parts with
  | [] => simp [Text.join]
  | [part] => simp [Text.join]
  | first :: second :: rest => simp [Text.join, visible]

/-- Nothing is told of the cycles only where there is none, or none but that of the id without a
letter. -/
theorem describe_cycles_empty_iff (g : DependencyGraph) :
    g.describeCycles = "" ↔ g.cycles = [] ∨ g.cycles = [[""]] := by
  have told : ∀ cycle ∈ g.cycles, Text.join " <-> " cycle = "" ↔ cycle = [""] := by
    intro cycle member
    rw [join_empty_iff (by decide)]
    exact or_iff_right (cycles_nonempty g cycle member)
  rw [describeCycles, join_empty_iff (by decide), List.map_eq_nil_iff]
  apply or_congr_right
  match listed : g.cycles with
  | [] => simp
  | [cycle] => simpa using told cycle (by simp [listed])
  | first :: second :: rest => simp

/-- The first id stands before the second. -/
def Precedes (order : List String) (first second : String) : Prop :=
  order.idxOf first < order.idxOf second ∧ second ∈ order

/-- Every id of the graph once, each after all that it waits for. -/
structure IsDeployOrder (g : DependencyGraph) (order : List String) : Prop where
  nodup : order.Nodup
  mem_iff : ∀ id, id ∈ order ↔ id ∈ g.ids
  sorted : ∀ source target, g.Edge source target → Precedes order source target

theorem deploy_order_sound (valid : g.Valid) {order : List String}
    (found : g.deployOrder = .ok order) : g.IsDeployOrder order := by
  rcases deploy_order_cases g with ⟨checked, result⟩ | ⟨_, result⟩
  · rw [result] at found
    cases found
    refine ⟨search_order_nodup valid, mem_search_order valid, fun source target edge => ?_⟩
    exact ⟨source_before_target valid checked edge,
      (mem_search_order valid target).mpr (edge_target_known valid edge)⟩
  · rw [result] at found; cases found

theorem deploy_order_ok_iff (valid : g.Valid) :
    (∃ order, g.deployOrder = .ok order) ↔ g.Acyclic := by
  rw [← ordered_iff_acyclic valid]
  rcases deploy_order_cases g with ⟨checked, result⟩ | ⟨unchecked, result⟩
  · exact iff_of_true ⟨_, result⟩ checked
  · exact iff_of_false (by simp [result]) unchecked

theorem deploy_order_error {failure : Failure} (failed : g.deployOrder = .error failure) :
    failure = .dependencyCycle g.describeCycles := by
  rcases deploy_order_cases g with ⟨_, result⟩ | ⟨_, result⟩
  · rw [result] at failed; cases failed
  · rw [result] at failed; cases failed; rfl

theorem cycles_of_failed_order (valid : g.Valid) {failure : Failure}
    (failed : g.deployOrder = .error failure) : g.cycles ≠ [] := by
  intro none
  obtain ⟨order, found⟩ := (deploy_order_ok_iff valid).mpr ((cycles_empty_iff valid).mp none)
  rw [found] at failed
  cases failed

theorem deploy_order_of_calls (calls : List GraphCall) :
    let g := ofCalls calls
    ((∃ order, g.deployOrder = .ok order) ↔ g.hasCycles = false) ∧
    (g.hasCycles = false ↔ g.Acyclic) ∧
    (∀ order, g.deployOrder = .ok order → g.IsDeployOrder order) ∧
    (∀ failure, g.deployOrder = .error failure →
      failure = .dependencyCycle g.describeCycles ∧
      (g.describeCycles = "" ↔ g.cycles = [[""]])) := by
  intro g
  have valid : g.Valid := of_calls_valid calls
  refine ⟨(deploy_order_ok_iff valid).trans (has_cycles_iff valid).symm, has_cycles_iff valid,
    fun order found => deploy_order_sound valid found, fun failure failed => ?_⟩
  refine ⟨deploy_order_error failed, ?_⟩
  rw [describe_cycles_empty_iff]
  exact or_iff_right (cycles_of_failed_order valid failed)

/-- One node whose id has no letter, and an edge from it to itself. -/
def unnamedLoop : List GraphCall :=
  [.node "" "T", .dependency ⟨"", "", .explicit, none⟩]

theorem unnamed_loop_described_by_nothing :
    (ofCalls unnamedLoop).deployOrder = .error (.dependencyCycle "") ∧
    (ofCalls unnamedLoop).describeCycles = "" := by
  have told : (ofCalls unnamedLoop).describeCycles = "" := by cbv
  refine ⟨?_, told⟩
  rcases deploy_order_cases (ofCalls unnamedLoop) with ⟨checked, _⟩ | ⟨_, result⟩
  · exact absurd checked (by decide)
  · rw [result, told]

end DependencyGraph

end StackSynth
