import Mathlib.Data.List.Perm.Lattice
import Mathlib.Data.String.Basic
import StackSynth.Proofs.Graph.DeployOrder

/-!
The reported cycles are the classes of ids that reach one another, without the ids that do not even
reach themselves: each class once, and its ids in order.
-/
namespace StackSynth

namespace DependencyGraph

variable {g : DependencyGraph}

/-- Each id reaches the other by one or more edges. -/
def Mutual (g : DependencyGraph) (a b : String) : Prop := g.Reaches a b ∧ g.Reaches b a

theorem mutual_symm {a b : String} (both : g.Mutual a b) : g.Mutual b a := ⟨both.2, both.1⟩

theorem mutual_trans {a b c : String} (first : g.Mutual a b) (second : g.Mutual b c) :
    g.Mutual a c :=
  ⟨first.1.trans second.1, second.2.trans first.2⟩

theorem mutual_self_iff {a : String} : g.Mutual a a ↔ g.Reaches a a := and_self_iff

theorem mem_cycle_through_iff (valid : g.Valid) (id v : String) :
    v ∈ g.cycleThrough id ↔ g.Mutual id v := by
  have after : ∀ a b, (g.dependents a).contains b = true ↔ g.Reaches a b := fun a b => by
    rw [List.contains_iff_mem, mem_dependents_iff valid]
  simp only [cycleThrough]
  by_cases cyclic : g.Reaches id id
  · rw [if_pos ((after id id).mpr cyclic), List.mem_filter, Bool.and_eq_true, after, after]
    exact and_iff_right_of_imp fun both => reaches_source_known valid both.2
  · rw [if_neg (mt (after id id).mp cyclic)]
    exact iff_of_false List.not_mem_nil fun both => cyclic (both.1.trans both.2)

theorem cycle_through_nodup (valid : g.Valid) (id : String) : (g.cycleThrough id).Nodup := by
  simp only [cycleThrough]
  split
  · exact valid.ids_nodup.filter _
  · exact List.nodup_nil

theorem sort_ids_perm (ids : List String) : (sortIds ids).Perm ids := List.mergeSort_perm ids _

theorem mem_sort_ids {ids : List String} {id : String} : id ∈ sortIds ids ↔ id ∈ ids :=
  (sort_ids_perm ids).mem_iff

theorem sort_ids_pairwise (ids : List String) : (sortIds ids).Pairwise (· ≤ ·) := by
  have told : ∀ a b : String, (!decide (b < a)) = true ↔ a ≤ b := fun a b => by
    rw [Bool.not_eq_true', decide_eq_false_iff_not, not_lt]
  have sorted : (sortIds ids).Pairwise fun a b => (!decide (b < a)) = true :=
    List.pairwise_mergeSort (fun a b c first second => (told a c).mpr
      (le_trans ((told a b).mp first) ((told b c).mp second)))
    (fun a b => by rw [Bool.or_eq_true, told, told]; exact le_total a b) ids
  exact sorted.imp fun {a b} le => (told a b).mp le

/-- The order of the ids does not tell in which order they came. -/
theorem sort_ids_congr {ids others : List String} (same : ids.Perm others) :
    sortIds ids = sortIds others :=
  (((sort_ids_perm ids).trans same).trans (sort_ids_perm others).symm).eq_of_pairwise
    (fun _ _ _ _ => le_antisymm) (sort_ids_pairwise ids) (sort_ids_pairwise others)

theorem sort_ids_increasing {ids : List String} (nodup : ids.Nodup) :
    (sortIds ids).Pairwise (· < ·) :=
  ((sort_ids_pairwise ids).and ((sort_ids_perm ids).nodup_iff.mpr nodup)).imp
    fun {_ _} both => lt_of_le_of_ne both.1 both.2

/-- What is collected from a list of ids, where some classes are covered already. -/
structure Collected (g : DependencyGraph) (covered ids : List String)
    (cycles : List (List String)) : Prop where
  origin : ∀ cycle ∈ cycles, ∃ id, g.Reaches id id ∧ cycle = sortIds (g.cycleThrough id)
  fresh : ∀ cycle ∈ cycles, ∀ v ∈ cycle, v ∉ covered
  disjoint : cycles.Pairwise List.Disjoint
  complete : ∀ id ∈ ids, g.Reaches id id → id ∈ covered ∨ ∃ cycle ∈ cycles, id ∈ cycle

/-- By induction on the ids. What is covered is made of whole classes, so a class that is met later
shares nothing with it. -/
theorem collect_collected (valid : g.Valid) {covered : List String} (ids : List String)
    (whole : ∀ v ∈ covered, ∀ w, g.Mutual v w → w ∈ covered) :
    Collected g covered ids (g.collectCycles covered ids) := by
  induction ids generalizing covered with
  | nil => exact ⟨by simp [collectCycles], by simp [collectCycles], by simp [collectCycles], by simp⟩
  | cons id rest ih =>
    simp only [collectCycles]
    split
    · next known =>
      obtain ⟨origin, fresh, disjoint, complete⟩ := ih whole
      refine ⟨origin, fresh, disjoint, fun other member cyclic => ?_⟩
      rcases List.mem_cons.mp member with rfl | later
      · exact .inl (List.contains_iff_mem.mp known)
      · exact complete other later cyclic
    · next unknown =>
      have unknown : id ∉ covered := fun member => unknown (List.contains_iff_mem.mpr member)
      split
      · next none =>
        obtain ⟨origin, fresh, disjoint, complete⟩ := ih whole
        refine ⟨origin, fresh, disjoint, fun other member cyclic => ?_⟩
        rcases List.mem_cons.mp member with rfl | later
        · exact absurd none (List.ne_nil_of_mem (mem_cycle_through valid cyclic))
        · exact complete other later cyclic
      · next some =>
        have class_iff := mem_cycle_through_iff valid id
        obtain ⟨first, member⟩ := List.exists_mem_of_ne_nil _ some
        have cyclic : g.Reaches id id := ((class_iff first).mp member).1.trans
          ((class_iff first).mp member).2
        have whole' : ∀ v ∈ g.cycleThrough id ++ covered, ∀ w, g.Mutual v w →
            w ∈ g.cycleThrough id ++ covered := by
          intro v member w both
          rcases List.mem_append.mp member with inside | before
          · exact List.mem_append_left _
              ((class_iff w).mpr (mutual_trans ((class_iff v).mp inside) both))
          · exact List.mem_append_right _ (whole v before w both)
        obtain ⟨origin, fresh, disjoint, complete⟩ := ih whole'
        constructor
        case origin =>
          exact List.forall_mem_cons.mpr ⟨⟨id, cyclic, rfl⟩, origin⟩
        case fresh =>
          refine List.forall_mem_cons.mpr ⟨fun v member before => ?_, fun cycle member v inside => ?_⟩
          · have both := (class_iff v).mp (mem_sort_ids.mp member)
            exact unknown (whole v before id (mutual_symm both))
          · exact fun before => fresh cycle member v inside (List.mem_append_right _ before)
        case disjoint =>
          refine List.pairwise_cons.mpr ⟨fun cycle member v inside other => ?_, disjoint⟩
          exact fresh cycle member v other (List.mem_append_left _ (mem_sort_ids.mp inside))
        case complete =>
          intro other member cyclic
          rcases List.mem_cons.mp member with rfl | later
          · exact .inr ⟨_, List.mem_cons_self, mem_sort_ids.mpr (mem_cycle_through valid cyclic)⟩
          · rcases complete other later cyclic with known | ⟨cycle, listed, inside⟩
            · rcases List.mem_append.mp known with here | before
              · exact .inr ⟨_, List.mem_cons_self, mem_sort_ids.mpr here⟩
              · exact .inl before
            · exact .inr ⟨cycle, List.mem_cons_of_mem _ listed, inside⟩

theorem cycles_collected (valid : g.Valid) : Collected g [] g.ids g.cycles := by
  by_cases checked : g.isOrdered [] g.searchOrder = true
  · have acyclic := acyclic_of_ordered valid checked
    have none : g.cycles = [] := by rw [cycles, if_pos checked]
    rw [none]
    exact ⟨by simp, by simp, by simp, fun id _ cyclic => absurd cyclic (acyclic id)⟩
  · simp only [cycles, if_neg checked]
    generalize finished : (Traversal.visit _ _ _ _).done = order
    obtain ⟨origin, fresh, disjoint, complete⟩ : Collected g [] order (g.collectCycles [] order) :=
      collect_collected valid order (fun _ member => absurd member List.not_mem_nil)
    have inside : ∀ v, (g.targets v).reverse ⊆ g.ids := fun v w step =>
      targets_inside valid v (List.mem_reverse.mp step)
    have all : ∀ id ∈ g.ids, id ∈ order := fun id member =>
      finished ▸ (Traversal.search_done inside g.nodeCount id).mpr member
    constructor
    case origin => exact fun cycle member => origin cycle (List.mem_reverse.mp member)
    case fresh => exact fun cycle member => fresh cycle (List.mem_reverse.mp member)
    case disjoint =>
      exact List.pairwise_reverse.mpr (disjoint.imp fun apart => apart.symm)
    case complete =>
      intro id member cyclic
      obtain ⟨cycle, listed, inside⟩ := (complete id (all id member) cyclic).resolve_left (by simp)
      exact .inr ⟨cycle, List.mem_reverse.mpr listed, inside⟩

theorem mem_cycles_iff (valid : g.Valid) (cycle : List String) :
    cycle ∈ g.cycles ↔ ∃ id, g.Reaches id id ∧ cycle = sortIds (g.cycleThrough id) := by
  have collected := cycles_collected valid
  constructor
  · exact collected.origin cycle
  · rintro ⟨id, cyclic, rfl⟩
    have known := reaches_source_known valid cyclic
    obtain ⟨cycle, listed, inside⟩ := (collected.complete id known cyclic).resolve_left (by simp)
    obtain ⟨other, _, rfl⟩ := collected.origin cycle listed
    -- the class that the id was found in is its own
    have both := (mem_cycle_through_iff valid other id).mp (mem_sort_ids.mp inside)
    have same : (g.cycleThrough id).Perm (g.cycleThrough other) := by
      refine (List.perm_ext_iff_of_nodup (cycle_through_nodup valid id)
        (cycle_through_nodup valid other)).mpr fun v => ?_
      rw [mem_cycle_through_iff valid, mem_cycle_through_iff valid]
      exact ⟨mutual_trans both, mutual_trans (mutual_symm both)⟩
    rwa [sort_ids_congr same]

theorem together_iff (valid : g.Valid) (a b : String) :
    (∃ cycle ∈ g.cycles, a ∈ cycle ∧ b ∈ cycle) ↔ g.Mutual a b := by
  constructor
  · rintro ⟨cycle, listed, first, second⟩
    obtain ⟨id, _, rfl⟩ := (mem_cycles_iff valid cycle).mp listed
    have to_first := (mem_cycle_through_iff valid id a).mp (mem_sort_ids.mp first)
    have to_second := (mem_cycle_through_iff valid id b).mp (mem_sort_ids.mp second)
    exact mutual_trans (mutual_symm to_first) to_second
  · intro both
    have cyclic : g.Reaches a a := both.1.trans both.2
    refine ⟨_, (mem_cycles_iff valid _).mpr ⟨a, cyclic, rfl⟩, ?_, ?_⟩
    · exact mem_sort_ids.mpr ((mem_cycle_through_iff valid a a).mpr ⟨cyclic, cyclic⟩)
    · exact mem_sort_ids.mpr ((mem_cycle_through_iff valid a b).mpr both)

/-- The classes of ids that reach one another, each once; an id that reaches no other id that reaches
it back is a class by itself, on a cycle or not. -/
structure IsComponents (g : DependencyGraph) (classes : List (List String)) : Prop where
  nonempty : [] ∉ classes
  nodup : classes.flatten.Nodup
  covers : ∀ id, id ∈ classes.flatten ↔ id ∈ g.ids
  related : ∀ c ∈ classes, ∀ a ∈ c, ∀ b, b ∈ c ↔ b = a ∨ g.Mutual a b

/-- Picks the classes with more than one id, or with an edge from the only one to itself. -/
def cyclicClasses (g : DependencyGraph) (classes : List (List String)) : List (List String) :=
  (classes.filter fun c => decide (1 < c.length) || c.head?.any fun id => g.hasEdge id id).map
    sortIds

/-- A class passes exactly if its ids are on a cycle: where they are not, it has but one id, and no
edge to itself. -/
theorem class_passes_iff {id : String} {rest : List String} (nodup : (id :: rest).Nodup)
    (related : ∀ b, b ∈ id :: rest ↔ b = id ∨ g.Mutual id b) :
    (1 < (id :: rest).length ∨ g.hasEdge id id = true) ↔ g.Reaches id id := by
  rw [has_edge_iff]
  constructor
  · rintro (several | loop)
    · obtain ⟨other, member⟩ := List.exists_mem_of_length_pos (Nat.lt_of_succ_lt_succ several)
      have apart : other ≠ id := fun same => (List.nodup_cons.mp nodup).1 (same ▸ member)
      have both := ((related other).mp (List.mem_cons_of_mem id member)).resolve_left apart
      exact both.1.trans both.2
    · exact .single loop
  · intro cyclic
    obtain ⟨next, edge, back⟩ := Relation.TransGen.head'_iff.mp cyclic
    by_cases same : next = id
    · exact .inr (same ▸ edge)
    · have back : g.Reaches next id := by
        rcases Relation.reflTransGen_iff_eq_or_transGen.mp back with here | way
        · exact absurd here.symm same
        · exact way
      have member := (related next).mpr (.inr ⟨.single edge, back⟩)
      have later := (List.mem_cons.mp member).resolve_left same
      have positive := List.length_pos_of_mem later
      exact .inl (by rw [List.length_cons]; omega)

theorem class_perm (valid : g.Valid) {classes : List (List String)}
    (components : g.IsComponents classes) {c : List String} (listed : c ∈ classes) {id : String}
    (member : id ∈ c) (cyclic : g.Reaches id id) : c.Perm (g.cycleThrough id) := by
  refine (List.perm_ext_iff_of_nodup ((List.nodup_flatten.mp components.nodup).1 c listed)
    (cycle_through_nodup valid id)).mpr fun v => ?_
  rw [components.related c listed id member v, mem_cycle_through_iff valid]
  exact or_iff_right_of_imp fun same => by rw [same]; exact mutual_self_iff.mpr cyclic

theorem mem_cyclic_classes_iff (valid : g.Valid) {classes : List (List String)}
    (components : g.IsComponents classes) (cycle : List String) :
    cycle ∈ g.cyclicClasses classes ↔ cycle ∈ g.cycles := by
  have passes : ∀ id rest, id :: rest ∈ classes →
      ((decide (1 < (id :: rest).length) || (id :: rest).head?.any fun id => g.hasEdge id id) =
        true ↔ g.Reaches id id) := by
    intro id rest listed
    rw [Bool.or_eq_true, decide_eq_true_eq]
    exact class_passes_iff ((List.nodup_flatten.mp components.nodup).1 _ listed)
      (components.related _ listed id List.mem_cons_self)
  simp only [cyclicClasses, List.mem_map, List.mem_filter]
  rw [mem_cycles_iff valid]
  constructor
  · rintro ⟨c, ⟨listed, passed⟩, rfl⟩
    match c with
    | [] => exact absurd listed components.nonempty
    | id :: rest =>
      have cyclic := (passes id rest listed).mp passed
      exact ⟨id, cyclic,
        sort_ids_congr (class_perm valid components listed List.mem_cons_self cyclic)⟩
  · rintro ⟨id, cyclic, rfl⟩
    obtain ⟨c, listed, member⟩ :=
      List.mem_flatten.mp ((components.covers id).mpr (reaches_source_known valid cyclic))
    refine ⟨c, ⟨listed, ?_⟩, sort_ids_congr (class_perm valid components listed member cyclic)⟩
    match c with
    | [] => exact absurd listed components.nonempty
    | first :: rest =>
      refine (passes first rest listed).mpr ?_
      rcases (components.related _ listed id member first).mp List.mem_cons_self with rfl | both
      · exact cyclic
      · exact both.2.trans both.1

theorem nodup_of_disjoint {lists : List (List String)} (nonempty : [] ∉ lists)
    (disjoint : lists.Pairwise List.Disjoint) : lists.Nodup := by
  refine disjoint.imp_of_mem fun {first second} member _ apart same => ?_
  subst same
  have empty : first = [] := List.eq_nil_iff_forall_not_mem.mpr fun id inside => apart inside inside
  exact nonempty (empty ▸ member)

/-- However the classes are found and ordered, the cyclic ones are the cycles. -/
theorem cyclic_classes_perm (valid : g.Valid) {classes : List (List String)}
    (components : g.IsComponents classes) : (g.cyclicClasses classes).Perm g.cycles := by
  have same := mem_cyclic_classes_iff valid components
  have some : [] ∉ g.cycles := fun member => cycles_nonempty g [] member rfl
  refine (List.perm_ext_iff_of_nodup (nodup_of_disjoint (mt (same []).mp some) ?_)
    (nodup_of_disjoint some (cycles_collected valid).disjoint)).mpr same
  refine List.pairwise_map.mpr (List.Pairwise.filter _ ?_)
  refine (List.nodup_flatten.mp components.nodup).2.imp fun apart v first second => ?_
  exact apart (mem_sort_ids.mp first) (mem_sort_ids.mp second)

theorem cycles_of_calls (calls : List GraphCall) :
    let g := ofCalls calls
    (∀ cycle ∈ g.cycles, cycle.Pairwise (· < ·)) ∧
    g.cycles.Pairwise List.Disjoint ∧
    (∀ a b, a ≠ b →
      ((∃ cycle ∈ g.cycles, a ∈ cycle ∧ b ∈ cycle) ↔ g.Reaches a b ∧ g.Reaches b a)) ∧
    (∀ id, (∃ cycle ∈ g.cycles, id ∈ cycle) ↔ g.Reaches id id) ∧
    (∀ classes, g.IsComponents classes → (g.cyclicClasses classes).Perm g.cycles) := by
  intro g
  have valid : g.Valid := of_calls_valid calls
  refine ⟨fun cycle listed => ?_, (cycles_collected valid).disjoint,
    fun a b _ => together_iff valid a b, fun id => ?_,
    fun classes components => cyclic_classes_perm valid components⟩
  · obtain ⟨id, _, rfl⟩ := (mem_cycles_iff valid cycle).mp listed
    exact sort_ids_increasing (cycle_through_nodup valid id)
  · simpa only [and_self, Mutual] using together_iff valid id id

end DependencyGraph

end StackSynth
