import Mathlib.Data.List.Dedup
import Mathlib.Data.List.Induction
import StackSynth.Proofs.Graph.Calls

/-!
What a sequence of calls says about the graph that it leaves: a node tells when its id was last
added and as what, and an edge is the first dependency that was taken up between its two ids.
-/
namespace StackSynth

namespace DependencyGraph

variable {g : DependencyGraph} {calls : List GraphCall}

/-- The ids that are added, in the order of the calls. -/
def added (calls : List GraphCall) : List String :=
  calls.filterMap fun
    | .node id _ => some id
    | .dependency _ => none

@[simp] theorem added_nil : added [] = [] := rfl

@[simp] theorem added_append (calls more : List GraphCall) :
    added (calls ++ more) = added calls ++ added more := List.filterMap_append

@[simp] theorem added_node (id type : String) : added [.node id type] = [id] := rfl

@[simp] theorem added_dependency (d : Dependency) : added [.dependency d] = [] := rfl

/-- The node that the last addition of its id makes; its number counts the additions before. -/
def LastAdded (calls : List GraphCall) (n : ResourceNode) : Prop :=
  ∃ front back, calls = front ++ .node n.logicalId n.type :: back ∧ n.logicalId ∉ added back ∧
    n.sequence = (added front).length

/-- A dependency that is added when both of its ids are known. -/
def Taken (calls : List GraphCall) (d : Dependency) : Prop :=
  ∃ front back, calls = front ++ .dependency d :: back ∧ d.source ∈ added front ∧
    d.target ∈ added front

/-- One that is taken before any other between the same two ids. -/
def FirstTaken (calls : List GraphCall) (d : Dependency) : Prop :=
  ∃ front back, calls = front ++ .dependency d :: back ∧ d.source ∈ added front ∧
    d.target ∈ added front ∧
    ∀ e, Taken front e → ¬ (e.source = d.source ∧ e.target = d.target)

/-- A call in a sequence is its last one, or stands before it. -/
theorem split_concat_iff {call middle : GraphCall} {front back : List GraphCall} :
    calls ++ [call] = front ++ middle :: back ↔
      (calls = front ∧ call = middle ∧ back = []) ∨
        ∃ rest, calls = front ++ middle :: rest ∧ back = rest ++ [call] := by
  constructor
  · intro same
    rcases List.eq_nil_or_concat back with rfl | ⟨rest, last, rfl⟩
    · obtain ⟨before, here⟩ := List.append_inj' same rfl
      cases here
      exact .inl ⟨before, rfl, rfl⟩
    · rw [List.concat_eq_append, ← List.cons_append, ← List.append_assoc] at same
      obtain ⟨before, here⟩ := List.append_inj' same rfl
      cases here
      exact .inr ⟨rest, before, List.concat_eq_append⟩
  · rintro (⟨rfl, rfl, rfl⟩ | ⟨rest, rfl, rfl⟩)
    · rfl
    · simp

theorem last_added_node_iff (id type : String) (n : ResourceNode) :
    LastAdded (calls ++ [.node id type]) n ↔
      n = ⟨id, type, (added calls).length⟩ ∨ LastAdded calls n ∧ n.logicalId ≠ id := by
  simp only [LastAdded, split_concat_iff]
  constructor
  · rintro ⟨front, back, ⟨rfl, here, rfl⟩ | ⟨rest, rfl, rfl⟩, latest, number⟩
    · obtain ⟨name, type, sequence⟩ := n
      cases here
      cases number
      exact .inl rfl
    · simp only [added_append, added_node, List.mem_append, List.mem_singleton, not_or] at latest
      exact .inr ⟨⟨front, rest, rfl, latest.1, number⟩, latest.2⟩
  · rintro (rfl | ⟨⟨front, back, rfl, latest, number⟩, other⟩)
    · exact ⟨calls, [], .inl ⟨rfl, rfl, rfl⟩, by simp, rfl⟩
    · exact ⟨front, _, .inr ⟨back, rfl, rfl⟩, by simp [latest, other], number⟩

theorem last_added_dependency_iff (d : Dependency) (n : ResourceNode) :
    LastAdded (calls ++ [.dependency d]) n ↔ LastAdded calls n := by
  simp only [LastAdded, split_concat_iff]
  constructor
  · rintro ⟨front, back, ⟨_, here, _⟩ | ⟨rest, rfl, rfl⟩, latest, number⟩
    · cases here
    · exact ⟨front, rest, rfl, by simpa using latest, number⟩
  · rintro ⟨front, back, rfl, latest, number⟩
    exact ⟨front, _, .inr ⟨back, rfl, rfl⟩, by simpa using latest, number⟩

theorem taken_node_iff (id type : String) (d : Dependency) :
    Taken (calls ++ [.node id type]) d ↔ Taken calls d := by
  simp only [Taken, split_concat_iff]
  constructor
  · rintro ⟨front, back, ⟨_, here, _⟩ | ⟨rest, rfl, rfl⟩, known⟩
    · cases here
    · exact ⟨front, rest, rfl, known⟩
  · rintro ⟨front, back, rfl, known⟩
    exact ⟨front, _, .inr ⟨back, rfl, rfl⟩, known⟩

theorem taken_dependency_iff (new d : Dependency) :
    Taken (calls ++ [.dependency new]) d ↔
      Taken calls d ∨ d = new ∧ new.source ∈ added calls ∧ new.target ∈ added calls := by
  simp only [Taken, split_concat_iff]
  constructor
  · rintro ⟨front, back, ⟨rfl, here, _⟩ | ⟨rest, rfl, rfl⟩, known⟩
    · cases here
      exact .inr ⟨rfl, known⟩
    · exact .inl ⟨front, rest, rfl, known⟩
  · rintro (⟨front, back, rfl, known⟩ | ⟨rfl, known⟩)
    · exact ⟨front, _, .inr ⟨back, rfl, rfl⟩, known⟩
    · exact ⟨calls, [], .inl ⟨rfl, rfl, rfl⟩, known⟩

theorem first_taken_node_iff (id type : String) (d : Dependency) :
    FirstTaken (calls ++ [.node id type]) d ↔ FirstTaken calls d := by
  simp only [FirstTaken, split_concat_iff]
  constructor
  · rintro ⟨front, back, ⟨_, here, _⟩ | ⟨rest, rfl, rfl⟩, first⟩
    · cases here
    · exact ⟨front, rest, rfl, first⟩
  · rintro ⟨front, back, rfl, first⟩
    exact ⟨front, _, .inr ⟨back, rfl, rfl⟩, first⟩

theorem first_taken_dependency_iff (new d : Dependency) :
    FirstTaken (calls ++ [.dependency new]) d ↔
      FirstTaken calls d ∨ d = new ∧ new.source ∈ added calls ∧ new.target ∈ added calls ∧
        ∀ e, Taken calls e → ¬ (e.source = new.source ∧ e.target = new.target) := by
  simp only [FirstTaken, split_concat_iff]
  constructor
  · rintro ⟨front, back, ⟨rfl, here, _⟩ | ⟨rest, rfl, rfl⟩, first⟩
    · cases here
      exact .inr ⟨rfl, first⟩
    · exact .inl ⟨front, rest, rfl, first⟩
  · rintro (⟨front, back, rfl, first⟩ | ⟨rfl, first⟩)
    · exact ⟨front, _, .inr ⟨back, rfl, rfl⟩, first⟩
    · exact ⟨calls, [], .inl ⟨rfl, rfl, rfl⟩, first⟩

/-! One step of a sequence. -/

theorem of_calls_concat (calls : List GraphCall) (call : GraphCall) :
    ofCalls (calls ++ [call]) = (ofCalls calls).after call := by
  simp [ofCalls]

/-- A dependency changes neither the nodes nor how many have been added. -/
theorem after_dependency_nodes (g : DependencyGraph) (d : Dependency) :
    (g.after (.dependency d)).nodes = g.nodes ∧
      (g.after (.dependency d)).additions = g.additions := by
  simp only [after]
  rcases add_dependency_cases g d with ⟨_, result⟩ | ⟨_, _, result⟩ | ⟨_, _, _, result⟩ |
    ⟨_, _, _, result⟩ <;> rw [result] <;> exact ⟨rfl, rfl⟩

theorem mem_after_dependency_iff (g : DependencyGraph) (new d : Dependency) :
    d ∈ (g.after (.dependency new)).edges ↔
      d ∈ g.edges ∨ d = new ∧ new.source ∈ g.ids ∧ new.target ∈ g.ids ∧
        ¬ g.Edge new.source new.target := by
  simp only [after]
  rcases add_dependency_cases g new with ⟨unknown, result⟩ | ⟨_, unknown, result⟩ |
    ⟨_, _, present, result⟩ | ⟨source, target, absent, result⟩
  · simp [result, unknown]
  · simp [result, unknown]
  · simp [result, present]
  · simp [result, source, target, absent]

theorem mem_add_node_iff (g : DependencyGraph) (id type : String) (n : ResourceNode) :
    n ∈ (g.addNode id type).nodes ↔
      n = ⟨id, type, g.additions⟩ ∨ n ∈ g.nodes ∧ n.logicalId ≠ id := by
  by_cases known : g.hasNode id = true
  · simp only [addNode, if_pos known, List.mem_map]
    constructor
    · rintro ⟨m, member, rfl⟩
      split
      · exact .inl rfl
      · next other => exact .inr ⟨member, by simpa using other⟩
    · rintro (rfl | ⟨member, other⟩)
      · obtain ⟨m, listed, name⟩ := List.mem_map.mp ((has_node_iff g id).mp known)
        exact ⟨m, listed, by simp [name]⟩
      · exact ⟨n, member, by simp [other]⟩
  · have fresh : ∀ m ∈ g.nodes, m.logicalId ≠ id := fun m member same =>
      known ((has_node_iff g id).mpr (List.mem_map.mpr ⟨m, member, same⟩))
    simp only [addNode, if_neg known, List.mem_append, List.mem_singleton]
    rw [or_comm, and_iff_left_of_imp (fresh n)]

/-! A whole sequence. -/

theorem additions_of_calls (calls : List GraphCall) :
    (ofCalls calls).additions = (added calls).length := by
  induction calls using List.reverseRecOn with
  | nil => rfl
  | append_singleton calls call ih =>
    rw [of_calls_concat]
    cases call with
    | node id type => simp [after, addNode, ih]
    | dependency d => simp [after_dependency_nodes, ih]

theorem mem_nodes_iff_added (calls : List GraphCall) (n : ResourceNode) :
    n ∈ (ofCalls calls).nodes ↔ LastAdded calls n := by
  induction calls using List.reverseRecOn with
  | nil => simp [ofCalls, empty, LastAdded]
  | append_singleton calls call ih =>
    rw [of_calls_concat]
    cases call with
    | node id type =>
      rw [last_added_node_iff, ← ih, ← additions_of_calls]
      exact mem_add_node_iff (ofCalls calls) id type n
    | dependency d => rw [last_added_dependency_iff, (after_dependency_nodes _ d).1, ih]

theorem mem_ids_iff (calls : List GraphCall) (id : String) :
    id ∈ (ofCalls calls).ids ↔ id ∈ added calls := by
  induction calls using List.reverseRecOn with
  | nil => simp [ofCalls, empty, ids]
  | append_singleton calls call ih =>
    rw [of_calls_concat]
    cases call with
    | node new type =>
      rw [after, ids_add_node, added_append, List.mem_append, ← ih, added_node, List.mem_singleton]
      split
      · next known =>
        refine (or_iff_left_of_imp fun same => ?_).symm
        exact same ▸ (has_node_iff _ new).mp known
      · rw [List.mem_append, List.mem_singleton]
    | dependency d => rw [ids, (after_dependency_nodes _ d).1, ← ids, ih]; simp

/-- Each id has been counted once. -/
theorem node_count_of_calls (calls : List GraphCall) :
    (ofCalls calls).nodes.length = (added calls).dedup.length := by
  have same : (ofCalls calls).ids.Perm (added calls).dedup :=
    (List.perm_ext_iff_of_nodup (of_calls_valid calls).ids_nodup (List.nodup_dedup _)).mpr
      fun id => by rw [mem_ids_iff, List.mem_dedup]
  rw [← same.length_eq, ids, List.length_map]

theorem edge_iff_taken (calls : List GraphCall) (source target : String) :
    (ofCalls calls).Edge source target ↔
      ∃ d, Taken calls d ∧ d.source = source ∧ d.target = target := by
  induction calls using List.reverseRecOn with
  | nil => simp [ofCalls, empty, Edge, Taken]
  | append_singleton calls call ih =>
    rw [of_calls_concat]
    cases call with
    | node id type => simp only [taken_node_iff]; exact ih
    | dependency new =>
      simp only [Edge, mem_after_dependency_iff, taken_dependency_iff, mem_ids_iff]
      constructor
      · rintro ⟨d, old | ⟨rfl, source, target, _⟩, ends⟩
        · obtain ⟨e, taken, same⟩ := ih.mp ⟨d, old, ends⟩
          exact ⟨e, .inl taken, same⟩
        · exact ⟨d, .inr ⟨rfl, source, target⟩, ends⟩
      · rintro ⟨d, taken | ⟨rfl, known⟩, ends⟩
        · obtain ⟨e, old, same⟩ := ih.mpr ⟨d, taken, ends⟩
          exact ⟨e, .inl old, same⟩
        · by_cases present : (ofCalls calls).Edge d.source d.target
          · obtain ⟨e, old, source, target⟩ := present
            exact ⟨e, .inl old, source.trans ends.1, target.trans ends.2⟩
          · exact ⟨d, .inr ⟨rfl, known.1, known.2, present⟩, ends⟩

theorem mem_edges_iff_taken (calls : List GraphCall) (d : Dependency) :
    d ∈ (ofCalls calls).edges ↔ FirstTaken calls d := by
  induction calls using List.reverseRecOn with
  | nil => simp [ofCalls, empty, FirstTaken]
  | append_singleton calls call ih =>
    rw [of_calls_concat]
    cases call with
    | node id type => rw [first_taken_node_iff, ← ih]; rfl
    | dependency new =>
      rw [mem_after_dependency_iff, first_taken_dependency_iff, ih, mem_ids_iff, mem_ids_iff,
        edge_iff_taken]
      simp only [not_exists, not_and]

/-- Of two dependencies between the same ids only one is an edge. -/
theorem edges_apart (calls : List GraphCall) :
    (ofCalls calls).edges.Pairwise fun d e => ¬ (d.source = e.source ∧ d.target = e.target) := by
  induction calls using List.reverseRecOn with
  | nil => simp [ofCalls, empty]
  | append_singleton calls call ih =>
    rw [of_calls_concat]
    cases call with
    | node id type => exact ih
    | dependency new =>
      simp only [after]
      rcases add_dependency_cases (ofCalls calls) new with ⟨_, result⟩ | ⟨_, _, result⟩ |
        ⟨_, _, _, result⟩ | ⟨_, _, absent, result⟩ <;> rw [result]
      · exact ih
      · exact ih
      · exact ih
      · refine List.pairwise_append.mpr ⟨ih, by simp, fun d old e last => ?_⟩
        rw [List.mem_singleton.mp last]
        exact fun same => absent ⟨d, old, same⟩

theorem sequence_lt {calls : List GraphCall} {n : ResourceNode} (last : LastAdded calls n) :
    n.sequence < (added calls).length := by
  obtain ⟨front, back, rfl, _, number⟩ := last
  have one : added (.node n.logicalId n.type :: back) = n.logicalId :: added back := rfl
  rw [added_append, List.length_append, one, List.length_cons, number]
  omega

/-- By induction on the calls: a node that is added takes a number that no other has yet. -/
theorem eq_of_sequence_eq {calls : List GraphCall} {m n : ResourceNode} (first : LastAdded calls m)
    (second : LastAdded calls n) (same : m.sequence = n.sequence) : m = n := by
  induction calls using List.reverseRecOn with
  | nil => simp [LastAdded] at first
  | append_singleton calls call ih =>
    cases call with
    | node id type =>
      rw [last_added_node_iff] at first second
      rcases first with rfl | ⟨first, _⟩ <;> rcases second with rfl | ⟨second, _⟩
      · rfl
      · exact absurd same.symm (Nat.ne_of_lt (sequence_lt second))
      · exact absurd same (Nat.ne_of_lt (sequence_lt first))
      · exact ih first second
    | dependency d =>
      rw [last_added_dependency_iff] at first second
      exact ih first second

theorem nodes_nodup {g : DependencyGraph} (valid : g.Valid) : g.nodes.Nodup :=
  valid.ids_nodup.of_map

theorem sequences_nodup (calls : List GraphCall) :
    ((ofCalls calls).nodes.map (·.sequence)).Nodup := by
  refine List.Nodup.map_on (fun m first n second same => ?_) (nodes_nodup (of_calls_valid calls))
  exact eq_of_sequence_eq ((mem_nodes_iff_added calls m).mp first) ((mem_nodes_iff_added calls n).mp second) same

/-! The ids by the type of their resource. -/

/-- The last addition of the first id comes before that of the second. -/
def LatestBefore (calls : List GraphCall) (a b : String) : Prop :=
  ∃ m n, LastAdded calls m ∧ LastAdded calls n ∧ m.logicalId = a ∧ n.logicalId = b ∧
    m.sequence < n.sequence

/-- Groups of ids, one for each type that some id was last added with. -/
structure GroupsByType (calls : List GraphCall) (groups : List (String × List String)) : Prop where
  types_nodup : (groups.map (·.1)).Nodup
  nonempty : ∀ group ∈ groups, group.2 ≠ []
  members : ∀ group ∈ groups, ∀ id,
    id ∈ group.2 ↔ ∃ n, LastAdded calls n ∧ n.logicalId = id ∧ n.type = group.1
  ordered : ∀ group ∈ groups, group.2.Pairwise (LatestBefore calls)
  covers : ∀ id ∈ added calls, ∃ group ∈ groups, id ∈ group.2

theorem by_sequence_perm (g : DependencyGraph) : g.bySequence.Perm g.nodes :=
  List.mergeSort_perm g.nodes _

theorem by_sequence_ordered (calls : List GraphCall) :
    (ofCalls calls).bySequence.Pairwise fun m n => m.sequence < n.sequence := by
  have perm := by_sequence_perm (ofCalls calls)
  have rising : (ofCalls calls).bySequence.Pairwise fun m n => m.sequence ≤ n.sequence := by
    have sorted : (ofCalls calls).bySequence.Pairwise fun m n =>
        decide (m.sequence ≤ n.sequence) = true := List.pairwise_mergeSort
      (fun a b c first second => by
        rw [decide_eq_true_eq] at first second ⊢
        exact Nat.le_trans first second)
      (fun a b => by
        rw [Bool.or_eq_true, decide_eq_true_eq, decide_eq_true_eq]
        exact Nat.le_total _ _)
      (ofCalls calls).nodes
    exact sorted.imp fun le => of_decide_eq_true le
  have apart : ((ofCalls calls).bySequence.map (·.sequence)).Nodup :=
    (perm.map _).nodup_iff.mpr (sequences_nodup calls)
  exact (rising.and (List.pairwise_map.mp apart)).imp fun both => Nat.lt_of_le_of_ne both.1 both.2

theorem erase_dups_nodup (items : List String) : items.eraseDups.Nodup := by
  induction items using List.reverseRecOn with
  | nil => simp
  | append_singleton items item ih =>
    rw [List.eraseDups_append]
    by_cases known : item ∈ items
    · simpa [List.removeAll, known] using ih
    · have left : [item].removeAll items = [item] := by simp [List.removeAll, known]
      rw [left, List.eraseDups_cons]
      refine List.nodup_append.mpr ⟨ih, by simp, fun a member b last => ?_⟩
      have last : b = item := by simpa using last
      rw [last]
      exact fun same => known (same ▸ List.mem_eraseDups.mp member)

theorem ids_by_type_groups (calls : List GraphCall) :
    GroupsByType calls (ofCalls calls).idsByType := by
  have listed : ∀ n, n ∈ (ofCalls calls).bySequence ↔ LastAdded calls n := fun n => by
    rw [(by_sequence_perm _).mem_iff, mem_nodes_iff_added]
  have group_iff : ∀ group, group ∈ (ofCalls calls).idsByType ↔
      ∃ type ∈ ((ofCalls calls).bySequence.map (·.type)).eraseDups,
        (type, ((ofCalls calls).bySequence.filter (·.type == type)).map (·.logicalId)) = group :=
    fun group => List.mem_map
  have members : ∀ group ∈ (ofCalls calls).idsByType, ∀ id,
      id ∈ group.2 ↔ ∃ n, LastAdded calls n ∧ n.logicalId = id ∧ n.type = group.1 := by
    intro group member id
    obtain ⟨type, _, rfl⟩ := (group_iff group).mp member
    simp only [List.mem_map, List.mem_filter, listed, beq_iff_eq]
    exact exists_congr fun n => by tauto
  constructor
  case types_nodup =>
    have types : (ofCalls calls).idsByType.map (·.1) =
        ((ofCalls calls).bySequence.map (·.type)).eraseDups := by
      rw [idsByType, List.map_map]
      exact List.map_id _
    rw [types]
    exact erase_dups_nodup _
  case nonempty =>
    intro group member
    obtain ⟨type, present, rfl⟩ := (group_iff group).mp member
    obtain ⟨n, here, rfl⟩ := List.mem_map.mp (List.mem_eraseDups.mp present)
    exact List.ne_nil_of_mem ((members _ member n.logicalId).mpr ⟨n, (listed n).mp here, rfl, rfl⟩)
  case members => exact members
  case ordered =>
    intro group member
    obtain ⟨type, _, rfl⟩ := (group_iff group).mp member
    refine List.pairwise_map.mpr
      (((by_sequence_ordered calls).filter _).imp_of_mem fun {m n} first second less => ?_)
    exact ⟨m, n, (listed m).mp (List.mem_filter.mp first).1,
      (listed n).mp (List.mem_filter.mp second).1, rfl, rfl, less⟩
  case covers =>
    intro id known
    obtain ⟨n, here, rfl⟩ := List.mem_map.mp ((mem_ids_iff calls id).mpr known)
    have here := (mem_nodes_iff_added calls n).mp here
    have present : n.type ∈ ((ofCalls calls).bySequence.map (·.type)).eraseDups :=
      List.mem_eraseDups.mpr (List.mem_map.mpr ⟨n, (listed n).mpr here, rfl⟩)
    have member := (group_iff _).mpr ⟨n.type, present, rfl⟩
    exact ⟨_, member, (members _ member n.logicalId).mpr ⟨n, here, rfl, rfl⟩⟩

end DependencyGraph

end StackSynth
