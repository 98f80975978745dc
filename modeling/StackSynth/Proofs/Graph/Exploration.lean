import Mathlib.Data.List.Nodup
import Mathlib.Data.List.Perm.Subperm
import Mathlib.Order.Lattice.Nat
import StackSynth.Proofs.Graph.Calls

/-!
Breadth-first exploration finds what can be reached by one or more steps, each id once and the near
before the far, whatever the graph. It comes to an end on its own, cycles or not: an id enters the
queue only when it is found.
-/
namespace StackSynth

open Relation

/-! Walks and distances. -/

section Walks

variable {α : Type} {R : α → α → Prop} {a b : α} {n : Nat}

/-- So many steps lead from the first to the second. -/
inductive Walk (R : α → α → Prop) (a : α) : Nat → α → Prop
  | start : Walk R a 0 a
  | step {n : Nat} {b c : α} (walk : Walk R a n b) (edge : R b c) : Walk R a (n + 1) c

theorem reaches_iff_walk : TransGen R a b ↔ ∃ n, 0 < n ∧ Walk R a n b := by
  constructor
  · intro way
    induction way with
    | single edge => exact ⟨1, Nat.one_pos, .step .start edge⟩
    | tail _ edge ih =>
      obtain ⟨n, _, walk⟩ := ih
      exact ⟨n + 1, Nat.succ_pos n, .step walk edge⟩
  · rintro ⟨n, some, walk⟩
    induction walk with
    | start => omega
    | @step n b c walk edge ih =>
      by_cases first : n = 0
      · subst first
        cases walk
        exact .single edge
      · exact (ih (by omega)).tail edge

/-- The least number of steps in which the second can be reached, at least one. -/
noncomputable def distance (R : α → α → Prop) (a b : α) : Nat := sInf {n | 0 < n ∧ Walk R a n b}

theorem distance_le (some : 0 < n) (walk : Walk R a n b) : distance R a b ≤ n :=
  Nat.sInf_le ⟨some, walk⟩

theorem walk_distance (reaches : TransGen R a b) :
    0 < distance R a b ∧ Walk R a (distance R a b) b :=
  Nat.sInf_mem (reaches_iff_walk.mp reaches)

/-- All that steps lead to, each once, the near before the far. -/
structure NearFirst (R : α → α → Prop) (a : α) (found : List α) : Prop where
  nodup : found.Nodup
  mem_iff : ∀ b, b ∈ found ↔ TransGen R a b
  ordered : found.Pairwise fun b c => distance R a b ≤ distance R a c

end Walks

/-! One round of a search. -/

variable {next : String → List String} {start id : String} {queue found all : List String}

abbrev Follows (next : String → List String) (a b : String) : Prop := b ∈ next a

theorem append_new_split (found fresh : List String) :
    ∃ new, appendNew found fresh = found ++ new ∧ new ⊆ fresh := by
  induction fresh generalizing found with
  | nil => exact ⟨[], by simp [appendNew]⟩
  | cons id rest ih =>
    simp only [appendNew]
    split
    · obtain ⟨new, split, part⟩ := ih found
      exact ⟨new, split, fun v member => List.mem_cons_of_mem id (part member)⟩
    · obtain ⟨new, split, part⟩ := ih (found ++ [id])
      refine ⟨id :: new, by rw [split]; simp, ?_⟩
      exact List.cons_subset.mpr
        ⟨List.mem_cons_self, fun v member => List.mem_cons_of_mem id (part member)⟩

theorem mem_append_new (found fresh : List String) (v : String) :
    v ∈ appendNew found fresh ↔ v ∈ found ∨ v ∈ fresh := by
  induction fresh generalizing found with
  | nil => simp [appendNew]
  | cons id rest ih =>
    simp only [appendNew]
    split
    · next known =>
      rw [ih, List.mem_cons]
      have known : id ∈ found := by simpa using known
      constructor
      · rintro (old | new)
        · exact .inl old
        · exact .inr (.inr new)
      · rintro (old | rfl | new)
        · exact .inl old
        · exact .inl known
        · exact .inr new
    · rw [ih]; simp [or_assoc]

theorem append_new_nodup {found : List String} (fresh : List String) (nodup : found.Nodup) :
    (appendNew found fresh).Nodup := by
  induction fresh generalizing found with
  | nil => exact nodup
  | cons id rest ih =>
    simp only [appendNew]
    split
    · exact ih nodup
    · next unknown =>
      apply ih
      have unknown : id ∉ found := by simpa using unknown
      exact List.nodup_append.mpr ⟨nodup, by simp, by
        intro a known b last
        rw [List.mem_singleton.mp last]
        exact fun same => unknown (same ▸ known)⟩

/-- A search between two rounds. The near ids of its queue are `n` steps away and the far ones one
step more; all that is nearer than the far ones is old, and has been followed unless it is near. -/
structure Layered (next : String → List String) (start : String) (n : Nat)
    (near far old : List String) : Prop where
  nodup : (old ++ far).Nodup
  near_walk : ∀ v ∈ near, Walk (Follows next) start n v
  far_walk : ∀ v ∈ far, Walk (Follows next) start (n + 1) v
  mem_old_iff : ∀ v, v ∈ old ↔ ∃ m, 0 < m ∧ m ≤ n ∧ Walk (Follows next) start m v
  ordered : old.Pairwise fun u v =>
    distance (Follows next) start u ≤ distance (Follows next) start v
  followed : ∀ m ≤ n, ∀ v, Walk (Follows next) start m v → v ∈ near ∨ next v ⊆ old ++ far

namespace Layered

variable {n : Nat} {near far old : List String}

theorem begin (next : String → List String) (start : String) :
    Layered next start 0 [start] [] [] where
  nodup := List.nodup_nil
  near_walk := by
    intro v member
    rw [List.mem_singleton.mp member]
    exact .start
  far_walk := List.forall_mem_nil _
  mem_old_iff := by
    intro v
    refine iff_of_false List.not_mem_nil ?_
    rintro ⟨m, some, none, _⟩
    omega
  ordered := List.Pairwise.nil
  followed := by
    intro m none v walk
    obtain rfl := Nat.le_zero.mp none
    cases walk
    exact .inl List.mem_cons_self

/-- What is found by following a near id is far. -/
theorem follow (layered : Layered next start n (id :: near) far old) :
    ∃ new, appendNew (old ++ far) (next id) = old ++ far ++ new ∧
      Layered next start n near (far ++ new) old := by
  obtain ⟨new, split, part⟩ := append_new_split (old ++ far) (next id)
  have grown : ∀ v, v ∈ old ++ (far ++ new) ↔ v ∈ old ++ far ∨ v ∈ next id := by
    intro v
    rw [← List.append_assoc, ← split, mem_append_new]
  refine ⟨new, split, ?_, ?_, ?_, layered.mem_old_iff, layered.ordered, ?_⟩
  · rw [← List.append_assoc, ← split]
    exact append_new_nodup (next id) layered.nodup
  · intro v member
    exact layered.near_walk v (List.mem_cons_of_mem id member)
  · intro v member
    rcases List.mem_append.mp member with before | fresh
    · exact layered.far_walk v before
    · exact .step (layered.near_walk id List.mem_cons_self) (part fresh)
  · intro m within v walk
    rcases layered.followed m within v walk with queued | done
    · rcases List.mem_cons.mp queued with rfl | later
      · exact .inr fun w step => (grown w).mpr (.inr step)
      · exact .inl later
    · exact .inr fun w step => (grown w).mpr (.inl (done step))

/-- Once no id is near any more, everything that is one step further is far. -/
theorem mem_found_iff (layered : Layered next start n [] far old) (v : String) :
    v ∈ old ++ far ↔ ∃ m, 0 < m ∧ m ≤ n + 1 ∧ Walk (Follows next) start m v := by
  constructor
  · intro member
    rcases List.mem_append.mp member with before | last
    · obtain ⟨m, some, within, walk⟩ := (layered.mem_old_iff v).mp before
      exact ⟨m, some, by omega, walk⟩
    · exact ⟨n + 1, by omega, Nat.le_refl _, layered.far_walk v last⟩
  · rintro ⟨m, some, within, walk⟩
    cases walk with
    | start => omega
    | @step m u _ walk edge =>
      rcases layered.followed m (by omega) u walk with queued | done
      · cases queued
      · exact done edge

theorem distance_old (layered : Layered next start n near far old) {v : String}
    (member : v ∈ old) : distance (Follows next) start v ≤ n := by
  obtain ⟨m, some, within, walk⟩ := (layered.mem_old_iff v).mp member
  exact Nat.le_trans (distance_le some walk) within

theorem distance_far (layered : Layered next start n near far old) {v : String}
    (member : v ∈ far) : distance (Follows next) start v = n + 1 := by
  have walk := layered.far_walk v member
  have reached := walk_distance (reaches_iff_walk.mpr ⟨n + 1, by omega, walk⟩)
  have upper : distance (Follows next) start v ≤ n + 1 := distance_le (by omega) walk
  by_contra nearer
  -- a shorter walk would have made it old
  have before : v ∈ old := (layered.mem_old_iff v).mpr ⟨_, reached.1, by omega, reached.2⟩
  exact (List.nodup_append.mp layered.nodup).2.2 v before v member rfl

/-- The far ids become the near ones. -/
theorem descend (layered : Layered next start n [] far old) :
    Layered next start (n + 1) far [] (old ++ far) where
  nodup := by simpa using layered.nodup
  near_walk := layered.far_walk
  far_walk := List.forall_mem_nil _
  mem_old_iff := layered.mem_found_iff
  ordered := by
    rw [List.pairwise_append]
    refine ⟨layered.ordered, ?_, ?_⟩
    · refine List.pairwise_of_forall_mem_list ?_
      intro u first v second
      rw [layered.distance_far first, layered.distance_far second]
    · intro u before v last
      have nearer := layered.distance_old before
      rw [layered.distance_far last]
      omega
  followed := by
    intro m within v walk
    rw [List.append_nil]
    by_cases start : m = 0
    · exact .inr ((layered.followed m (by omega) v walk).resolve_left List.not_mem_nil)
    · rcases List.mem_append.mp ((layered.mem_found_iff v).mpr ⟨m, by omega, within, walk⟩) with
        before | last
      · obtain ⟨m', _, within', walk'⟩ := (layered.mem_old_iff v).mp before
        exact .inr ((layered.followed m' within' v walk').resolve_left List.not_mem_nil)
      · exact .inl last

/-- With an empty queue everything is found. -/
theorem near_first (layered : Layered next start n [] [] old) :
    NearFirst (Follows next) start old := by
  have closed : ∀ m v, Walk (Follows next) start m v → m = 0 ∨ v ∈ old := by
    intro m v walk
    induction walk with
    | start => exact .inl rfl
    | @step m u v walk edge ih =>
      have done : next u ⊆ old ++ [] := by
        rcases ih with rfl | before
        · exact (layered.followed 0 (Nat.zero_le n) u walk).resolve_left List.not_mem_nil
        · obtain ⟨m', _, within, walk'⟩ := (layered.mem_old_iff u).mp before
          exact (layered.followed m' within u walk').resolve_left List.not_mem_nil
      rw [List.append_nil] at done
      exact .inr (done edge)
  refine ⟨by simpa using layered.nodup, ?_, layered.ordered⟩
  intro v
  rw [reaches_iff_walk]
  constructor
  · intro member
    obtain ⟨m, some, _, walk⟩ := (layered.mem_old_iff v).mp member
    exact ⟨m, some, walk⟩
  · rintro ⟨m, some, walk⟩
    exact (closed m v walk).resolve_left (by omega)

end Layered

/-! Whole searches. -/

/-- A search that goes on until its queue is empty: how many rounds it takes, and all that it has
found in the end. -/
inductive Searches (next : String → List String) :
    List String → List String → Nat → List String → Prop
  | done (found : List String) : Searches next [] found 0 found
  | round {id : String} {queue found all : List String} {rounds : Nat}
    (rest : Searches next (queue ++ (appendNew found (next id)).drop found.length)
      (appendNew found (next id)) rounds all) :
    Searches next (id :: queue) found (rounds + 1) all

/-- There are as many rounds as ids in the queue and ids still to be found. -/
theorem searches_rounds {rounds : Nat} (searches : Searches next queue found rounds all) :
    rounds + found.length = queue.length + all.length := by
  induction searches with
  | done found => simp
  | @round id queue found all rounds rest ih =>
    obtain ⟨new, split, _⟩ := append_new_split found (next id)
    rw [split] at ih
    simp only [List.length_append, List.length_cons, List.drop_left] at ih ⊢
    omega

/-- What is far follows what is near in the queue, so that a search goes from layer to layer. -/
theorem searches_near_first {rounds n : Nat} {near far old : List String}
    (searches : Searches next queue found rounds all) (queued : queue = near ++ far)
    (known : found = old ++ far) (layered : Layered next start n near far old) :
    NearFirst (Follows next) start all := by
  induction searches generalizing n near far old with
  | done found =>
    obtain ⟨rfl, rfl⟩ := List.append_eq_nil_iff.mp queued.symm
    rw [known, List.append_nil]
    exact layered.near_first
  | @round id queue found all rounds rest ih =>
    have onward : ∀ {n : Nat} {near far old : List String}, queue = near ++ far →
        found = old ++ far → Layered next start n (id :: near) far old →
        NearFirst (Follows next) start all := by
      intro n near far old queued known layered
      obtain ⟨new, split, layered'⟩ := layered.follow
      subst queued known
      refine ih ?_ ?_ layered'
      · rw [split, List.drop_left, List.append_assoc]
      · rw [split, List.append_assoc]
    cases near with
    | cons first near =>
      obtain ⟨rfl, rfl⟩ := List.cons_eq_cons.mp queued
      exact onward rfl known layered
    | nil =>
      rw [List.nil_append] at queued
      subst queued
      exact onward (List.append_nil _).symm (by rw [known, List.append_nil]) layered.descend

/-- The universe `U` bounds what can be found, and with it how long the queue can last. -/
theorem searches_explore {U : List String} (inside : ∀ v, next v ⊆ U) {fuel : Nat}
    (nodup : found.Nodup) (part : found ⊆ U)
    (budget : queue.length + (U.length - found.length) ≤ fuel) :
    ∃ rounds, Searches next queue found rounds (explore next fuel queue found) := by
  induction fuel generalizing queue found with
  | zero =>
    have empty : queue = [] := List.length_eq_zero_iff.mp (by omega)
    subst queue
    exact ⟨0, .done found⟩
  | succ fuel ih =>
    cases queue with
    | nil => exact ⟨0, .done found⟩
    | cons id queue =>
      obtain ⟨new, split, fresh⟩ := append_new_split found (next id)
      have grown_part : appendNew found (next id) ⊆ U := by
        intro v member
        rcases (mem_append_new found (next id) v).mp member with old | step
        · exact part old
        · exact inside id step
      have grown_nodup := append_new_nodup (next id) nodup
      have bound := (grown_nodup.subperm grown_part).length_le
      have smaller : (queue ++ (appendNew found (next id)).drop found.length).length +
          (U.length - (appendNew found (next id)).length) ≤ fuel := by
        rw [split] at bound ⊢
        simp only [List.length_append, List.length_cons, List.drop_left] at *
        omega
      obtain ⟨rounds, rest⟩ := ih grown_nodup grown_part smaller
      exact ⟨rounds + 1, .round rest⟩

namespace DependencyGraph

variable {g : DependencyGraph}

theorem searches_reachable (known : id ∈ g.ids) (inside : ∀ v, next v ⊆ g.ids) :
    Searches next [id] [] ((g.reachable next id).length + 1) (g.reachable next id) := by
  have enough : [id].length + (g.ids.length - ([] : List String).length) ≤ g.nodeCount + 1 := by
    simp only [nodeCount, ids, List.length_map, List.length_cons, List.length_nil]
    omega
  obtain ⟨rounds, searches⟩ :=
    searches_explore inside List.nodup_nil (List.nil_subset g.ids) enough
  rw [reachable, if_pos ((has_node_iff g id).mpr known)]
  have count := searches_rounds searches
  simp only [List.length_cons, List.length_nil] at count
  have sum : rounds = (explore next (g.nodeCount + 1) [id] []).length + 1 := by omega
  rwa [sum] at searches

theorem reachable_unknown (unknown : id ∉ g.ids) (next : String → List String) :
    g.reachable next id = [] := by
  rw [reachable, if_neg]
  rwa [has_node_iff]

/-- A search along the edges, in whichever direction. -/
theorem reachable_near_first {R : String → String → Prop} (steps : ∀ a b, b ∈ next a ↔ R a b)
    (leaves : ∀ a b, R a b → a ∈ g.ids) (enters : ∀ a b, R a b → b ∈ g.ids) (id : String) :
    NearFirst R id (g.reachable next id) := by
  obtain rfl : Follows next = R := by
    funext a b
    exact propext (steps a b)
  by_cases known : id ∈ g.ids
  · exact searches_near_first (searches_reachable known fun a b => enters a b)
      (List.append_nil _).symm (List.append_nil _).symm (Layered.begin next id)
  · rw [reachable_unknown known]
    refine ⟨List.nodup_nil, ?_, List.Pairwise.nil⟩
    intro v
    refine iff_of_false List.not_mem_nil ?_
    intro way
    obtain ⟨w, edge, _⟩ := TransGen.head'_iff.mp way
    exact known (leaves id w edge)

theorem mem_later_targets (g : DependencyGraph) (a b : String) :
    b ∈ (g.targets a).reverse ↔ g.Edge a b :=
  List.mem_reverse.trans (mem_targets_iff g a b)

theorem mem_later_sources (g : DependencyGraph) (a b : String) :
    b ∈ (g.sources a).reverse ↔ g.Edge b a :=
  List.mem_reverse.trans (mem_sources_iff g b a)

/-- What depends on an id is what its edges lead to. -/
theorem dependents_near_first (valid : g.Valid) (id : String) :
    NearFirst g.Edge id (g.dependents id) :=
  reachable_near_first g.mem_later_targets (fun _ _ => edge_source_known valid)
    (fun _ _ => edge_target_known valid) id

theorem dependencies_near_first (valid : g.Valid) (id : String) :
    NearFirst (fun a b => g.Edge b a) id (g.dependencies id) :=
  reachable_near_first g.mem_later_sources (fun _ _ => edge_target_known valid)
    (fun _ _ => edge_source_known valid) id

theorem mem_dependents_iff (valid : g.Valid) (id v : String) :
    v ∈ g.dependents id ↔ g.Reaches id v :=
  (dependents_near_first valid id).mem_iff v

theorem mem_dependencies_iff (valid : g.Valid) (id v : String) :
    v ∈ g.dependencies id ↔ g.Reaches v id :=
  ((dependencies_near_first valid id).mem_iff v).trans transGen_swap

/-- What an id depends on and what depends on it, whatever calls have made the graph: all that edges
lead to in the one direction and in the other, each id once, the near before the far. The id itself
is among them exactly if it is on a cycle, and for an id that is unknown there is nothing. The
search ends on its own, after one round for the id and one for each that it finds. -/
theorem walks_of_calls (calls : List GraphCall) (id : String) :
    let g := ofCalls calls
    NearFirst g.Edge id (g.dependents id) ∧
    NearFirst (fun a b => g.Edge b a) id (g.dependencies id) ∧
    (∀ v, v ∈ g.dependents id ↔ g.Reaches id v) ∧
    (∀ v, v ∈ g.dependencies id ↔ g.Reaches v id) ∧
    (id ∉ g.ids → g.dependents id = [] ∧ g.dependencies id = []) ∧
    (id ∈ g.ids →
      Searches (fun v => (g.targets v).reverse) [id] []
        ((g.dependents id).length + 1) (g.dependents id) ∧
      Searches (fun v => (g.sources v).reverse) [id] []
        ((g.dependencies id).length + 1) (g.dependencies id)) := by
  intro g
  have valid : g.Valid := of_calls_valid calls
  refine ⟨dependents_near_first valid id, dependencies_near_first valid id,
    mem_dependents_iff valid id, mem_dependencies_iff valid id, ?_, ?_⟩
  · intro unknown
    exact ⟨reachable_unknown unknown _, reachable_unknown unknown _⟩
  · intro known
    constructor
    · refine searches_reachable known ?_
      intro a b step
      exact edge_target_known valid ((mem_later_targets g a b).mp step)
    · refine searches_reachable known ?_
      intro a b step
      exact edge_source_known valid ((mem_later_sources g a b).mp step)

/-- Two resources that wait for each other, and one that waits for the second. -/
example :
    let g := ofCalls [.node "A" "T", .node "B" "T", .node "C" "T",
      .dependency ⟨"A", "B", .explicit, none⟩, .dependency ⟨"B", "A", .explicit, none⟩,
      .dependency ⟨"B", "C", .explicit, none⟩]
    g.dependents "A" = ["B", "C", "A"] ∧ g.dependencies "C" = ["B", "A"] := by
  decide

end DependencyGraph

end StackSynth
