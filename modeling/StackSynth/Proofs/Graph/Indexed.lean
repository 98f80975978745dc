import StackSynth.OrderedMap
import StackSynth.Proofs.Graph.History

/-!
Dependency graphs that find a node by its position. An index sends each id to the position of its
node, and the edges run between positions; the index is right after every sequence of calls, so that
such a graph answers what the graph of ids answers.
-/
namespace StackSynth

/-- A dependency with the positions of its two ids. -/
structure Link where
  source : Nat
  target : Nat
  dependency : Dependency
  deriving DecidableEq, Repr, Inhabited

structure IndexedGraph where
  nodes : List ResourceNode := []
  links : List Link := []
  index : OrderedMap Nat := ∅
  additions : Nat := 0

namespace IndexedGraph

def empty : IndexedGraph := {}

/-- Adds a node, or replaces the one that the id has, and gives its position. -/
def addNode (g : IndexedGraph) (id type : String) : Nat × IndexedGraph :=
  let node : ResourceNode := ⟨id, type, g.additions⟩
  let counted := { g with additions := g.additions + 1 }
  match g.index.get? id with
  | some i => (i, { counted with nodes := g.nodes.set i node })
  | none => (g.nodes.length, { counted with
      nodes := g.nodes ++ [node]
      index := g.index.insert id g.nodes.length })

def hasLink (g : IndexedGraph) (source target : Nat) : Bool :=
  g.links.any fun l => l.source == source && l.target == target

/-- Adds a dependency, and gives the graph that the call leaves whether it fails or not. -/
def addDependency (g : IndexedGraph) (d : Dependency) : Outcome Unit × IndexedGraph :=
  match g.index.get? d.source, g.index.get? d.target with
  | none, _ => (.error (.danglingReference d.target d.source), g)
  | some _, none => (.error (.resourceNotFound d.target), g)
  | some source, some target =>
    (.ok (), if g.hasLink source target then g
      else { g with links := g.links ++ [⟨source, target, d⟩] })

def after (g : IndexedGraph) : GraphCall → IndexedGraph
  | .node id type => (g.addNode id type).2
  | .dependency d => (g.addDependency d).2

def ofCalls (calls : List GraphCall) : IndexedGraph := calls.foldl after empty

def node? (g : IndexedGraph) (id : String) : Option ResourceNode :=
  (g.index.get? id).bind (g.nodes[·]?)

def dependsOn (g : IndexedGraph) (dependent dependency : String) : Bool :=
  match g.index.get? dependency, g.index.get? dependent with
  | some source, some target => g.hasLink source target
  | _, _ => false

/-- The dependencies of a resource, the latest first. -/
def dependenciesOf (g : IndexedGraph) (id : String) : List Dependency :=
  match g.index.get? id with
  | some i => (g.links.filter (·.target == i)).reverse.map (·.dependency)
  | none => []

/-- The graph without positions. -/
def view (g : IndexedGraph) : DependencyGraph where
  nodes := g.nodes
  edges := g.links.map (·.dependency)
  additions := g.additions

/-- Each id leads to its node and to nothing else, and each link to the ids of its dependency. -/
structure Indexed (g : IndexedGraph) : Prop where
  index_iff : ∀ id i, g.index.get? id = some i ↔ ∃ n, g.nodes[i]? = some n ∧ n.logicalId = id
  source_at : ∀ l ∈ g.links, g.index.get? l.dependency.source = some l.source
  target_at : ∀ l ∈ g.links, g.index.get? l.dependency.target = some l.target

variable {g : IndexedGraph}

theorem has_node_view (indexed : g.Indexed) (id : String) :
    g.view.hasNode id = (g.index.get? id).isSome := by
  rw [Bool.eq_iff_iff, DependencyGraph.has_node_iff]
  simp only [Option.isSome_iff_exists, indexed.index_iff, DependencyGraph.ids, view, List.mem_map]
  constructor
  · rintro ⟨n, member, name⟩
    obtain ⟨i, here⟩ := List.mem_iff_getElem?.mp member
    exact ⟨i, n, here, name⟩
  · rintro ⟨i, n, here, name⟩
    exact ⟨n, List.mem_of_getElem? here, name⟩

theorem eq_of_index_eq (indexed : g.Indexed) {a b : String} {i : Nat}
    (first : g.index.get? a = some i) (second : g.index.get? b = some i) : a = b := by
  obtain ⟨m, here, rfl⟩ := (indexed.index_iff a i).mp first
  obtain ⟨n, there, rfl⟩ := (indexed.index_iff b i).mp second
  rw [here] at there
  cases there
  rfl

/-- A link between two positions is an edge between the ids that they belong to. -/
theorem has_edge_view (indexed : g.Indexed) {source target : String} {i j : Nat}
    (first : g.index.get? source = some i) (second : g.index.get? target = some j) :
    g.view.hasEdge source target = g.hasLink i j := by
  rw [Bool.eq_iff_iff, DependencyGraph.has_edge_iff]
  simp only [hasLink, List.any_eq_true, Bool.and_eq_true, beq_iff_eq]
  constructor
  · rintro ⟨d, member, rfl, rfl⟩
    obtain ⟨l, listed, rfl⟩ := List.mem_map.mp member
    refine ⟨l, listed, Option.some.inj ?_, Option.some.inj ?_⟩
    · rw [← indexed.source_at l listed, first]
    · rw [← indexed.target_at l listed, second]
  · rintro ⟨l, member, rfl, rfl⟩
    exact ⟨l.dependency, List.mem_map.mpr ⟨l, member, rfl⟩,
      eq_of_index_eq indexed (indexed.source_at l member) first,
      eq_of_index_eq indexed (indexed.target_at l member) second⟩

/-! Adding a node. -/

/-- An id that is known keeps its position, the positions of all others and all edges. -/
theorem add_known_node {id : String} {i : Nat} (found : g.index.get? id = some i) (type : String) :
    g.addNode id type = (i, { g with
      nodes := g.nodes.set i ⟨id, type, g.additions⟩
      additions := g.additions + 1 }) := by
  simp only [addNode, found]

theorem add_new_node {id : String} (missing : g.index.get? id = none) (type : String) :
    g.addNode id type = (g.nodes.length, { g with
      nodes := g.nodes ++ [⟨id, type, g.additions⟩]
      index := g.index.insert id g.nodes.length
      additions := g.additions + 1 }) := by
  simp only [addNode, missing]

theorem set_eq_map (indexed : g.Indexed) {id : String} {i : Nat}
    (found : g.index.get? id = some i) {node : ResourceNode} :
    g.nodes.set i node = g.nodes.map fun n => if n.logicalId == id then node else n := by
  obtain ⟨own, here, name⟩ := (indexed.index_iff id i).mp found
  obtain ⟨short, rfl⟩ := List.getElem?_eq_some_iff.mp here
  apply List.ext_getElem?
  intro j
  rw [List.getElem?_set, List.getElem?_map]
  split
  · next same =>
    subst same
    simp [name, short]
  · next apart =>
    cases there : g.nodes[j]? with
    | none => rfl
    | some n =>
      have other : n.logicalId ≠ id := fun same =>
        apart (Option.some.inj (found.symm.trans ((indexed.index_iff id j).mpr ⟨n, there, same⟩)))
      simp [other]

theorem view_add_node (indexed : g.Indexed) (id type : String) :
    (g.addNode id type).2.view = g.view.addNode id type := by
  cases found : g.index.get? id with
  | some i =>
    have known : g.view.hasNode id = true := by rw [has_node_view indexed, found]; rfl
    rw [add_known_node found, DependencyGraph.addNode, if_pos known]
    simp only [view, set_eq_map indexed found]
  | none =>
    have unknown : ¬ g.view.hasNode id = true := by rw [has_node_view indexed, found]; simp
    rw [add_new_node found, DependencyGraph.addNode, if_neg unknown]
    rfl

theorem indexed_add_node (indexed : g.Indexed) (id type : String) :
    (g.addNode id type).2.Indexed := by
  cases found : g.index.get? id with
  | some i =>
    rw [add_known_node found]
    refine ⟨fun v j => ?_, indexed.source_at, indexed.target_at⟩
    obtain ⟨own, here, name⟩ := (indexed.index_iff id i).mp found
    obtain ⟨short, rfl⟩ := List.getElem?_eq_some_iff.mp here
    rw [indexed.index_iff]
    simp only [List.getElem?_set]
    split
    · next same =>
      subst same
      simp [name, short]
    · rfl
  | none =>
    rw [add_new_node found]
    have kept : ∀ v i, g.index.get? v = some i → (g.index.insert id g.nodes.length).get? v = some i :=
      fun v i there => by
        rw [OrderedMap.get?_insert, if_neg, there]
        rintro rfl
        rw [found] at there
        cases there
    refine ⟨fun v j => ?_, fun l member => kept _ _ (indexed.source_at l member),
      fun l member => kept _ _ (indexed.target_at l member)⟩
    rw [OrderedMap.get?_insert]
    have last : (g.nodes ++ [⟨id, type, g.additions⟩])[g.nodes.length]? =
        some ⟨id, type, g.additions⟩ := by simp
    rcases Nat.lt_trichotomy j g.nodes.length with before | rfl | after
    · rw [List.getElem?_append_left before, ← indexed.index_iff]
      split
      · next same =>
        subst same
        rw [found]
        simp [Nat.ne_of_gt before]
      · rfl
    · rw [last]
      split
      · next same => simp [same]
      · next other =>
        refine iff_of_false (fun there => ?_) (by simp [other])
        obtain ⟨n, beyond, _⟩ := (indexed.index_iff v _).mp there
        simp at beyond
    · have beyond : (g.nodes ++ [⟨id, type, g.additions⟩])[j]? = none := by simp; omega
      rw [beyond]
      split
      · simp [Nat.ne_of_lt after]
      · refine iff_of_false (fun there => ?_) (by simp)
        obtain ⟨n, here, _⟩ := (indexed.index_iff v j).mp there
        exact absurd (List.getElem?_eq_some_iff.mp here).1 (Nat.lt_asymm after)

/-! Adding a dependency. -/

/-- The call ends as it does on the graph of ids, and leaves what it leaves there. -/
theorem add_dependency_view (indexed : g.Indexed) (d : Dependency) :
    (g.addDependency d).1 = (g.view.addDependency d).map (fun _ => ()) ∧
      (g.addDependency d).2.view = g.view.after (.dependency d) := by
  simp only [addDependency, DependencyGraph.after, DependencyGraph.addDependency,
    has_node_view indexed]
  cases first : g.index.get? d.source with
  | none => exact ⟨rfl, rfl⟩
  | some i =>
    cases second : g.index.get? d.target with
    | none => exact ⟨rfl, rfl⟩
    | some j =>
      rw [has_edge_view indexed first second]
      by_cases present : g.hasLink i j = true
      · simp [present, Except.map]
      · simp [present, Except.map, view]

theorem indexed_add_dependency (indexed : g.Indexed) (d : Dependency) :
    (g.addDependency d).2.Indexed := by
  simp only [addDependency]
  cases first : g.index.get? d.source with
  | none => exact indexed
  | some i =>
    cases second : g.index.get? d.target with
    | none => exact indexed
    | some j =>
      by_cases present : g.hasLink i j = true
      · simpa only [if_pos present] using indexed
      · simp only [if_neg present]
        refine ⟨indexed.index_iff, fun l member => ?_, fun l member => ?_⟩
        · rcases List.mem_append.mp member with old | new
          · exact indexed.source_at l old
          · rw [List.mem_singleton.mp new]; exact first
        · rcases List.mem_append.mp member with old | new
          · exact indexed.target_at l old
          · rw [List.mem_singleton.mp new]; exact second

/-! Sequences of calls. -/

theorem after_view (indexed : g.Indexed) (call : GraphCall) :
    (g.after call).view = g.view.after call := by
  cases call with
  | node id type => exact view_add_node indexed id type
  | dependency d => exact (add_dependency_view indexed d).2

theorem after_indexed (indexed : g.Indexed) (call : GraphCall) : (g.after call).Indexed := by
  cases call with
  | node id type => exact indexed_add_node indexed id type
  | dependency d => exact indexed_add_dependency indexed d

theorem empty_indexed : empty.Indexed :=
  ⟨fun _ _ => iff_of_false (fun there => by cases there) (by simp [empty]), by simp [empty],
    by simp [empty]⟩

theorem of_calls_concat (calls : List GraphCall) (call : GraphCall) :
    ofCalls (calls ++ [call]) = (ofCalls calls).after call := by
  simp [ofCalls]

theorem of_calls_indexed (calls : List GraphCall) : (ofCalls calls).Indexed := by
  induction calls using List.reverseRecOn with
  | nil => exact empty_indexed
  | append_singleton calls call ih => rw [of_calls_concat]; exact after_indexed ih call

/-- The two graphs stay in step. -/
theorem of_calls_view (calls : List GraphCall) :
    (ofCalls calls).view = DependencyGraph.ofCalls calls := by
  induction calls using List.reverseRecOn with
  | nil => rfl
  | append_singleton calls call ih =>
    rw [of_calls_concat, DependencyGraph.of_calls_concat, after_view (of_calls_indexed calls), ih]

/-! Questions, which are answered by way of the index. -/

theorem node_eq_view (indexed : g.Indexed) (valid : g.view.Valid) (id : String) :
    g.node? id = g.view.node? id := by
  have here : ∀ n, g.node? id = some n ↔ n ∈ g.nodes ∧ n.logicalId = id := by
    intro n
    simp only [node?, Option.bind_eq_some_iff, indexed.index_iff]
    constructor
    · rintro ⟨i, ⟨m, there, name⟩, found⟩
      rw [there] at found
      cases found
      exact ⟨List.mem_of_getElem? there, name⟩
    · rintro ⟨member, name⟩
      obtain ⟨i, there⟩ := List.mem_iff_getElem?.mp member
      exact ⟨i, ⟨n, there, name⟩, there⟩
  have there : ∀ n, g.view.node? id = some n ↔ n ∈ g.nodes ∧ n.logicalId = id := by
    intro n
    constructor
    · intro found
      exact ⟨List.mem_of_find?_eq_some found, by simpa using List.find?_some found⟩
    · rintro ⟨member, name⟩
      have known := (DependencyGraph.has_node_iff g.view id).mpr (List.mem_map.mpr ⟨n, member, name⟩)
      obtain ⟨m, found⟩ := Option.isSome_iff_exists.mp known
      have same : m.logicalId = n.logicalId := by
        rw [name]
        simpa using List.find?_some found
      rw [found, List.inj_on_of_nodup_map valid.ids_nodup (List.mem_of_find?_eq_some found) member
        same]
  exact Option.ext fun n => (here n).trans (there n).symm

theorem depends_on_eq_view (indexed : g.Indexed) (dependent dependency : String) :
    g.dependsOn dependent dependency = g.view.dependsOn dependent dependency := by
  rw [dependsOn, DependencyGraph.dependsOn, has_node_view indexed, has_node_view indexed]
  cases first : g.index.get? dependency with
  | none => rfl
  | some i =>
    cases second : g.index.get? dependent with
    | none => rfl
    | some j => simp [has_edge_view indexed first second]

theorem dependencies_of_eq_view (indexed : g.Indexed) (id : String) :
    g.dependenciesOf id = g.view.dependenciesOf id := by
  have into : ∀ l ∈ g.links, (l.dependency.target == id) = (g.index.get? id == some l.target) := by
    intro l member
    rw [Bool.eq_iff_iff, beq_iff_eq, beq_iff_eq]
    constructor
    · rintro rfl
      exact indexed.target_at l member
    · exact fun there => eq_of_index_eq indexed (indexed.target_at l member) there
  rw [DependencyGraph.dependenciesOf, view, List.filter_map, ← List.map_reverse, dependenciesOf]
  rw [List.filter_congr (q := fun l => g.index.get? id == some l.target) into]
  cases g.index.get? id with
  | none => simp
  | some i =>
    have turned : ∀ l ∈ g.links, (some i == some l.target) = (l.target == i) := fun l _ => by
      rw [Bool.eq_iff_iff, beq_iff_eq, beq_iff_eq, Option.some_inj, eq_comm]
    rw [List.filter_congr turned]

open DependencyGraph (added LastAdded FirstTaken GroupsByType)

/-- What the calls so far say about the graph that they leave, and about what a further call does. -/
structure Represents (calls : List GraphCall) (g : IndexedGraph) : Prop where
  view_eq : g.view = DependencyGraph.ofCalls calls
  index_iff : ∀ id i, g.index.get? id = some i ↔ ∃ n, g.nodes[i]? = some n ∧ n.logicalId = id
  known_iff : ∀ id, (g.index.get? id).isSome = true ↔ id ∈ added calls
  node_count : g.nodes.length = (added calls).dedup.length
  node_iff : ∀ n, n ∈ g.nodes ↔ LastAdded calls n
  sequences_nodup : (g.nodes.map (·.sequence)).Nodup
  sequence_lt : ∀ n ∈ g.nodes, n.sequence < (added calls).length
  link_ends : ∀ l ∈ g.links, g.index.get? l.dependency.source = some l.source ∧
    g.index.get? l.dependency.target = some l.target
  links_apart : g.links.Pairwise fun l m => ¬ (l.source = m.source ∧ l.target = m.target)
  link_iff : ∀ d, (∃ l ∈ g.links, l.dependency = d) ↔ FirstTaken calls d
  readded : ∀ id ∈ added calls, ∀ type, ∃ i, g.index.get? id = some i ∧
    g.addNode id type = (i, { g with
      nodes := g.nodes.set i ⟨id, type, (added calls).length⟩
      additions := (added calls).length + 1 })
  source_unknown : ∀ d, d.source ∉ added calls →
    g.addDependency d = (.error (.danglingReference d.target d.source), g)
  target_unknown : ∀ d, d.source ∈ added calls → d.target ∉ added calls →
    g.addDependency d = (.error (.resourceNotFound d.target), g)
  both_known : ∀ d, d.source ∈ added calls → d.target ∈ added calls →
    (g.addDependency d).1 = .ok ()
  node_eq : ∀ id, g.node? id = g.view.node? id
  depends_on_eq : ∀ a b, g.dependsOn a b = g.view.dependsOn a b
  dependencies_eq : ∀ id, g.dependenciesOf id = g.view.dependenciesOf id
  groups : GroupsByType calls g.view.idsByType

theorem of_calls_represents (calls : List GraphCall) : Represents calls (ofCalls calls) := by
  have indexed := of_calls_indexed calls
  have same := of_calls_view calls
  have nodes : (ofCalls calls).nodes = (DependencyGraph.ofCalls calls).nodes :=
    congrArg DependencyGraph.nodes same
  have edges : (ofCalls calls).links.map (·.dependency) = (DependencyGraph.ofCalls calls).edges :=
    congrArg DependencyGraph.edges same
  have additions : (ofCalls calls).additions = (added calls).length :=
    (congrArg DependencyGraph.additions same).trans (DependencyGraph.additions_of_calls calls)
  have known : ∀ id, ((ofCalls calls).index.get? id).isSome = true ↔ id ∈ added calls := by
    intro id
    rw [← has_node_view indexed, same, DependencyGraph.has_node_iff, DependencyGraph.mem_ids_iff]
  have unknown : ∀ {id}, id ∉ added calls → (ofCalls calls).index.get? id = none := by
    intro id absent
    rwa [← known, Option.not_isSome_iff_eq_none] at absent
  have position : ∀ {id}, id ∈ added calls → ∃ i, (ofCalls calls).index.get? id = some i := by
    intro id present
    exact Option.isSome_iff_exists.mp ((known id).mpr present)
  constructor
  case view_eq => exact same
  case index_iff => exact indexed.index_iff
  case known_iff => exact known
  case node_count => rw [nodes]; exact DependencyGraph.node_count_of_calls calls
  case node_iff => intro n; rw [nodes]; exact DependencyGraph.mem_nodes_iff_added calls n
  case sequences_nodup => rw [nodes]; exact DependencyGraph.sequences_nodup calls
  case sequence_lt =>
    intro n member
    rw [nodes, DependencyGraph.mem_nodes_iff_added] at member
    exact DependencyGraph.sequence_lt member
  case link_ends => exact fun l member => ⟨indexed.source_at l member, indexed.target_at l member⟩
  case links_apart =>
    have apart := DependencyGraph.edges_apart calls
    rw [← edges, List.pairwise_map] at apart
    refine apart.imp_of_mem fun {l m} first second differ between => differ ?_
    have source := indexed.source_at l first
    have target := indexed.target_at l first
    rw [between.1] at source
    rw [between.2] at target
    exact ⟨eq_of_index_eq indexed source (indexed.source_at m second),
      eq_of_index_eq indexed target (indexed.target_at m second)⟩
  case link_iff =>
    intro d
    rw [← DependencyGraph.mem_edges_iff_taken, ← edges, List.mem_map]
  case readded =>
    intro id present type
    obtain ⟨i, here⟩ := position present
    exact ⟨i, here, by rw [add_known_node here, additions]⟩
  case source_unknown =>
    intro d absent
    simp only [addDependency, unknown absent]
  case target_unknown =>
    intro d present absent
    obtain ⟨i, here⟩ := position present
    simp only [addDependency, here, unknown absent]
  case both_known =>
    intro d first second
    obtain ⟨i, here⟩ := position first
    obtain ⟨j, there⟩ := position second
    simp only [addDependency, here, there]
  case node_eq =>
    exact node_eq_view indexed (same ▸ DependencyGraph.of_calls_valid calls)
  case depends_on_eq => exact depends_on_eq_view indexed
  case dependencies_eq => exact dependencies_of_eq_view indexed
  case groups => rw [same]; exact DependencyGraph.ids_by_type_groups calls

end IndexedGraph

end StackSynth
