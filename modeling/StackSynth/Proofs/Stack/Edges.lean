import StackSynth.Proofs.Stack.Agreement

/-!
The dependency graph of a stack, edge by edge. Between two resources there is at most one edge: an
explicit one where the later resource depends on the earlier by its own word or by a wait, and
otherwise one for the first of the references that lead there.
-/
namespace StackSynth

namespace OrderedMap

/-- Where a search can only succeed at one key, it is a look-up of that key. -/
theorem find_some_entries {α β : Type} (m : OrderedMap α) (key : String)
    {f : String × α → Option β} (only : ∀ k v, k ≠ key → f (k, v) = none) :
    m.entries.findSome? f = (m.get? key).bind fun v => f (key, v) := by
  have distinct := m.distinct
  rw [get?]
  generalize m.entries = entries at distinct ⊢
  induction entries with
  | nil => rfl
  | cons entry rest ih =>
    obtain ⟨k, v⟩ := entry
    obtain ⟨fresh, distinct⟩ := List.nodup_cons.mp distinct
    rw [List.findSome?_cons, lookup]
    by_cases here : k = key
    · subst here
      rw [if_pos rfl, Option.bind_some]
      cases found : f (k, v) with
      | some b => rfl
      | none =>
        rw [List.findSome?_eq_none_iff]
        rintro ⟨other, w⟩ member
        apply only
        rintro rfl
        exact fresh (List.mem_map.mpr ⟨(other, w), member, rfl⟩)
    · rw [if_neg here, only k v here, ih distinct]

end OrderedMap

namespace Resource

/-- What a resource has to come after. -/
def Needs (r : Resource) (source : String) : Prop :=
  source ∈ r.dependsOn ∨
    source ≠ Bootstrap.versionParameter ∧ ∃ ref ∈ r.references, ref.target = source

theorem needs_iff (r : Resource) (source : String) : r.Needs source ↔ source ∈ r.prerequisites := by
  rw [mem_prerequisites_iff]
  constructor
  · rintro (depends | ⟨declared, ref, refers, rfl⟩)
    · exact .inl depends
    · exact .inr ⟨ref, refers, declared, rfl⟩
  · rintro (depends | ⟨ref, refers, declared, rfl⟩)
    · exact .inl depends
    · exact .inr ⟨declared, ref, refers, rfl⟩

/-- The edge that leads from a source to a resource, if the resource needs the source. -/
def edgeFrom (r : Resource) (source id : String) : Option Dependency :=
  if source ∈ r.dependsOn then some ⟨source, id, .explicit, none⟩
  else if source = Bootstrap.versionParameter then none
  else (r.references.find? (·.target == source)).map fun ref => ⟨source, id, .reference, ref.attr⟩

end Resource

namespace DependencyGraph

variable {g grown : DependencyGraph} {d : Dependency} {ds : List Dependency}

def joins (source target : String) (d : Dependency) : Bool :=
  d.source == source && d.target == target

/-- The first edge between two ids. -/
def between (g : DependencyGraph) (source target : String) : Option Dependency :=
  g.edges.find? (joins source target)

theorem joins_iff (source target : String) (d : Dependency) :
    joins source target d = true ↔ d.source = source ∧ d.target = target := by
  simp [joins]

theorem between_isSome_iff (source target : String) :
    (g.between source target).isSome = true ↔ g.Edge source target := by
  simp only [between, List.find?_isSome, joins_iff, Edge]

/-- A dependency that is taken up is the edge already, or becomes the last one. -/
theorem add_dependency_taken (taken : g.addDependency d = .ok grown) :
    (g.Edge d.source d.target ∧ grown = g) ∨
      ¬ g.Edge d.source d.target ∧ grown = { g with edges := g.edges ++ [d] } := by
  rcases add_dependency_cases g d with ⟨_, refused⟩ | ⟨_, _, refused⟩ | ⟨_, _, present, same⟩ |
    ⟨_, _, absent, added⟩
  · rw [refused] at taken; cases taken
  · rw [refused] at taken; cases taken
  · rw [same] at taken
    cases taken
    exact .inl ⟨present, rfl⟩
  · rw [added] at taken
    cases taken
    exact .inr ⟨absent, rfl⟩

/-- Of several dependencies between the same two ids the first is the edge. -/
theorem between_add_dependency (taken : g.addDependency d = .ok grown) (source target : String) :
    grown.between source target = (g.between source target).or ([d].find? (joins source target)) := by
  rcases add_dependency_taken taken with ⟨present, rfl⟩ | ⟨_, rfl⟩
  · by_cases meets : joins source target d = true
    · obtain ⟨rfl, rfl⟩ := (joins_iff source target d).mp meets
      exact (Option.or_of_isSome ((between_isSome_iff _ _).mpr present)).symm
    · simp [meets]
  · exact List.find?_append

/-- What every dependency that is taken up keeps, all of them keep together. -/
theorem add_dependencies_keep {P : DependencyGraph → Prop}
    (keeps : ∀ {g grown d}, P g → g.addDependency d = .ok grown → P grown) (start : P g)
    (added : ds.foldlM addDependency g = .ok grown) : P grown := by
  induction ds generalizing g with
  | nil => cases added; exact start
  | cons d rest ih =>
    rw [List.foldlM_cons] at added
    obtain ⟨middle, taken, added⟩ := Outcome.bind_ok added
    exact ih (keeps start taken) added

theorem between_add_dependencies (added : ds.foldlM addDependency g = .ok grown)
    (source target : String) :
    grown.between source target = (g.between source target).or (ds.find? (joins source target)) := by
  induction ds generalizing g with
  | nil => cases added; simp
  | cons d rest ih =>
    rw [List.foldlM_cons] at added
    obtain ⟨middle, taken, added⟩ := Outcome.bind_ok added
    rw [ih added, between_add_dependency taken, Option.or_assoc, ← List.find?_append]
    rfl

/-- No two edges run between the same two ids. -/
def Simple (g : DependencyGraph) : Prop := (g.edges.map fun e => (e.source, e.target)).Nodup

theorem add_dependency_simple (simple : g.Simple) (taken : g.addDependency d = .ok grown) :
    grown.Simple := by
  rcases add_dependency_taken taken with ⟨_, rfl⟩ | ⟨absent, rfl⟩
  · exact simple
  · unfold Simple
    rw [List.map_append, List.nodup_append]
    refine ⟨simple, List.nodup_singleton _, ?_⟩
    rintro _ old _ new rfl
    obtain ⟨e, member, same⟩ := List.mem_map.mp old
    rw [List.mem_singleton.mp new] at same
    exact absent ⟨e, member, congrArg Prod.fst same, congrArg Prod.snd same⟩

theorem nodes_add_dependency (taken : g.addDependency d = .ok grown) : grown.nodes = g.nodes := by
  rcases add_dependency_taken taken with ⟨_, rfl⟩ | ⟨_, rfl⟩
  · rfl
  · rfl

theorem mem_edges_iff (simple : g.Simple) (e : Dependency) :
    e ∈ g.edges ↔ g.between e.source e.target = some e := by
  constructor
  · intro member
    obtain ⟨first, found⟩ : ∃ first, g.between e.source e.target = some first :=
      Option.isSome_iff_exists.mp ((between_isSome_iff _ _).mpr ⟨e, member, rfl, rfl⟩)
    have ends := (joins_iff _ _ _).mp (List.find?_some found)
    have same : first = e := List.inj_on_of_nodup_map simple (List.mem_of_find?_eq_some found) member
      (Prod.ext ends.1 ends.2)
    rw [found, same]
  · exact List.mem_of_find?_eq_some

theorem nodes_add_nodes {entries : List (String × Resource)}
    (nodup : (g.ids ++ entries.map Prod.fst).Nodup) :
    (entries.foldl (fun g entry => g.addNode entry.1 entry.2.type) g).nodes =
      g.nodes ++ (entries.zipIdx g.additions).map fun entry =>
        ⟨entry.1.1, entry.1.2.type, entry.2⟩ := by
  induction entries generalizing g with
  | nil => simp
  | cons entry rest ih =>
    have fresh : entry.1 ∉ g.ids := by
      intro known
      exact (List.nodup_append.mp nodup).2.2 entry.1 known entry.1 List.mem_cons_self rfl
    have unknown : g.hasNode entry.1 = false := by
      rw [← Bool.not_eq_true, has_node_iff]
      exact fresh
    have split : g.ids ++ (entry :: rest).map Prod.fst =
        (g.addNode entry.1 entry.2.type).ids ++ rest.map Prod.fst := by
      simp [ids_add_node, unknown]
    rw [List.foldl_cons, ih (split ▸ nodup)]
    simp [addNode, unknown, List.zipIdx_cons]

end DependencyGraph

namespace Stack

open DependencyGraph

variable {s : Stack} {resources : OrderedMap Resource}

theorem find_explicit (depends : List String) (source id : String) :
    (depends.map fun other => (⟨other, id, .explicit, none⟩ : Dependency)).find?
        (joins source id) =
      if source ∈ depends then some ⟨source, id, .explicit, none⟩ else none := by
  induction depends with
  | nil => rfl
  | cons first rest ih =>
    by_cases same : first = source
    · simp [joins, same]
    · rw [List.map_cons, List.find?_cons_of_neg (by simp [joins, same]), ih]
      simp [Ne.symm same]

/-- References to the parameter of every template make no edge. -/
theorem find_reference (refs : List Reference) (source id : String) :
    ((refs.filter fun ref => !Bootstrap.parameters.contains ref.target).map fun ref =>
        (⟨ref.target, id, .reference, ref.attr⟩ : Dependency)).find? (joins source id) =
      if source = Bootstrap.versionParameter then none
      else (refs.find? (·.target == source)).map fun ref => ⟨source, id, .reference, ref.attr⟩ := by
  induction refs with
  | nil => simp
  | cons first rest ih =>
    by_cases parameter : Bootstrap.parameters.contains first.target = true
    · rw [List.filter_cons_of_neg (by simp [parameter]), ih]
      have version := (Bootstrap.parameter_iff first.target).mp parameter
      split
      · rfl
      · next other =>
        rw [List.find?_cons_of_neg (by simpa [version] using Ne.symm other)]
    · rw [List.filter_cons_of_pos (by simp [parameter]), List.map_cons]
      by_cases same : first.target = source
      · rw [Bootstrap.parameter_iff, same] at parameter
        simp [joins, same, parameter]
      · rw [List.find?_cons_of_neg (by simp [joins, same]), ih,
          List.find?_cons_of_neg (by simp [same])]

theorem find_dependencies_of (id : String) (r : Resource) (source target : String) :
    (dependenciesOf id r).find? (joins source target) =
      if id = target then r.edgeFrom source target else none := by
  by_cases here : id = target
  · subst here
    rw [if_pos rfl, dependenciesOf, List.find?_append, find_explicit, find_reference,
      Resource.edgeFrom]
    split
    · rfl
    · rw [Option.none_or]
  · rw [if_neg here, List.find?_eq_none]
    intro d member meets
    obtain ⟨-, same⟩ := (joins_iff source target d).mp meets
    obtain ⟨-, target_is⟩ := (mem_dependencies_of id r d.source d.target).mp ⟨d, member, rfl, rfl⟩
    exact here (target_is.trans same)

theorem find_all_dependencies (source target : String) :
    (resources.entries.flatMap fun entry => dependenciesOf entry.1 entry.2).find?
        (joins source target) =
      (resources.get? target).bind fun r => r.edgeFrom source target := by
  simp only [List.find?_flatMap, find_dependencies_of]
  rw [OrderedMap.find_some_entries _ target]
  · simp
  · intro id r other
    exact if_neg other

theorem nodes_of_eq (resources : OrderedMap Resource) :
    (nodesOf resources).nodes =
      resources.entries.zipIdx.map fun entry => ⟨entry.1.1, entry.1.2.type, entry.2⟩ := by
  have distinct : (DependencyGraph.empty.ids ++ resources.entries.map Prod.fst).Nodup :=
    resources.distinct
  exact nodes_add_nodes distinct

/-- The graph that resources make up. -/
theorem graph_of_edges {g : DependencyGraph} (built : graphOf resources = .ok g) :
    g.Simple ∧ ∀ e, e ∈ g.edges ↔
      ∃ r, resources.get? e.target = some r ∧ r.edgeFrom e.source e.target = some e := by
  have none_yet : (nodesOf resources).edges = [] := edges_add_nodes resources.entries
  have simple : g.Simple := by
    apply add_dependencies_keep add_dependency_simple _ built
    rw [← nodesOf, Simple, none_yet]
    exact List.nodup_nil
  refine ⟨simple, fun e => ?_⟩
  rw [mem_edges_iff simple, between_add_dependencies built, ← nodesOf, between, none_yet,
    List.find?_nil, Option.none_or, find_all_dependencies, Option.bind_eq_some_iff]

/-- The graph of a stack whose waits are spelled out: a node for each resource, and one edge for each
resource that another one needs. -/
structure IsGraphOf (s : Stack) (expansion : OrderedMap Resource) (g : DependencyGraph) : Prop where
  nodes : g.nodes = s.declared.entries.zipIdx.map fun entry =>
    ⟨entry.1.1, entry.1.2.resource.type, entry.2⟩
  simple : g.Simple
  edge_iff : ∀ source target, g.Edge source target ↔
    ∃ r, expansion.get? target = some r ∧ r.Needs source
  explicit : ∀ e ∈ g.edges, ∀ r, expansion.get? e.target = some r → e.source ∈ r.dependsOn →
    e.kind = .explicit ∧ e.attr = none
  reference : ∀ e ∈ g.edges, ∀ r, expansion.get? e.target = some r → e.source ∉ r.dependsOn →
    e.kind = .reference ∧
      ∃ ref, r.references.find? (·.target == e.source) = some ref ∧ e.attr = ref.attr

theorem entries_expansion {expansion : OrderedMap Resource} (expands : s.expanded = .ok expansion) :
    expansion.entries = s.declared.entries.map fun entry =>
      (entry.1, s.withWaits entry.1 entry.2.resource) := by
  rw [expanded_ok expands]
  simp [Stack.resources, OrderedMap.mapValues, Function.comp_def]

theorem mem_keys_expansion {expansion : OrderedMap Resource} (expands : s.expanded = .ok expansion)
    (id : String) : id ∈ expansion.keys ↔ s.contains id = true := by
  rw [← OrderedMap.contains_iff, expanded_ok expands, OrderedMap.contains_mapValues,
    contains_resources]

theorem graph_of_expansion {expansion : OrderedMap Resource}
    (expands : s.expanded = .ok expansion) : s.dependencyGraph = graphOf expansion := by
  simp [dependencyGraph, expands, bind, Except.bind]

theorem is_graph_of {expansion : OrderedMap Resource} {g : DependencyGraph}
    (expands : s.expanded = .ok expansion) (built : graphOf expansion = .ok g) :
    IsGraphOf s expansion g := by
  obtain ⟨simple, edges⟩ := graph_of_edges built
  have edge_of : ∀ e ∈ g.edges, ∀ r, expansion.get? e.target = some r →
      r.edgeFrom e.source e.target = some e := by
    intro e member r found
    obtain ⟨_, again, edge⟩ := (edges e).mp member
    rw [found] at again
    cases again
    exact edge
  constructor
  · have same_nodes : g.nodes = (nodesOf expansion).nodes :=
      add_dependencies_keep (P := fun grown => grown.nodes = (nodesOf expansion).nodes)
        (fun kept taken => (nodes_add_dependency taken).trans kept) rfl built
    rw [same_nodes, nodes_of_eq, entries_expansion expands, List.zipIdx_map, List.map_map]
    apply List.map_congr_left
    intro entry _
    simp only [Function.comp_apply, Prod.map]
    rw [with_waits_eq]
    rfl
  · exact simple
  · intro source target
    rw [(graph_of_ok built).2.2]
    simp only [Resource.needs_iff]
  · intro e member r found depends
    have edge := edge_of e member r found
    rw [Resource.edgeFrom, if_pos depends] at edge
    have same := Option.some.inj edge
    exact ⟨(congrArg Dependency.kind same).symm, (congrArg Dependency.attr same).symm⟩
  · intro e member r found independent
    have edge := edge_of e member r found
    rw [Resource.edgeFrom, if_neg independent] at edge
    split at edge
    · cases edge
    · obtain ⟨ref, first, same⟩ := Option.map_eq_some_iff.mp edge
      exact ⟨(congrArg Dependency.kind same).symm, ref, first, (congrArg Dependency.attr same).symm⟩

theorem dangling_iff {expansion : OrderedMap Resource} (expands : s.expanded = .ok expansion) :
    (∃ id source, s.dependencyGraph = .error (.danglingReference id source)) ↔
      ∃ id r source, expansion.get? id = some r ∧ r.Needs source ∧ s.contains source = false := by
  rw [graph_of_expansion expands]
  constructor
  · rintro ⟨_, _, failed⟩
    obtain ⟨id, r, source, found, needed, missing, _⟩ := graph_of_error failed
    rw [mem_keys_expansion expands, Bool.not_eq_true] at missing
    exact ⟨id, r, source, found, (r.needs_iff source).mpr needed, missing⟩
  · rintro ⟨id, r, source, found, needs, undeclared⟩
    cases built : graphOf expansion with
    | ok g =>
      obtain ⟨valid, same_ids, edges⟩ := graph_of_ok built
      have edge := (edges source id).mpr ⟨r, found, (r.needs_iff source).mp needs⟩
      have known := edge_source_known valid edge
      rw [same_ids, mem_keys_expansion expands, undeclared] at known
      cases known
    | error failure =>
      obtain ⟨id, _, source, _, _, _, same⟩ := graph_of_error built
      exact ⟨id, source, congrArg Except.error same⟩

theorem exact_graph (s : Stack) :
    (∀ g, s.dependencyGraph = .ok g →
      ∃ expansion, s.expanded = .ok expansion ∧ IsGraphOf s expansion g) ∧
    (∀ expansion, s.expanded = .ok expansion →
      ((∃ id source, s.dependencyGraph = .error (.danglingReference id source)) ↔
        ∃ id r source, expansion.get? id = some r ∧ r.Needs source ∧ s.contains source = false)) := by
  constructor
  · intro g graph
    obtain ⟨expansion, expands, built⟩ := graph_expands graph
    exact ⟨expansion, expands, is_graph_of expands built⟩
  · intro expansion expands
    exact dangling_iff expands

end Stack

end StackSynth
