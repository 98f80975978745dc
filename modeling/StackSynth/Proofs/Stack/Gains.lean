import StackSynth.Proofs.Stack.Additions
import StackSynth.Proofs.Stack.Calls
import StackSynth.Proofs.Stack.Requirements

/-!
Stacks that gain resources and change in nothing else. Where each new resource needs only new ones of
a lower layer, no way leads from the old ones to the new, so that whatever could be synthesized
before still can.
-/
namespace StackSynth.Stack

open DependencyGraph

variable {s s₁ s' : Stack} {gained more : List Declaration} {g g' : DependencyGraph} {t : Template}
  {path : List String} {r : Resource} {id : String}

/-- The stack goes on with resources that are declared under the ids of their paths. -/
structure Gains (s s' : Stack) (gained : List Declaration) : Prop where
  same : s' = { s with declared := s'.declared }
  entries : s'.declared.entries = s.declared.entries ++ gained
  named : ∀ d ∈ gained, LogicalId.ofPath d.2.path = .ok d.1

theorem gains_nothing (s : Stack) : s.Gains s [] :=
  ⟨rfl, (List.append_nil _).symm, List.forall_mem_nil _⟩

theorem Gains.trans (first : s.Gains s₁ gained) (second : s₁.Gains s' more) :
    s.Gains s' (gained ++ more) where
  same := by rw [second.same, first.same]
  entries := by rw [second.entries, first.entries, List.append_assoc]
  named := by
    intro d member
    exact (List.mem_append.mp member).elim (first.named d) (second.named d)

/-- A resource that is declared has got a free id, and is all that is gained. -/
theorem gains_of_declared (made : s.run (declare path r) = (.ok id, s')) :
    s.contains id = false ∧ s.Gains s' [(id, ⟨path, r⟩)] := by
  rw [run_declare] at made
  cases named : LogicalId.ofPath path with
  | error failure =>
    rw [named] at made
    cases made
  | ok name =>
    simp only [named] at made
    split at made
    · cases made
    · next free =>
      cases made
      have fresh := (free_iff.mp (Bool.not_eq_true _ ▸ free)).1
      refine ⟨fresh, rfl, OrderedMap.entries_insert fresh _, ?_⟩
      exact List.forall_mem_singleton.mpr named

namespace Gains

theorem get?_iff (gains : s.Gains s' gained) (id : String) (d : DeclaredResource) :
    s'.declared.get? id = some d ↔ s.declared.get? id = some d ∨ (id, d) ∈ gained := by
  simp only [OrderedMap.get?_eq_some_iff, gains.entries, List.mem_append]

theorem waits (gains : s.Gains s' gained) : s'.waits = s.waits := by rw [gains.same]

theorem outputs (gains : s.Gains s' gained) : s'.outputs = s.outputs := by rw [gains.same]

theorem contains_iff (gains : s.Gains s' gained) (id : String) :
    s'.contains id = true ↔ s.contains id = true ∨ ∃ d, (id, d) ∈ gained := by
  simp only [contains, OrderedMap.contains, Option.isSome_iff_exists, gains.get?_iff, exists_or]

theorem fresh (gains : s.Gains s' gained) {d : DeclaredResource} (new : (id, d) ∈ gained) :
    s.contains id = false := by
  rw [← Bool.not_eq_true]
  intro old
  have distinct := s'.declared.distinct
  rw [gains.entries, List.map_append, List.nodup_append] at distinct
  exact distinct.2.2 id ((OrderedMap.contains_iff _ _).mp old) id (List.mem_map_of_mem new) rfl

theorem resolves (gains : s.Gains s' gained) {w : Wait} (resolves : s.Resolves w) :
    s'.Resolves w := by
  obtain ⟨answer, member⟩ := List.exists_mem_of_ne_nil _ resolves.1
  obtain ⟨other, d, found, below⟩ := (mem_waited_for w answer).mp member
  have still := (mem_waited_for w answer).mpr
    ⟨other, d, (gains.get?_iff answer d).mpr (.inl found), below⟩
  exact ⟨List.ne_nil_of_mem still, (gains.contains_iff w.dependent).mpr (.inl resolves.2)⟩

/-- Each new resource needs only new ones, and of a lower layer. -/
def Layered (gained : List Declaration) : Prop :=
  ∀ d ∈ gained, ∀ x ∈ d.2.resource.prerequisites,
    ∃ e, (x, e) ∈ gained ∧ layer e.resource.type < layer d.2.resource.type

/-- What is new and of a lower layer than something else that is new. -/
def Under (gained : List Declaration) (a b : String) : Prop :=
  ∃ d e, (a, d) ∈ gained ∧ (b, e) ∈ gained ∧ layer d.resource.type < layer e.resource.type

/-- An edge between old resources was there before, and one to a new resource comes from below. -/
theorem edge_cases (gains : s.Gains s' gained) (layered : Layered gained)
    (graph : s.dependencyGraph = .ok g) (graph' : s'.dependencyGraph = .ok g') {a b : String}
    (edge : g'.Edge a b) :
    (s.contains b = true ∧ (s.contains a = true → g.Edge a b)) ∨ Under gained a b := by
  rcases (edge_iff graph' a b).mp edge with ⟨d, found, needed⟩ | ⟨-, w, listed, rfl, answers⟩
  · rcases (gains.get?_iff b d).mp found with old | new
    · exact .inl ⟨At.contains ⟨d, old, rfl, rfl⟩,
        fun _ => (edge_iff graph a b).mpr (.inl ⟨d, old, needed⟩)⟩
    · obtain ⟨e, below, lower⟩ := layered (b, d) new a needed
      exact .inr ⟨e, d, below, new, lower⟩
  · -- who waits has been there all along
    rw [gains.waits] at listed
    have waits := (((graph_iff s).mp ⟨g, graph⟩).1 w listed).2
    refine .inl ⟨waits, fun old => (edge_iff graph a _).mpr (.inr ⟨waits, w, listed, rfl, ?_⟩)⟩
    obtain ⟨other, d, found, below⟩ := (mem_waited_for w a).mp answers
    refine (mem_waited_for w a).mpr ⟨other, d, ?_, below⟩
    rcases (gains.get?_iff a d).mp found with there | new
    · exact there
    · rw [gains.fresh new] at old
      cases old

/-- By induction on the way, edge by edge up to a new resource. -/
theorem under_of_reaches (gains : s.Gains s' gained) (layered : Layered gained)
    (graph : s.dependencyGraph = .ok g) (graph' : s'.dependencyGraph = .ok g') {a b : String}
    (way : g'.Reaches a b) (new : s.contains b = false) : Under gained a b := by
  have last : ∀ {x y}, g'.Edge x y → s.contains y = false → Under gained x y := by
    intro x y edge fresh
    rcases gains.edge_cases layered graph graph' edge with ⟨old, _⟩ | under
    · rw [fresh] at old
      cases old
    · exact under
  induction way with
  | single edge => exact last edge new
  | @tail x y _ edge ih =>
    obtain ⟨d, e, middle, top, lower⟩ := last edge new
    obtain ⟨f, d', bottom, again, lower'⟩ := ih (gains.fresh middle)
    have same : d = d' := Option.some.inj
      (((gains.get?_iff x d).mpr (.inr middle)).symm.trans ((gains.get?_iff x d').mpr (.inr again)))
    subst same
    exact ⟨f, e, bottom, top, Nat.lt_trans lower' lower⟩

/-- A way between old resources keeps to old ones. -/
theorem reaches_before (gains : s.Gains s' gained) (layered : Layered gained)
    (graph : s.dependencyGraph = .ok g) (graph' : s'.dependencyGraph = .ok g') {a b : String}
    (way : g'.Reaches a b) (start : s.contains a = true) (stop : s.contains b = true) :
    g.Reaches a b := by
  have old_edge : ∀ {x y}, g'.Edge x y → s.contains x = true → s.contains y = true →
      g.Edge x y := by
    intro x y edge source target
    rcases gains.edge_cases layered graph graph' edge with ⟨_, before⟩ | ⟨_, _, _, new, _⟩
    · exact before source
    · rw [gains.fresh new] at target
      cases target
  induction way with
  | single edge => exact .single (old_edge edge start stop)
  | @tail x y way edge ih =>
    cases middle : s.contains x with
    | true => exact (ih middle).tail (old_edge edge middle stop)
    | false =>
      obtain ⟨_, _, new, _⟩ := gains.under_of_reaches layered graph graph' way middle
      rw [gains.fresh new] at start
      cases start

theorem acyclic (gains : s.Gains s' gained) (layered : Layered gained)
    (graph : s.dependencyGraph = .ok g) (graph' : s'.dependencyGraph = .ok g')
    (acyclic : g.Acyclic) : g'.Acyclic := by
  intro a loop
  cases old : s.contains a with
  | true => exact acyclic a (gains.reaches_before layered graph graph' loop old old)
  | false =>
    obtain ⟨d, e, here, again, lower⟩ := gains.under_of_reaches layered graph graph' loop old
    have same : d = e := Option.some.inj
      (((gains.get?_iff a d).mpr (.inr here)).symm.trans ((gains.get?_iff a e).mpr (.inr again)))
    subst same
    exact absurd lower (Nat.lt_irrefl _)

/-- A stack that can be synthesized still can with such resources. -/
theorem synthesis (gains : s.Gains s' gained) (layered : Layered gained)
    (made : s.synthesize = .ok t) : ∃ t', s'.synthesize = .ok t' := by
  obtain ⟨g, graph, straight, leads⟩ := (synthesize_ok_iff s).mp ⟨t, made⟩
  obtain ⟨resolved, declared⟩ := (graph_iff s).mp ⟨g, graph⟩
  have declared' : ∀ id x, s'.Requires id x → s'.contains x = true := by
    rintro id x ⟨d, found, needed⟩
    apply (gains.contains_iff x).mpr
    rcases (gains.get?_iff id d).mp found with old | new
    · exact .inl (declared id x ⟨d, old, needed⟩)
    · obtain ⟨e, below, _⟩ := layered (id, d) new x needed
      exact .inr ⟨e, below⟩
  obtain ⟨g', graph'⟩ := (graph_iff s').mpr
    ⟨fun w listed => gains.resolves (resolved w (gains.waits ▸ listed)), declared'⟩
  refine (synthesize_ok_iff s').mpr
    ⟨g', graph', gains.acyclic layered graph graph' straight, fun output listed ref refers => ?_⟩
  rw [gains.outputs] at listed
  exact (gains.contains_iff _).mpr (.inl (leads output listed ref refers))

/-- Where new resources miss a single one, that is what a stack that could be synthesized lacks. -/
theorem dangling (gains : s.Gains s' gained) (made : s.synthesize = .ok t) {x : String}
    (missing : s'.contains x = false) (missed : ∃ d ∈ gained, x ∈ d.2.resource.prerequisites)
    (else_there : ∀ d ∈ gained, ∀ y ∈ d.2.resource.prerequisites, y ≠ x → s'.contains y = true) :
    ∃ source, s'.synthesize = .error (.danglingReference source x) := by
  obtain ⟨g, graph, _⟩ := (synthesize_ok_iff s).mp ⟨t, made⟩
  obtain ⟨resolved, declared⟩ := (graph_iff s).mp ⟨g, graph⟩
  have resolved' : ∀ w ∈ s'.waits, s'.Resolves w :=
    fun w listed => gains.resolves (resolved w (gains.waits ▸ listed))
  rcases graph_or_dangling resolved' with found | ⟨id, y, ⟨d, found, needed⟩, absent, failed⟩
  · obtain ⟨⟨id, d⟩, new, needed⟩ := missed
    have found' := (gains.get?_iff id d).mpr (.inr new)
    rw [((graph_iff s').mp found).2 id x ⟨d, found', needed⟩] at missing
    cases missing
  · have same : y = x := by
      by_contra other
      have there : s'.contains y = true := by
        rcases (gains.get?_iff id d).mp found with old | new
        · exact (gains.contains_iff y).mpr (.inl (declared id y ⟨d, old, needed⟩))
        · exact else_there (id, d) new y needed other
      rw [there] at absent
      cases absent
    subst same
    exact ⟨id, synthesize_of_no_graph failed⟩

end Gains

end StackSynth.Stack
