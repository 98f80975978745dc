import StackSynth.Proofs.Asset.Source
import StackSynth.Proofs.Permissions.Growth
import StackSynth.Proofs.Permissions.Ledger
import StackSynth.Proofs.Stack.Names
import StackSynth.Proofs.Stack.Runs

/-!
When a permission makes a stack wait for itself. The policy of a role needs what the role is
permitted to use, and whatever waits for a path that the policy is under waits for the policy, also
where the policy comes about only now.
-/
namespace StackSynth

variable {s s' : Stack} {id : String} {path : List String} {role : Role} {p : Permission}
  {known : List Handle} {N : String → Prop} {g : DependencyGraph}

namespace Stack

open DependencyGraph

/-- A resource would wait for another one under the path if that one were there. -/
def WouldAwait (s : Stack) (id : String) (path : List String) (dependent : String) : Prop :=
  s.contains id = false ∧ ∃ w ∈ s.waits, w.dependent = dependent ∧ w.path <+: path

theorem Grown.path_of_other (grown : Grown s s' id path N) {k : String} (other : k ≠ id) :
    s'.path? k = s.path? k := by
  rw [path?, path?, grown.others k other]

theorem Grown.contains_iff (grown : Grown s s' id path N) (k : String) :
    s'.contains k = true ↔ s.contains k = true ∨ k = id := by
  rw [← Bool.not_eq_false, ← Bool.not_eq_false, ← path_eq_none_iff, ← path_eq_none_iff]
  by_cases same : k = id
  · simp [same, grown.there]
  · simp [same, grown.path_of_other same]

theorem Grown.requires_iff (grown : Grown s s' id path N) (k x : String) :
    s'.Requires k x ↔ s.Requires k x ∨ k = id ∧ N x := by
  by_cases same : k = id
  · subst same
    simp [grown.requires]
  · simp [Requires, grown.others k same, same]

theorem Grown.mem_waited_for (grown : Grown s s' id path N) (w : Wait) (k : String) :
    k ∈ s'.waitedFor w ↔ k ∈ s.waitedFor w ∨
      k = id ∧ s.contains id = false ∧ id ≠ w.dependent ∧ w.path <+: path := by
  rw [mem_waited_for_iff, mem_waited_for_iff, Answers, Answers]
  by_cases same : k = id
  · subst same
    rw [grown.there, ← path_eq_none_iff]
    cases s.path? k <;> simp
  · simp [grown.path_of_other same, same]

theorem Grown.resolves (grown : Grown s s' id path N) {w : Wait} (resolves : s.Resolves w) :
    s'.Resolves w := by
  obtain ⟨answer, member⟩ := List.exists_mem_of_ne_nil _ resolves.1
  exact ⟨List.ne_nil_of_mem ((grown.mem_waited_for w answer).mpr (.inl member)),
    (grown.contains_iff w.dependent).mpr (.inl resolves.2)⟩

/-- The graph grows by edges into the resource, and out of it where it is new. -/
theorem Grown.graph (grown : Grown s s' id path N) (graph : s.dependencyGraph = .ok g)
    (declared : ∀ x, N x → s.contains x = true) :
    ∃ g', s'.dependencyGraph = .ok g' ∧ ∀ a b, g'.Edge a b ↔
      (g.Edge a b ∨ a = id ∧ s.WouldAwait id path b) ∨ b = id ∧ N a := by
  obtain ⟨resolved, needed⟩ := (graph_iff s).mp ⟨g, graph⟩
  have still : ∀ k x, s'.Requires k x → s'.contains x = true := fun k x requires =>
    (grown.contains_iff x).mpr (.inl (((grown.requires_iff k x).mp requires).elim (needed k x)
      fun new => declared x new.2))
  obtain ⟨g', graph'⟩ := (graph_iff s').mpr ⟨fun w member =>
    grown.resolves (resolved w (grown.waits ▸ member)), still⟩
  refine ⟨g', graph', fun a b => ?_⟩
  rw [edge_iff graph, edge_iff graph', grown.requires_iff, grown.waits]
  constructor
  · rintro ((old | ⟨here, new⟩) | ⟨-, w, member, rfl, answer⟩)
    · exact .inl (.inl (.inl old))
    · exact .inr ⟨here, new⟩
    · -- an old wait is answered as before, or by the resource where that is new
      have waits := (resolved w member).2
      rcases (grown.mem_waited_for w a).mp answer with old | ⟨rfl, fresh, -, above⟩
      · exact .inl (.inl (.inr ⟨waits, w, member, rfl, old⟩))
      · exact .inl (.inr ⟨rfl, fresh, w, member, rfl, above⟩)
  · rintro (((old | ⟨-, w, member, rfl, answer⟩) | ⟨rfl, fresh, w, member, rfl, above⟩) | new)
    · exact .inl (.inl old)
    · exact .inr ⟨(grown.contains_iff _).mpr (.inl (resolved w member).2), w, member, rfl,
        (grown.mem_waited_for w a).mpr (.inl answer)⟩
    · have waits := (resolved w member).2
      have other : a ≠ w.dependent := by
        rintro rfl
        rw [fresh] at waits
        cases waits
      exact .inr ⟨(grown.contains_iff _).mpr (.inl waits), w, member, rfl,
        (grown.mem_waited_for w a).mpr (.inr ⟨rfl, fresh, other, above⟩)⟩
    · exact .inl (.inr new)

/-- What waits for an id that is still free comes before nothing that leads there. -/
theorem not_reaches_free {y : String} (graph : s.dependencyGraph = .ok g)
    (awaits : s.WouldAwait id path y) : ¬ Relation.ReflTransGen g.Edge y id := by
  obtain ⟨fresh, w, member, rfl, _⟩ := awaits
  intro way
  have waits := (((graph_iff s).mp ⟨g, graph⟩).1 w member).2
  rcases Relation.ReflTransGen.cases_tail way with same | ⟨z, _, last⟩
  · rw [same, waits] at fresh
    cases fresh
  · rw [edge_target_declared graph last] at fresh
    cases fresh

/-- A graph without loops that grows like this gets one where something that waits for the resource
comes before what the resource newly needs, or is that. -/
theorem looped_iff {g' : DependencyGraph} (graph : s.dependencyGraph = .ok g)
    (acyclic : g.Acyclic) (apart : ¬ N id)
    (edges : ∀ a b, g'.Edge a b ↔ (g.Edge a b ∨ a = id ∧ s.WouldAwait id path b) ∨ b = id ∧ N a) :
    ¬ g'.Acyclic ↔ ∃ y x, (g.Edge id y ∨ s.WouldAwait id path y) ∧ N x ∧
      (y = x ∨ g.Reaches y x) := by
  have follows : ∀ {y x}, (y = x ∨ g.Reaches y x) ↔ Relation.ReflTransGen g.Edge y x := by
    intro y x
    rw [Relation.reflTransGen_iff_eq_or_transGen, eq_comm]
  simp only [Acyclic, not_forall, not_not, follows]
  rw [loop_through_iff edges fun _ awaits => not_reaches_free graph awaits]
  constructor
  · rintro (⟨a, way⟩ | ⟨x, new, rfl | way | ⟨y, awaits, way⟩⟩)
    · exact absurd way (acyclic a)
    · exact absurd new apart
    · obtain ⟨y, edge, way⟩ := Relation.TransGen.head'_iff.mp way
      exact ⟨y, x, .inl edge, new, way⟩
    · exact ⟨y, x, .inr awaits, new, way⟩
  · rintro ⟨y, x, edge | awaits, new, way⟩
    · exact .inr ⟨x, new, .inr (.inl (.head' edge way))⟩
    · exact .inr ⟨x, new, .inr (.inr ⟨y, awaits, way⟩)⟩

/-- The stack stays deployable unless the growth closes a loop, and then only the loop is the
matter. -/
theorem Grown.synthesis {t : Template} (grown : Grown s s' id path N)
    (made : s.synthesize = .ok t) (declared : ∀ x, N x → s.contains x = true)
    (apart : ¬ N id) :
    ∃ g g', s.dependencyGraph = .ok g ∧ s'.dependencyGraph = .ok g' ∧
      ((∃ t', s'.synthesize = .ok t') ∨
        s'.synthesize = .error (.dependencyCycle g'.describeCycles)) ∧
      ((∃ t', s'.synthesize = .ok t') ↔ ¬ ∃ y x, (g.Edge id y ∨ s.WouldAwait id path y) ∧ N x ∧
        (y = x ∨ g.Reaches y x)) := by
  obtain ⟨g, _, _, _, graph, acyclic, leads, _⟩ := graph_of_template made
  obtain ⟨g', graph', edges⟩ := grown.graph graph declared
  have leads' : s'.OutputsLead := fun output member ref refers =>
    (grown.contains_iff _).mpr (.inl (leads output (grown.outputs ▸ member) ref refers))
  obtain ⟨expansion, expands, built⟩ := graph_expands graph'
  refine ⟨g, g', graph, graph', ?_⟩
  rw [← looped_iff graph acyclic apart edges, not_not]
  rcases synthesize_of_graph expands built with ⟨still, _, result⟩ | ⟨_, dangling, _⟩ |
    ⟨cyclic, result⟩
  · exact ⟨.inl ⟨_, result⟩, iff_of_true ⟨_, result⟩ still⟩
  · exact absurd leads' dangling
  · refine ⟨.inr result, iff_of_false ?_ cyclic⟩
    rintro ⟨t', made'⟩
    rw [result] at made'
    cases made'

end Stack

namespace Permission

/-- What a permission refers to. An image is pulled from a repository that no stack declares. -/
def refersTo : Permission → List String
  | pull => []
  | p => [p.target]

/-- The constructs that a permission is for. -/
def handles : Permission → List Handle
  | pull => []
  | write g => [.logGroup g]
  | invoke f => [.function f]
  | readWriteData t => [.table t]
  | readWrite b => [.bucket b]

theorem needs_iff (p : Permission) (x : String) :
    (∃ statement ∈ p.statements, statement.toJson.Needs x) ↔
      x ∈ p.refersTo ∧ x ≠ Bootstrap.versionParameter := by
  simp only [PolicyStatement.needs_iff]
  cases p with
  | pull =>
    have nothing : ¬ ImageAsset.repositoryArn.toJson.Needs x := fun ⟨ref, refers, _⟩ =>
      ImageAsset.repository_within (fun _ => False) ref refers
    simp [statements, refersTo, nothing, Value.needs_str]
  | write g => simp [statements, refersTo, target, LogGroup.arn, Value.needs_attribute]
  | invoke f =>
    simp [statements, refersTo, target, LambdaFunction.arn, Value.needs_attribute,
      Value.needs_attribute_and]
  | readWriteData t => simp [statements, refersTo, target, Table.arn, Value.needs_attribute]
  | readWrite b =>
    simp [statements, refersTo, target, Bucket.arn, Bucket.objectsArn, Value.needs_attribute,
      Value.needs_attribute_and]

/-- How a permission of a role makes a stack wait for itself, by way of the policy `id`: one resource
waits for the policy, and is or comes before another one that the policy newly needs. -/
structure ClosesLoop (p : Permission) (role : Role) (s : Stack) (g : DependencyGraph)
    (id waiting needed : String) : Prop where
  named : LogicalId.ofPath role.policyPath = .ok id
  /-- The policy is waited for, or will be once it is there. -/
  waits : g.Edge id waiting ∨ s.WouldAwait id role.policyPath waiting
  /-- A policy that is only now declared needs its role, too. -/
  needs : needed ∈ p.refersTo ∨ s.contains id = false ∧ needed = role.logicalId
  before : waiting = needed ∨ g.Reaches waiting needed

/-- The targets of permissions are main resources of constructs that no policy is. -/
theorem target_stands (valid : ∀ h ∈ p.handles, h.Valid s) {x : String} (refers : x ∈ p.refersTo) :
    ∃ base type, s.At x (base ++ [LogicalId.hiddenFromReader]) type ∧ layer type < 2 := by
  cases p with
  | pull => cases refers
  | write g =>
    cases List.mem_singleton.mp refers
    exact ⟨_, _, valid (.logGroup g) List.mem_cons_self, by decide⟩
  | invoke f =>
    cases List.mem_singleton.mp refers
    exact ⟨_, _, (valid (.function f) List.mem_cons_self).1, by decide⟩
  | readWriteData t =>
    cases List.mem_singleton.mp refers
    exact ⟨_, _, valid (.table t) List.mem_cons_self, by decide⟩
  | readWrite b =>
    cases List.mem_singleton.mp refers
    exact ⟨_, _, valid (.bucket b) List.mem_cons_self, by decide⟩

end Permission

/-- The main resource of a construct has an id that references to it lead to. -/
theorem Sound.ordinary {t : Terms} {base : List String} {type : String} (sound : Sound t s)
    (there : s.At id (base ++ [LogicalId.hiddenFromReader]) type) :
    id ≠ Bootstrap.versionParameter ∧ isPseudoParameter id = false := by
  obtain ⟨d, found, path, -⟩ := there
  have named := sound.named id d found
  rw [path] at named
  exact ⟨LogicalId.not_parameter_of_path named, LogicalId.not_pseudo_of_path named⟩

/-- What the policy of a role newly needs once the role is permitted something more. -/
theorem Permission.grown_of_given (settled : Settled s known) (grantee : .role role ∈ known)
    (targets : p.handles ⊆ known)
    (added : Stack.run { s with grants := s.grants ++ [p.record role] }
      (p.statements.forM role.addToPolicy) = (.ok (), s')) :
    ∃ id, LogicalId.ofPath role.policyPath = .ok id ∧
      (∀ x, x ∈ p.refersTo ∨ s.contains id = false ∧ x = role.logicalId →
        s.contains x = true ∧ x ≠ id) ∧
      s.Grown s' id role.policyPath fun x =>
        x ∈ p.refersTo ∨ s.contains id = false ∧ x = role.logicalId := by
  have sound := built_sound settled.built
  have role_there := settled.valid _ grantee
  have target_there : ∀ x ∈ p.refersTo, ∃ base type,
      s.At x (base ++ [LogicalId.hiddenFromReader]) type ∧ layer type < 2 := fun x refers =>
    p.target_stands (fun h member => settled.valid h (targets member)) refers
  obtain ⟨id, permitted⟩ := Role.permitted_of_all_added p.statements_ne_nil added
  refine ⟨id, permitted.named, fun x new => ?_, ?_⟩
  · rcases new with refers | ⟨fresh, rfl⟩
    · obtain ⟨base, type, ⟨d, found, path, rfl⟩, low⟩ := target_there x refers
      refine ⟨Stack.At.contains ⟨d, found, path, rfl⟩, ?_⟩
      rintro rfl
      -- only policies hold a document, and they are on a later layer than what is permitted
      have late := (sound.fits x d found).tidy.document (permitted.document d found)
      omega
    · refine ⟨role_there.contains, ?_⟩
      rintro rfl
      have declared := role_there.contains
      rw [fresh] at declared
      cases declared
  · have grown : s.Grown s' id role.policyPath _ :=
      ⟨permitted.grown.waits, permitted.grown.outputs, permitted.grown.others,
        permitted.grown.there, permitted.grown.requires⟩
    refine grown.congr fun x => ?_
    rw [p.needs_iff, Role.reference, Value.needs_reference]
    refine or_congr (and_iff_left_of_imp fun refers => ?_) (and_congr Iff.rfl ?_)
    · obtain ⟨base, type, there, -⟩ := target_there x refers
      exact (sound.ordinary there).1
    · obtain ⟨declared, plain⟩ := sound.ordinary role_there
      rw [and_iff_left plain]
      exact and_iff_left_of_imp fun same => same ▸ declared

/-- A stack that operations lead to stays deployable as a role is permitted something, unless that
closes a loop, and then nothing but the loop is the matter. -/
theorem Ran.deployable_unless_looped {t : Template} {new : Bool} (ran : Ran s known)
    (grantee : .role role ∈ known) (targets : p.handles ⊆ known) (made : s.synthesize = .ok t)
    (called : s.run (p.action role) = (.ok new, s')) :
    ∃ g, s.dependencyGraph = .ok g ∧
      ((∃ t', s'.synthesize = .ok t') ↔
        ¬ (new = true ∧ ∃ id waiting needed, p.ClosesLoop role s g id waiting needed)) ∧
      ((¬ ∃ t', s'.synthesize = .ok t') →
        ∃ g', s'.dependencyGraph = .ok g' ∧
          s'.synthesize = .error (.dependencyCycle g'.describeCycles)) := by
  rw [p.run_action] at called
  by_cases recorded : p.record role ∈ s.grants
  · rw [if_pos recorded] at called
    cases called
    obtain ⟨g, _, _, _, graph, _⟩ := Stack.graph_of_template made
    refine ⟨g, graph, iff_of_true ⟨t, made⟩ ?_, absurd ⟨t, made⟩⟩
    rintro ⟨given, -⟩
    cases given
  · rw [if_neg recorded] at called
    rcases added : Stack.run { s with grants := s.grants ++ [p.record role] }
        (p.statements.forM role.addToPolicy) with ⟨failure | done, s₁⟩
    all_goals rw [added] at called
    all_goals cases called
    obtain ⟨id, named, apart, grown⟩ := p.grown_of_given ran.settled grantee targets added
    obtain ⟨g, g', graph, graph', outcome, deployable⟩ := grown.synthesis made
      (fun x needed => (apart x needed).1) fun needed => (apart id needed).2 rfl
    refine ⟨g, graph, deployable.trans (not_congr ?_), fun failed =>
      ⟨g', graph', outcome.resolve_left failed⟩⟩
    constructor
    · rintro ⟨waiting, needed, waits, needs, before⟩
      exact ⟨rfl, id, waiting, needed, named, waits, needs, before⟩
    · rintro ⟨-, id', waiting, needed, loop⟩
      obtain rfl : id' = id := Except.ok.inj (loop.named.symm.trans named)
      exact ⟨waiting, needed, loop.waits, loop.needs, loop.before⟩

/-- A role that may use a table, in a stack that can be deployed without the permission. -/
def permittedTable : Declaring (Role × Table × Bool) := do
  let role ← Role.declare [] "Role" { service := "lambda.amazonaws.com" }
  let table ← Table.declare "Table" { partitionKey := ⟨"id", .string⟩ }
  let _ ← Stack.lift (← get).synthesize
  let new ← table.grantReadWrite role
  return (role, table, new)

theorem permitted_table_deployable :
    ∃ s s' known role table t, Ran s known ∧ Handle.role role ∈ known ∧ .table table ∈ known ∧
      s.synthesize = .ok t ∧
      s.run ((Permission.readWriteData table).action role) = (.ok true, s') ∧
      ∃ g, s.dependencyGraph = .ok g ∧
        ((∃ t', s'.synthesize = .ok t') ↔ ¬ (true = true ∧ ∃ id waiting needed,
          (Permission.readWriteData table).ClosesLoop role s g id waiting needed)) ∧
        ((¬ ∃ t', s'.synthesize = .ok t') → ∃ g', s'.dependencyGraph = .ok g' ∧
          s'.synthesize = .error (.dependencyCycle g'.describeCycles)) := by
  have permitted : (blank.run permittedTable).1.toOption.map (·.2.2) = some true := by
    decide +kernel
  rcases made : blank.run permittedTable with ⟨_ | ⟨role, table, new⟩, s'⟩
  all_goals rw [made] at permitted
  all_goals cases permitted
  obtain ⟨role, s₁, role_made, made⟩ := run_bind_ok made
  obtain ⟨table, s₂, table_made, made⟩ := run_bind_ok made
  obtain ⟨_, _, got, made⟩ := run_bind_ok made
  cases got
  obtain ⟨t, s₃, lifted, made⟩ := run_bind_ok made
  obtain ⟨synthesized, rfl⟩ := Prod.mk.inj (show (s₂.synthesize, s₂) = (.ok t, s₃) from lifted)
  obtain ⟨new, s₄, called, made⟩ := run_bind_ok made
  cases made
  have ran := blank_ran.next (.role _ _ _) rfl role_made (by simp [Operation.uses]) rfl (by simp)
  have ran := ran.next (.table _ _) rfl table_made (by simp [Operation.uses]) rfl (by simp)
  refine ⟨_, _, _, role, table, t, ran, by simp, by simp, synthesized, called, ?_⟩
  exact ran.deployable_unless_looped (by simp) (by simp [Permission.handles]) synthesized called

def smallFunction : FunctionSettings := {
  image := ⟨"/", {}⟩
  memory := 128
  timeout := .ofSeconds 30 }

/-- A function that may call itself, and whether the stack can be deployed before and after. -/
def selfInvocation : Declaring (Bool × Bool) := do
  let function ← LambdaFunction.declare .oneFile "Fn" smallFunction
  let before ← get
  let _ ← function.grantInvoke function.role
  let after ← get
  return (before.synthesize.toOption.isSome, after.synthesize.toOption.isSome)

theorem self_invocation_run :
    (blank.run selfInvocation).1.toOption = some (true, false) := by
  have source : ImageAsset.sourceOf .oneFile ["Fn", "AssetImage"] smallFunction.image =
      .ok (ImageAsset.oneFileSource ["Fn", "AssetImage"] {}) :=
    ImageAsset.one_file_source _ rfl rfl
  simp only [selfInvocation, LambdaFunction.declare, ImageAsset.declare, source]
  decide +kernel

/-- A function waits for all that its role is, and so for the policy that is to refer to it. -/
theorem self_invocation_undeployable :
    ¬ ∀ s s' known role p t new, Ran s known → Handle.role role ∈ known →
      Permission.handles p ⊆ known → s.synthesize = .ok t →
      s.run (p.action role) = (.ok new, s') → ∃ t', s'.synthesize = .ok t' := by
  intro every
  have outcome := self_invocation_run
  rcases made : blank.run selfInvocation with ⟨_ | answers, s'⟩
  all_goals rw [made] at outcome
  all_goals cases outcome
  obtain ⟨function, s₁, declared, made⟩ := run_bind_ok made
  obtain ⟨_, _, got, made⟩ := run_bind_ok made
  cases got
  obtain ⟨new, s₂, called, made⟩ := run_bind_ok made
  obtain ⟨_, _, got, made⟩ := run_bind_ok made
  cases got
  obtain ⟨before, after⟩ := Prod.mk.inj (Except.ok.inj (Prod.mk.inj made).1)
  have ran := blank_ran.next (.function _ _ _) rfl declared (by simp [Operation.uses]) rfl (by simp)
  have role_part : Handle.role function.role ∈ (Handle.function function).parts := by
    simp [Handle.parts]
  have ran := Ran.part ran (by simp) role_part
  cases synthesized : s₁.synthesize with
  | error failure =>
    rw [synthesized] at before
    cases before
  | ok t =>
    obtain ⟨t', made'⟩ := every s₁ s₂ _ function.role (.invoke function) t new ran (by simp)
      (by simp [Permission.handles]) synthesized called
    rw [made'] at after
    cases after

end StackSynth
