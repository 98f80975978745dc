import StackSynth.Proofs.Stack.Audited
import StackSynth.Proofs.Stack.Reached

/-!
What the audit can find after any run of operations, whatever the values are that they are given.
Services wait for the roles of their tasks, since nothing but their own declaration declares them;
variables and secrets are in order in every stack that is built step by step.
-/
namespace StackSynth

variable {s s' : Stack} {known : List Handle} {α : Type}

/-- Terms for values of any kind, with resources of some types in some places. -/
def declaring (allowed : List String → String → Prop) : Terms where
  refers := fun _ _ => True
  declares := allowed
  opens := fun _ => True
  awaits := fun _ _ => True
  refers_grows := fun _ _ => trivial

section Places

variable {allowed allowed' : List String → String → Prop}

theorem Admits.placed {type target : String} (admits : Admits (declaring allowed) s type target) :
    Admits (declaring allowed') s type target := by
  cases admits with
  | below there lower_layer => exact .below there lower_layer
  | supplied late refers => exact .supplied late refers
  | taken taken known => exact .taken taken known

theorem Tidy.placed {r : Resource} (tidy : Tidy (declaring allowed) r) :
    Tidy (declaring allowed') r :=
  ⟨tidy.document, tidy.containers, tidy.secret, tidy.rules, tidy.rule, tidy.actions⟩

theorem Fits.placed {path : List String} {r : Resource} (fits : Fits (declaring allowed) s path r)
    (here : allowed' path r.type) : Fits (declaring allowed') s path r :=
  ⟨here, fun target needed => (fits.admits target needed).placed, fits.tidy.placed, fits.handler,
    fits.policy⟩

theorem GrowsTo.placed {r : Resource} {key : String} {value : Json}
    (grows : GrowsTo (declaring allowed) s r key value) :
    GrowsTo (declaring allowed') s r key value where
  grown := grows.grown
  refers := fun ref member => (grows.refers ref member).imp_right fun ⟨late, admits⟩ =>
    ⟨late, admits.placed⟩
  tidy := fun tidy => (grows.tidy tidy.placed).placed
  acts := grows.acts

/-- Where resources may be is told by where they are in the end. -/
theorem steps_placed {start : Stack} (steps : Steps (declaring allowed) start s)
    (all : ∀ id path type, s.At id path type → allowed' path type) :
    Steps (declaring allowed') start s := by
  induction steps with
  | refl => exact .refl
  | tail _ last ih =>
    have grows := step_grows last
    refine (ih fun id path type there => all id path type (grows.at_ there)).tail ?_
    cases last with
    | declare named free fits =>
      exact .declare named free (fits.placed (all _ _ _ (Stack.at_insert _ _ _ _)))
    | edit found grown same => exact .edit found (GrowsTo.placed grown) same
    | wait waits awaits resolves => exact .wait waits awaits resolves
    | keep declared waits leads => exact .keep declared waits leads

theorem built_placed (built : Built (declaring allowed) s)
    (all : ∀ id path type, s.At id path type → allowed' path type) :
    Built (declaring allowed') s := by
  obtain ⟨start, empty, quiet, steps⟩ := built
  exact ⟨start, empty, quiet, steps_placed steps all⟩

end Places

/-- Terms for values of any kind, with services in some places only. -/
def servicesAt (place : List String → Prop) : Terms where
  refers := fun _ _ => True
  declares := fun path type => type = "AWS::ECS::Service" → place path
  opens := fun _ => True
  awaits := fun _ _ => True
  refers_grows := fun _ _ => trivial

theorem services_at_lenient {place : List String → Prop} : (servicesAt place).Lenient :=
  ⟨fun _ _ other same => absurd same other, fun _ => trivial, fun _ _ => trivial⟩

/-- Terms for values of any kind and services anywhere. -/
abbrev anything : Terms := servicesAt fun _ => True

/-- Terms under which no service is declared that a stack does not have. -/
abbrev sameServices (s : Stack) : Terms :=
  servicesAt fun path => ∃ id, s.At id path "AWS::ECS::Service"

variable {m : Declaring α} {Q : α → Stack → Prop}

/-- What is where something of its type was before is that. -/
theorem old_of_path {t : Terms} {id type : String} {path : List String} (before : Built t s)
    (steps : Steps t s s') (there : s'.At id path type) (old : ∃ other, s.At other path type) :
    s.At id path type := by
  have sound := built_sound (built_steps before steps)
  obtain ⟨d, found, rfl, type⟩ := there
  obtain ⟨other, e, found', path, type'⟩ := old
  have named := (built_sound before).named other e found'
  rw [path, sound.named id d found] at named
  cases named
  exact ⟨e, found', path, type'⟩

theorem old_service {id : String} {path : List String} (before : Built (sameServices s) s)
    (steps : Steps (sameServices s) s s') (there : s'.At id path "AWS::ECS::Service") :
    s.At id path "AWS::ECS::Service" := by
  refine old_of_path before steps there ?_
  obtain ⟨d, found, rfl, type⟩ := there
  exact ((built_sound (built_steps before steps)).fits id d found).declares type

/-- Terms under which only resources of some types are new. -/
abbrev onlyNew (s : Stack) (types : List String) : Terms :=
  declaring fun path type => type ∈ types ∨ ∃ id, s.At id path type

theorem only_new_allows (s : Stack) (types : List String) : (onlyNew s types).Allows types :=
  ⟨fun _ _ member => .inl member, fun _ => trivial, fun _ _ => trivial⟩

/-- What declares resources of some types only leaves none of another type that was not there. -/
theorem old_or_among {types : List String} (built : Built anything s)
    (obeys : Obeys (onlyNew s types) s m Q) {id type : String} {path : List String}
    (there : (s.run m).2.At id path type) : s.At id path type ∨ type ∈ types := by
  have before : Built (onlyNew s types) s :=
    built_placed built fun id _ _ there => .inr ⟨id, there⟩
  obtain ⟨steps, -⟩ := obeys before
  obtain ⟨d, found, place, kind⟩ := there
  have allowed : type ∈ types ∨ ∃ id, s.At id path type := by
    rw [← place, ← kind]
    exact ((built_sound (built_steps before steps)).fits id d found).declares
  exact allowed.symm.imp_left (old_of_path before steps ⟨d, found, place, kind⟩)

/-- What declares no services leaves them attended. -/
theorem attended_of_obeys (built : Built anything s) (attended : s.Attended)
    (obeys : Obeys (sameServices s) s m Q) : (s.run m).2.Attended := by
  have before : Built (sameServices s) s := built_placed built fun id _ _ there same => ⟨id, same ▸ there⟩
  obtain ⟨steps, -⟩ := obeys before
  intro id path there
  exact (attended id path (old_service before steps there)).grows (steps_grow steps)

theorem run_wait_for_path (s : Stack) (dependent : String) (path : List String) :
    ∃ waits, s.run (Stack.waitForPath dependent path) = (.ok (), { s with waits }) ∧
      s.waits ⊆ waits ∧ ⟨dependent, path⟩ ∈ waits := by
  unfold Stack.waitForPath
  rw [Stack.run_modifyGet]
  by_cases known : s.waits.contains ⟨dependent, path⟩ = true
  · exact ⟨s.waits, by simp only [known, if_true], List.Subset.refl _, by simpa using known⟩
  · exact ⟨s.waits ++ [⟨dependent, path⟩], by simp only [if_neg known],
      List.subset_append_left _ _, by simp⟩

/-- A service that is declared and waits for its tasks' role at once is attended. -/
theorem attended_declare {path : List String} {r : Resource} {task : TaskDefinition}
    {rest : String → Declaring α} (attended : s.Attended) (valid : task.Valid s)
    (runs : r.property? "TaskDefinition" = some task.arn.toJson)
    (keeps : ∀ (id : String) (s' : Stack), (s'.run (rest id)).2 = s') :
    (s.run (do
      let id ← Stack.declare path r
      Stack.waitForPath id task.taskRole.path
      rest id)).2.Attended := by
  rw [Stack.run_bind, Stack.run_declare]
  cases LogicalId.ofPath path with
  | error e => exact attended
  | ok id =>
    by_cases taken : s.isTaken id = true
    · simpa only [taken, if_true] using attended
    · have free : s.contains id = false := by
        simp only [Stack.isTaken, Bool.or_eq_true, not_or, Bool.not_eq_true] at taken
        exact taken.1
      obtain ⟨waits, outcome, more, waiting⟩ :=
        run_wait_for_path (s.insert id path r) id task.taskRole.path
      simp only [if_neg taken]
      rw [Stack.run_bind, outcome]
      simp only [keeps]
      have grows : s.Grows { s.insert id path r with waits } :=
        Stack.grows_trans (Stack.grows_insert free path r)
          ⟨fun _ d found => ⟨d, found, rfl, rfl, fun _ _ => rfl⟩, more, fun _ acts => acts⟩
      rintro other place ⟨d, found, rfl, type⟩
      by_cases new : id = other
      · subst new
        refine ⟨task, valid.grows grows, ⟨⟨path, r⟩, ?_, runs⟩, waiting⟩
        exact (Stack.get?_insert s id id path r).trans (if_pos rfl)
      · rw [Stack.get?_insert, if_neg new] at found
        exact (attended other d.path ⟨d, found, rfl, type⟩).grows grows

/-- Declaring a service leaves all services attended, whether it fails or not. -/
theorem attended_service {id : String} {cluster : Cluster} {task : TaskDefinition} {vpc : Vpc}
    {settings : ServiceSettings} (built : Built anything s) (attended : s.Attended)
    (task_valid : task.Valid s) (vpc_valid : vpc.Valid s) :
    (s.run (Service.declare id cluster task vpc settings)).2.Attended := by
  unfold Service.declare
  split
  · exact attended
  · next container _ =>
    have obeys : ∀ t : Terms, t.Lenient → Obeys t s
        (SecurityGroup.declare [id] "SecurityGroup" vpc none true) fun _ _ => True :=
      fun t lenient => obeys_forget (SecurityGroup.declare_obeys ⟨_, vpc_valid.itself⟩
        (lenient.declares _ _ (by decide)))
    have before := attended_of_obeys built attended (obeys _ services_at_lenient)
    have grows := steps_grow (obeys _ services_at_lenient built).1
    rw [Stack.run_bind]
    rcases outcome : s.run (SecurityGroup.declare [id] "SecurityGroup" vpc none true) with
      ⟨_ | group, s₁⟩
    all_goals rw [outcome] at before grows
    · exact before
    · exact attended_declare before (task_valid.grows grows) rfl fun _ _ => rfl

/-! Runs of operations. -/

/-- What an operation is given are handles of the stack; targets that are no services stand for what
is declared, and one construct waits for another. Its values may be any. -/
structure Operation.Possible (s : Stack) (known : List Handle) (op : Operation) : Prop where
  uses : op.uses ⊆ known
  others : ∀ id ∈ op.others, s.contains id = true
  apart : ∀ dependent dependency, op = waitFor dependent dependency →
    dependent.logicalId ≠ dependency.logicalId

/-- The stacks that operations lead to, each with the handles that were given on the way. -/
inductive Ran : Stack → List Handle → Prop
  | start {name : String} {environment : Environment} {s : Stack}
    (made : Stack.make name environment = .ok s) : Ran s []
  | operate {s : Stack} {known : List Handle} (op : Operation) (before : Ran s known)
    (possible : op.Possible s known) : Ran (s.run op.action).2 (known ++ op.given s)
  | part {s : Stack} {known : List Handle} {whole part : Handle} (before : Ran s known)
    (member : whole ∈ known) (within : part ∈ whole.parts) : Ran s (known ++ [part])

/-- What holds of every stack that operations lead to. -/
structure Settled (s : Stack) (known : List Handle) : Prop where
  built : Built anything s
  valid : ∀ h ∈ known, h.Valid s
  attended : s.Attended

namespace Operation

variable {op : Operation}

theorem Possible.obeys {t : Terms} (possible : op.Possible s known) (lenient : t.Lenient)
    (services : ∀ id cluster task vpc settings, op = service id cluster task vpc settings →
      t.declares [id, "Service"] "AWS::ECS::Service")
    (refers : ∀ s id, t.refers s id) (valid : ∀ h ∈ known, h.Valid s) :
    Obeys t s op.action fun given s' => ∀ h ∈ given, h.Valid s' :=
  action_obeys lenient services (fun h member => valid h (possible.uses member))
    (fun _ _ _ _ => admits_late_supplied (refers _ _)) possible.others possible.apart

/-- An operation declares a service, or resources of its own types, or nothing. -/
theorem Possible.types_new (possible : op.Possible s known) (settled : Settled s known)
    {id type : String} {path : List String} (there : (s.run op.action).2.At id path type) :
    s.At id path type ∨ type ∈ "AWS::ECS::Service" :: op.types := by
  have allows := only_new_allows s ("AWS::ECS::Service" :: op.types)
  refine old_or_among settled.built (action_obeys_types ?_ ?_
    (fun h member => settled.valid h (possible.uses member))
    (fun _ _ _ _ => admits_late_supplied trivial) possible.others possible.apart) there
  · exact ⟨fun path type member => allows.declares path type (List.mem_cons_of_mem _ member),
      allows.opens, allows.awaits⟩
  · exact fun _ _ _ _ _ _ => allows.declares _ _ List.mem_cons_self

theorem Possible.attended (possible : op.Possible s known) (settled : Settled s known) :
    (s.run op.action).2.Attended := by
  by_cases service : ∃ id cluster task vpc settings, op = .service id cluster task vpc settings
  · obtain ⟨id, cluster, task, vpc, settings, rfl⟩ := service
    have used : ∀ h ∈ [Handle.cluster cluster, .task task, .vpc vpc], h.Valid s :=
      fun h member => settled.valid h (possible.uses member)
    simp only [List.forall_mem_cons] at used
    rw [action, gives, Stack.run_map]
    exact attended_service settled.built settled.attended used.2.1 used.2.2.1
  · refine attended_of_obeys settled.built settled.attended (possible.obeys services_at_lenient
      (fun id cluster task vpc settings same => ?_) (fun _ _ => trivial) settled.valid)
    exact absurd ⟨id, cluster, task, vpc, settings, same⟩ service

theorem Possible.steps (possible : op.Possible s known) (settled : Settled s known) :
    Steps anything s (s.run op.action).2 ∧ ∀ given, (s.run op.action).1 = .ok given →
      ∀ h ∈ given, h.Valid (s.run op.action).2 :=
  possible.obeys services_at_lenient (fun _ _ _ _ _ _ _ => trivial) (fun _ _ => trivial)
    settled.valid settled.built

theorem Possible.grows (possible : op.Possible s known) (settled : Settled s known) :
    s.Grows (s.run op.action).2 :=
  steps_grow (possible.steps settled).1

theorem Possible.settled (possible : op.Possible s known) (settled : Settled s known) :
    Settled (s.run op.action).2 (known ++ op.given s) := by
  obtain ⟨steps, results⟩ := possible.steps settled
  refine ⟨built_steps settled.built steps, fun h member => ?_, possible.attended settled⟩
  rcases List.mem_append.mp member with old | new
  · exact (settled.valid h old).grows (steps_grow steps)
  · simp only [given] at new
    split at new
    · next handles outcome => exact results handles outcome h new
    · cases new

end Operation

theorem empty_of_make {name : String} {environment : Environment}
    (made : Stack.make name environment = .ok s) : s.declared = ∅ := by
  unfold Stack.make at made
  split at made
  · cases made
    rfl
  · cases made

theorem Ran.settled (ran : Ran s known) : Settled s known := by
  induction ran with
  | start made =>
    refine ⟨built_make made _, fun h member => absurd member List.not_mem_nil, ?_⟩
    rintro id path ⟨d, found, -, -⟩
    rw [empty_of_make made] at found
    cases found
  | operate op _ possible ih => exact possible.settled ih
  | part _ member within ih =>
    refine ⟨ih.built, fun h listed => ?_, ih.attended⟩
    rcases List.mem_append.mp listed with old | new
    · exact ih.valid h old
    · obtain rfl := List.mem_singleton.mp new
      exact (ih.valid _ member).part within

namespace Audit

variable {template : Template}

/-- What other rules find is not of the rules on services, variables and secrets. -/
theorem rule_of_finding (hasty : hastyServices template = [])
    (repeats : repeatedVariables template = []) (secrets : literalSecrets template = []) :
    ∀ f ∈ findings template, f.rule ∈ ["V001", "V002", "V006"] := by
  intro f found
  obtain ⟨part, listed, found⟩ := mem_findings_iff.mp found
  rw [rule_of_section template part listed f found]
  simp only [sections, hasty, repeats, secrets, List.mem_cons, List.not_mem_nil, or_false] at listed
  rcases listed with rfl | rfl | rfl | rfl | rfl | rfl
  · exact List.mem_cons_self
  · exact List.mem_cons_of_mem _ List.mem_cons_self
  · cases found
  · cases found
  · cases found
  · exact List.mem_cons_of_mem _ (List.mem_cons_of_mem _ List.mem_cons_self)

end Audit

/-- What is synthesized is the template of the stack. -/
theorem template_of_synthesis {template : Template} (made : s.synthesize = .ok template) :
    template = s.template := by
  obtain ⟨_, _, expands, _, _, _, _, rfl⟩ := Stack.graph_of_template made
  rw [Stack.expanded_ok expands]
  rfl

/-- Whatever operations are asked for, in whatever order, and whether they fail or not: if the stack
can be synthesized, its services wait for the policies of their tasks, no container sets a variable
twice, and no client secret is written down. -/
theorem Ran.findings {template : Template} (ran : Ran s known)
    (made : s.synthesize = .ok template) :
    ∀ f ∈ Audit.findings template, f.rule ∉ ["V003", "V004", "V005"] := by
  have settled := ran.settled
  rw [template_of_synthesis made]
  intro f found
  have rule := Audit.rule_of_finding (Audit.no_hasty_services settled.built settled.attended)
    (Audit.no_repeated_variables settled.built) (Audit.no_literal_secrets settled.built) f found
  simp only [List.mem_cons, List.not_mem_nil, or_false] at rule
  rcases rule with same | same | same
  all_goals rw [same]; decide

/-- A role that is allowed something after the service that runs under it was declared. -/
def lateStatement : Declaring Template := do
  let vpc ← Vpc.declare "Vpc" { zones := 1, groups := [⟨"Inner", .isolated⟩] }
  let cluster ← Cluster.declare "Cluster"
  let task ← TaskDefinition.declare "Task" {}
  let (task, _) ← task.addContainer "web" { image := .registry "nginx" }
  let _ ← Service.declare "Web" cluster task vpc {}
  task.taskRole.addToPolicy { actions := ["s3:GetObject"], resources := [.str "*"] }
  Stack.lift (← get).synthesize

theorem Operation.run_of_does {op : Operation} {handles : α → List Handle} {a : α}
    (does : op.action = handles <$> m) (made : s.run m = (.ok a, s')) :
    s.run op.action = (.ok (handles a), s') := by
  rw [does, Stack.run_map, made]
  rfl

/-- An operation that succeeds leads on with what it gives. -/
theorem Ran.operated {m : Declaring α} {handles : α → List Handle} {a : α} (ran : Ran s known)
    (op : Operation) (does : op.action = handles <$> m) (made : s.run m = (.ok a, s'))
    (possible : op.Possible s known) : Ran s' (known ++ handles a) := by
  have ran := Ran.operate op ran possible
  simpa only [Operation.given, Operation.run_of_does does made] using ran

/-- Most operations are possible wherever what they use has been given. -/
theorem Ran.next {m : Declaring α} {handles : α → List Handle} {a : α} (ran : Ran s known)
    (op : Operation) (does : op.action = handles <$> m) (made : s.run m = (.ok a, s'))
    (uses : op.uses ⊆ known) (others : op.others = [])
    (apart : ∀ dependent dependency, op ≠ .waitFor dependent dependency) :
    Ran s' (known ++ handles a) :=
  ran.operated op does made
    ⟨uses, by simp [others], fun _ _ same => absurd same (apart _ _)⟩

theorem blank_ran : Ran blank [] := by
  have named : Stack.isName "Test" = true := by decide
  exact .start (by rw [Stack.make, if_pos named]; rfl)

theorem late_statement_found : ∃ s known template, Ran s known ∧ s.synthesize = .ok template ∧
    ∀ f ∈ Audit.findings template, f.rule ∉ ["V003", "V004", "V005"] := by
  have succeeds : (blank.run lateStatement).1.toOption.isSome = true := by decide +kernel
  rcases made : blank.run lateStatement with ⟨_ | template, s⟩
  · rw [made] at succeeds
    cases succeeds
  obtain ⟨vpc, s₁, vpc_made, made⟩ := run_bind_ok made
  obtain ⟨cluster, s₂, cluster_made, made⟩ := run_bind_ok made
  obtain ⟨task, s₃, task_made, made⟩ := run_bind_ok made
  obtain ⟨⟨grown, container⟩, s₄, container_made, made⟩ := run_bind_ok made
  obtain ⟨service, s₅, service_made, made⟩ := run_bind_ok made
  obtain ⟨_, s₆, statement_made, made⟩ := run_bind_ok made
  have ran := blank_ran.next (.vpc _ _) rfl vpc_made (by simp [Operation.uses]) rfl (by simp)
  have ran := ran.next (.cluster _) rfl cluster_made (by simp [Operation.uses]) rfl (by simp)
  have ran := ran.next (.task _ _) rfl task_made (by simp [Operation.uses]) rfl (by simp)
  have ran := ran.next (.addContainer _ _ _) rfl container_made
    (by simp [Operation.uses, Operation.imageOf]) rfl (by simp)
  have ran := ran.next (.service _ _ _ _ _) rfl service_made
    (by simp [Operation.uses]) rfl (by simp)
  have role_part : Handle.role grown.taskRole ∈ (Handle.task grown).parts := by
    simp [Handle.parts]
  have ran := Ran.part ran (by simp) role_part
  have ran := ran.next (.addToPolicy _ _) rfl statement_made
    (by simp [Operation.uses]) rfl (by simp)
  obtain ⟨synthesized, rfl⟩ := Prod.mk.inj (show (s₆.synthesize, s₆) = (.ok template, s) from made)
  exact ⟨s₆, _, template, ran, synthesized, ran.findings synthesized⟩

end StackSynth
