import StackSynth.Proofs.Stack.Closed
import StackSynth.Proofs.Stack.Operations

/-!
Every stack that operations lead to has a dependency graph, with the one exception of the function
that empties buckets. Each operation obeys terms under which nothing is asked of a caller but values
that refer to what is declared.
-/
namespace StackSynth

variable {s s' : Stack}

/-- Terms for any caller whose values refer to what is declared. -/
def anyone : Terms where
  refers := fun s id => s.contains id = true
  declares := fun _ _ => True
  opens := fun _ => True
  awaits := fun _ _ => True
  refers_grows := fun grows known => grows.contains known

theorem anyone_closed : anyone.Closed := fun _ _ known => known

/-- Terms that leave a caller free in all that operations do, except for what values refer to and
for where services are declared. -/
structure Terms.Lenient (t : Terms) : Prop where
  declares : ∀ path type, type ≠ "AWS::ECS::Service" → t.declares path type
  opens : ∀ port, t.opens port
  awaits : ∀ type path, t.awaits type path

theorem anyone_lenient : anyone.Lenient :=
  ⟨fun _ _ _ => trivial, fun _ => trivial, fun _ _ => trivial⟩

/-- Terms that leave a caller free with resources of some types. -/
structure Terms.Allows (t : Terms) (types : List String) : Prop where
  declares : ∀ path, ∀ type ∈ types, t.declares path type
  opens : ∀ port, t.opens port
  awaits : ∀ type path, t.awaits type path

theorem Terms.Lenient.allows {t : Terms} {types : List String} (lenient : t.Lenient)
    (others : "AWS::ECS::Service" ∉ types) : t.Allows types where
  declares path type member := lenient.declares path type fun same => others (same ▸ member)
  opens := lenient.opens
  awaits := lenient.awaits

namespace Handle

theorem Valid.grows {handle : Handle} (valid : handle.Valid s) (grows : s.Grows s') :
    handle.Valid s' := by
  cases handle with
  | construct c =>
    obtain ⟨leaf, type, there⟩ := valid
    exact ⟨leaf, type, grows.at_ there⟩
  | role r => exact Role.Valid.grows valid grows
  | bucket b => exact Bucket.Valid.grows valid grows
  | table t => exact Table.Valid.grows valid grows
  | logGroup g => exact LogGroup.Valid.grows valid grows
  | cluster c => exact Cluster.Valid.grows valid grows
  | image i => exact valid
  | function f => exact LambdaFunction.Valid.grows valid grows
  | task t => exact TaskDefinition.Valid.grows valid grows
  | container c => exact Container.Valid.grows valid grows
  | service inner => exact Service.Valid.grows valid grows
  | certificate c => exact Certificate.Valid.grows valid grows
  | userPool p => exact UserPool.Valid.grows valid grows
  | provider p => exact GoogleProvider.Valid.grows valid grows
  | domain d => exact SignInDomain.Valid.grows valid grows
  | client c => exact SignInClient.Valid.grows valid grows
  | vpc v => exact Vpc.Valid.grows valid grows
  | subnet inner => exact Subnet.Valid.grows valid grows
  | endpoint e => exact grows.at_ valid
  | securityGroup g => exact SecurityGroup.Valid.grows valid grows
  | loadBalancer b => exact LoadBalancer.Valid.grows valid grows
  | listener l => exact Listener.Valid.grows valid grows
  | targetGroup g => exact TargetGroup.Valid.grows valid grows

/-- The parts of what belongs to a stack belong to it. -/
theorem Valid.part {whole part : Handle} (valid : whole.Valid s) (within : part ∈ whole.parts) :
    part.Valid s := by
  cases whole with
  | construct c => cases within
  | image i => cases within
  | container c => cases within
  | function f =>
    simp only [parts, List.mem_cons, List.not_mem_nil, or_false] at within
    rcases within with rfl | rfl | rfl
    · exact ⟨_, _, LambdaFunction.Valid.itself valid⟩
    · exact LambdaFunction.Valid.role valid
    · exact LambdaFunction.Valid.image valid
  | task t =>
    simp only [parts, List.mem_append, List.mem_cons, List.not_mem_nil, or_false,
      List.mem_map] at within
    rcases within with (rfl | rfl | rfl) | ⟨c, member, rfl⟩
    · exact ⟨_, _, TaskDefinition.Valid.itself valid⟩
    · exact TaskDefinition.Valid.taskRole valid
    · exact TaskDefinition.Valid.executionRole valid
    · exact TaskDefinition.Valid.essentials valid c member
  | service inner =>
    simp only [parts, List.mem_cons, List.not_mem_nil, or_false] at within
    rcases within with rfl | rfl | rfl
    · exact ⟨_, _, Service.Valid.itself valid⟩
    · exact Service.Valid.group valid
    · exact Service.Valid.container valid
  | vpc v =>
    simp only [parts, List.mem_append, List.mem_cons, List.not_mem_nil, or_false,
      List.mem_map] at within
    rcases within with (rfl | ⟨inner, member, rfl⟩) | ⟨e, member, rfl⟩
    · exact ⟨_, _, Vpc.Valid.itself valid⟩
    · exact Vpc.Valid.subnets valid inner member
    · exact Vpc.Valid.endpoints valid e member
  | subnet inner =>
    obtain rfl := List.mem_singleton.mp within
    exact ⟨_, _, Subnet.Valid.itself valid⟩
  | loadBalancer b =>
    simp only [parts, List.mem_cons, List.not_mem_nil, or_false] at within
    rcases within with rfl | rfl
    · exact ⟨_, _, LoadBalancer.Valid.itself valid⟩
    · exact LoadBalancer.Valid.group valid
  | listener l =>
    simp only [parts, List.mem_cons, List.not_mem_nil, or_false] at within
    rcases within with rfl | rfl
    · exact ⟨_, _, Listener.Valid.itself valid⟩
    · exact Listener.Valid.balancer valid
  | role _ | bucket _ | table _ | logGroup _ | cluster _ | certificate _ | userPool _ | provider _
  | domain _ | client _ | endpoint _ | securityGroup _ | targetGroup _ =>
    -- handles that are one construct and nothing else
    obtain rfl := List.mem_singleton.mp within
    exact ⟨_, _, valid⟩

end Handle

namespace Operation

variable {t : Terms} {named : List String} {α : Type} {m : Declaring α} {Q : α → Stack → Prop}

/-- The types of the resources that an operation may declare, but for a service itself. -/
def types : Operation → List String
  | role .. => ["AWS::IAM::Role"]
  | addToPolicy .. | grant .. | grantBucket .. | grantTable .. | grantLogs .. | grantPull _
  | grantInvoke .. => ["AWS::IAM::Policy"]
  | bucket .. => ["AWS::S3::Bucket", "AWS::IAM::Role", "AWS::Lambda::Function",
      "AWS::S3::BucketPolicy", "Custom::S3AutoDeleteObjects"]
  | table .. => ["AWS::DynamoDB::Table"]
  | logGroup .. => ["AWS::Logs::LogGroup"]
  | cluster _ => ["AWS::ECS::Cluster"]
  | function .. => ["AWS::Lambda::Function", "AWS::IAM::Role", "AWS::Logs::LogGroup"]
  | task .. => ["AWS::ECS::TaskDefinition", "AWS::IAM::Role"]
  | addContainer .. => ["AWS::IAM::Policy", "AWS::Logs::LogGroup"]
  | certificate .. => ["AWS::CertificateManager::Certificate"]
  | userPool .. => ["AWS::Cognito::UserPool"]
  | provider .. => ["AWS::Cognito::UserPoolIdentityProvider"]
  | domain .. => ["AWS::Cognito::UserPoolDomain"]
  | client .. => ["AWS::Cognito::UserPoolClient"]
  | vpc .. => Vpc.types
  | addEndpoint .. => ["AWS::EC2::VPCEndpoint"]
  | service .. | securityGroup .. => ["AWS::EC2::SecurityGroup"]
  | allowFrom .. => ["AWS::EC2::SecurityGroupIngress", "AWS::EC2::SecurityGroupEgress"]
  | loadBalancer .. => ["AWS::ElasticLoadBalancingV2::LoadBalancer", "AWS::EC2::SecurityGroup"]
  | listener .. => ["AWS::ElasticLoadBalancingV2::Listener"]
  | addTargets .. => ["AWS::ElasticLoadBalancingV2::TargetGroup", "AWS::EC2::SecurityGroupIngress",
      "AWS::EC2::SecurityGroupEgress"]
  | addManagedPolicy .. | image .. | addEnvironment .. | addPorts .. | register ..
  | allowFromBlock .. | waitFor .. => []

theorem service_not_among (op : Operation) : "AWS::ECS::Service" ∉ op.types := by
  cases op <;> simp [types, Vpc.types]

theorem gives_obeys {handle : α → Handle} (obeys : Obeys t s m Q)
    (valid : ∀ a s', Q a s' → (handle a).Valid s') :
    Obeys t s (gives handle m) fun given s' => ∀ h ∈ given, h.Valid s' := by
  refine obeys_map obeys fun a s' _ holds h member => ?_
  obtain rfl := List.mem_singleton.mp member
  exact valid a s' holds

theorem gives_nothing_obeys (obeys : Obeys t s m Q) :
    Obeys t s (givesNothing m) fun given s' => ∀ h ∈ given, h.Valid s' :=
  obeys_map obeys fun _ _ _ _ _ member => absurd member List.not_mem_nil

/-- A construct may wait for another one, since that has a resource of its own to wait for. -/
theorem wait_for_obeys (allows : t.Allows named) {dependent dependency : Construct}
    (waits : Handle.Valid s (.construct dependent))
    (awaited : Handle.Valid s (.construct dependency))
    (apart : dependent.logicalId ≠ dependency.logicalId) :
    Obeys t s (Stack.waitFor dependent dependency) fun _ _ => True := by
  obtain ⟨leaf, type, there⟩ := waits
  obtain ⟨_, _, answer⟩ := awaited
  refine obeys_forget (obeys_wait_for_path there (allows.awaits _ _) ?_)
  exact resolves_of_at answer apart.symm (List.prefix_append _ _) there.contains

/-- Targets can be attached to a listener if they, or what they stand for, are there. -/
theorem targets_admitted (allows : t.Allows named) {l : Listener} {port : UInt16}
    {targets : List Target}
    (used : ∀ h ∈ targets.flatMap handlesOf, h.Valid s)
    (others : ∀ id ∈ targets.filterMap otherId?, s.contains id = true)
    (rules : ["AWS::EC2::SecurityGroupIngress", "AWS::EC2::SecurityGroupEgress"] ⊆ named) :
    ∀ target ∈ targets, Listener.Admitted t s l port target := by
  intro target member
  have valid : target.Valid s := by
    cases target with
    | service inner =>
      exact used (.service inner) (List.mem_flatMap.mpr ⟨_, member, List.mem_singleton_self _⟩)
    | other type id group =>
      refine ⟨others id (List.mem_filterMap.mpr ⟨_, member, rfl⟩), fun g given => ?_⟩
      exact used (.securityGroup g) (List.mem_flatMap.mpr ⟨_, member,
        List.mem_map_of_mem (Option.mem_toList.mpr given)⟩)
  obtain ⟨path, type, there⟩ := valid.known
  exact ⟨valid, ⟨path, type, there, allows.awaits _ _⟩, fun _ _ =>
    ⟨allows.declares _ _ (rules (by simp)), fun _ => allows.declares _ _ (rules (by simp))⟩⟩

theorem container_admitted (allows : t.Allows ["AWS::IAM::Policy", "AWS::Logs::LogGroup"])
    {task : TaskDefinition} {id : String} {settings : ContainerSettings}
    (used : ∀ h ∈ imageOf settings.image, h.Valid s)
    (late : ∀ value ∈ settings.environment.entries.map (·.2),
      Json.Within (AdmitsLate t s) value.toJson) :
    TaskDefinition.Admitted t s task id settings where
  policy := allows.declares _ _ (by decide)
  logs := fun _ => allows.declares _ _ (by decide)
  image := fun i same => used (.image i) (by rw [same]; exact List.mem_singleton_self _)
  environment := fun entry member => late entry.2 (List.mem_map_of_mem member)

/-- What an operation does with handles of the stack keeps to the terms, and so do its results. -/
theorem action_obeys_types {op : Operation} (allows : t.Allows op.types)
    (services : ∀ id cluster task vpc settings, op = service id cluster task vpc settings →
      t.declares [id, "Service"] "AWS::ECS::Service")
    (used : ∀ h ∈ op.uses, h.Valid s)
    (late : ∀ value ∈ op.values, Json.Within (AdmitsLate t s) value.toJson)
    (others : ∀ id ∈ op.others, s.contains id = true)
    (apart : ∀ dependent dependency, op = waitFor dependent dependency →
      dependent.logicalId ≠ dependency.logicalId) :
    Obeys t s op.action fun given s' => ∀ h ∈ given, h.Valid s' := by
  cases op <;> simp only [uses, List.forall_mem_cons, List.forall_mem_append] at used
  case role scope id settings =>
    exact gives_obeys (Role.declare_obeys (allows.declares _ _ (by simp [types])))
      fun _ _ holds => holds.1
  case addManagedPolicy r policy => exact gives_nothing_obeys (Role.add_managed_policy_obeys used.1)
  case addToPolicy r statement =>
    exact gives_nothing_obeys (Role.add_to_policy_obeys used.1
      (allows.declares _ _ (by simp [types])) late)
  case grant r kind target statements =>
    refine gives_nothing_obeys (Role.grant_obeys used.1 (allows.declares _ _ (by simp [types]))
      fun statement member v listed => ?_)
    exact late v (List.mem_flatMap.mpr ⟨statement, member, listed⟩)
  case bucket id settings =>
    have emptied : Bucket.Emptied t [id] :=
      ⟨allows.declares _ _ (by simp [types]), allows.declares _ _ (by simp [types]),
        allows.declares _ _ (by simp [types]), allows.declares _ _ (by simp [types])⟩
    exact gives_obeys (Bucket.declare_obeys (allows.declares _ _ (by simp [types]))
      fun _ => emptied) fun _ _ holds => holds.1
  case grantBucket b r =>
    exact gives_nothing_obeys (Bucket.grant_read_write_obeys used.1 used.2.1
      (allows.declares _ _ (by simp [types])))
  case table id settings =>
    exact gives_obeys (Table.declare_obeys (allows.declares _ _ (by simp [types])))
      fun _ _ holds => holds.1
  case grantTable table r =>
    exact gives_nothing_obeys (Table.grant_read_write_obeys used.1 used.2.1
      (allows.declares _ _ (by simp [types])))
  case logGroup scope id retention removal =>
    exact gives_obeys (LogGroup.declare_obeys (allows.declares _ _ (by simp [types])))
      fun _ _ holds => holds.1
  case grantLogs g r =>
    exact gives_nothing_obeys (LogGroup.grant_write_obeys used.1 used.2.1
      (allows.declares _ _ (by simp [types])))
  case cluster id =>
    exact gives_obeys (Cluster.declare_obeys (allows.declares _ _ (by simp [types])))
      fun _ _ holds => holds
  case image files path settings =>
    exact gives_obeys ImageAsset.declare_obeys fun _ _ holds => holds
  case grantPull r =>
    exact gives_nothing_obeys (ImageAsset.grant_pull_obeys used.1
      (allows.declares _ _ (by simp [types])))
  case function files id settings =>
    refine gives_obeys (LambdaFunction.declare_obeys ⟨?_, ?_, fun _ => ?_, allows.awaits _ _⟩)
      fun _ _ holds => holds.1
    all_goals exact allows.declares _ _ (by simp [types])
  case grantInvoke f r =>
    exact gives_nothing_obeys (LambdaFunction.grant_invoke_obeys used.1 used.2.1
      (allows.declares _ _ (by simp [types])))
  case task id settings =>
    have given : ∀ (role : Option Role), (∀ h ∈ role.toList.map Handle.role, h.Valid s) →
        ∀ r ∈ role, r.Valid s := fun role valid r member =>
      valid (.role r) (List.mem_map_of_mem (Option.mem_toList.mpr member))
    have allowed : TaskDefinition.Allowed t id settings :=
      ⟨allows.declares _ _ (by simp [types]), fun _ => allows.declares _ _ (by simp [types]),
        fun _ => allows.declares _ _ (by simp [types])⟩
    exact gives_obeys (TaskDefinition.declare_obeys allowed (given _ used.1) (given _ used.2))
      fun _ _ holds => holds.1
  case addContainer task id settings =>
    refine obeys_map (TaskDefinition.add_container_obeys used.1
      (container_admitted allows used.2 late)) fun added s' _ holds h member => ?_
    simp only [List.mem_cons, List.not_mem_nil, or_false] at member
    rcases member with rfl | rfl
    · exact holds.definition
    · exact holds.container
  case addEnvironment c name value =>
    exact gives_nothing_obeys (Container.add_environment_obeys used.1
      (late value (List.mem_singleton_self _)))
  case addPorts c ports => exact gives_nothing_obeys (Container.add_ports_obeys used.1)
  case service id c task v settings =>
    have allowed : Service.Allowed t id task :=
      ⟨services _ _ _ _ _ rfl, allows.declares _ _ (by simp [types]), allows.awaits _ _⟩
    exact gives_obeys (Service.declare_obeys allowed used.1 used.2.1 used.2.2.1)
      fun _ _ holds => holds.1
  case register inner g =>
    exact gives_nothing_obeys (Service.register_obeys used.1 used.2.1)
  case certificate id domainName validation =>
    exact gives_obeys (Certificate.declare_obeys (allows.declares _ _ (by simp [types])))
      fun _ _ holds => holds
  case userPool id settings =>
    exact gives_obeys (UserPool.declare_obeys (allows.declares _ _ (by simp [types])))
      fun _ _ holds => holds.1
  case provider id p settings =>
    exact gives_obeys (GoogleProvider.declare_obeys used.1
      (allows.declares _ _ (by simp [types]))) fun _ _ holds => holds.1
  case domain id p label =>
    exact gives_obeys (SignInDomain.declare_obeys used.1
      (allows.declares _ _ (by simp [types]))) fun _ _ holds => holds
  case client id p settings =>
    exact gives_obeys (SignInClient.declare_obeys used.1
      (allows.declares _ _ (by simp [types]))) fun _ _ holds => holds.1
  case vpc id settings =>
    have allowed : Vpc.Allowed t [id] := fun _ _ _ part => allows.declares _ _ part
    exact gives_obeys (Vpc.declare_obeys allowed) fun _ _ holds => holds.1
  case addEndpoint v id kind =>
    exact gives_obeys (Vpc.add_endpoint_obeys used.1 (allows.declares _ _ (by simp [types])))
      fun _ _ holds => holds.1
  case securityGroup scope id v description allowsAllOutbound =>
    exact gives_obeys (SecurityGroup.declare_obeys ⟨_, Vpc.Valid.itself used.1⟩
      (allows.declares _ _ (by simp [types]))) fun _ _ holds => holds.1
  case allowFromBlock g block port description =>
    exact gives_nothing_obeys (SecurityGroup.allow_from_block_obeys used.1
      fun _ => allows.opens _)
  case allowFrom g peer port description =>
    exact gives_nothing_obeys (SecurityGroup.allow_from_obeys used.1 used.2.1
      ⟨allows.declares _ _ (by simp [types]), fun _ => allows.declares _ _ (by simp [types])⟩)
  case loadBalancer id v internetFacing =>
    have allowed : LoadBalancer.Allowed t id :=
      ⟨allows.declares _ _ (by simp [types]), allows.declares _ _ (by simp [types])⟩
    exact gives_obeys (LoadBalancer.declare_obeys allowed used.1)
      fun _ _ holds => holds.1
  case listener b id settings =>
    exact gives_obeys (Listener.declare_obeys used.1 (allows.declares _ _ (by simp [types]))
      (fun _ => allows.opens _) late) fun _ _ holds => holds.1
  case addTargets l id port protocol targets =>
    exact gives_obeys (Listener.add_targets_obeys used.1 (allows.declares _ _ (by simp [types]))
      (targets_admitted allows used.2 others (by simp [types]))) fun _ _ holds => holds.1
  case waitFor dependent dependency =>
    exact gives_nothing_obeys (wait_for_obeys allows used.1 used.2.1 (apart _ _ rfl))

theorem action_obeys {op : Operation} (lenient : t.Lenient)
    (services : ∀ id cluster task vpc settings, op = service id cluster task vpc settings →
      t.declares [id, "Service"] "AWS::ECS::Service")
    (used : ∀ h ∈ op.uses, h.Valid s)
    (late : ∀ value ∈ op.values, Json.Within (AdmitsLate t s) value.toJson)
    (others : ∀ id ∈ op.others, s.contains id = true)
    (apart : ∀ dependent dependency, op = waitFor dependent dependency →
      dependent.logicalId ≠ dependency.logicalId) :
    Obeys t s op.action fun given s' => ∀ h ∈ given, h.Valid s' :=
  action_obeys_types (lenient.allows op.service_not_among) services used late others apart

end Operation

theorem built_make {name : String} {environment : Environment}
    (made : Stack.make name environment = .ok s) (t : Terms) : Built t s := by
  unfold Stack.make at made
  split at made
  · cases made
    exact ⟨_, rfl, rfl, .refl⟩
  · cases made

theorem Operation.Permitted.obeys {op : Operation} {known : List Handle}
    (permitted : op.Permitted s known) (valid : ∀ h ∈ known, h.Valid s) :
    Obeys anyone s op.action fun given s' => ∀ h ∈ given, h.Valid s' :=
  action_obeys anyone_lenient (fun _ _ _ _ _ _ => trivial)
    (fun h member => valid h (permitted.uses member))
    (fun value member ref refers => admits_late_supplied (permitted.values value member ref refers))
    permitted.others permitted.apart

/-- Whatever happens, all handles stay valid. -/
theorem reached_valid {known : List Handle} (reached : Reached s known) :
    Built anyone s ∧ ∀ h ∈ known, h.Valid s := by
  induction reached with
  | start made => exact ⟨built_make made anyone, fun h member => absurd member List.not_mem_nil⟩
  | @operate s known op _ permitted ih =>
    obtain ⟨built, valid⟩ := ih
    obtain ⟨steps, results⟩ := permitted.obeys valid built
    refine ⟨built_steps built steps, fun h member => ?_⟩
    rcases List.mem_append.mp member with old | new
    · exact (valid h old).grows (steps_grow steps)
    · simp only [Operation.given] at new
      split at new
      · next given outcome => exact results given outcome h new
      · cases new
  | part _ member within ih =>
    refine ⟨ih.1, fun h listed => ?_⟩
    rcases List.mem_append.mp listed with old | new
    · exact ih.2 h old
    · obtain rfl := List.mem_singleton.mp new
      exact (ih.2 _ member).part within

/-- What operations lead to has a dependency graph: all waits resolve, and all that a resource needs
is declared. Where another construct has got the id of the function that empties buckets, it may
be missed, by a reference to the role of that function and in no other way. -/
theorem reached_graph {known : List Handle} (reached : Reached s known) :
    s.Closed ∧ ((∃ g, s.dependencyGraph = .ok g) ∨
      s.HandlerTaken ∧ ∃ source target, LogicalId.ofPath AutoDelete.rolePath = .ok target ∧
        s.contains target = false ∧
        s.dependencyGraph = .error (.danglingReference source target)) := by
  have closed : s.Closed := built_closed (reached_valid reached).1 anyone_closed
  exact ⟨closed, closed.graph⟩

/-! Two runs from a stack without resources. -/

def blank : Stack := { name := "Test", environment := ⟨"123456789012", "us-east-1"⟩ }

theorem blank_reached : Reached blank [] := by
  have named : Stack.isName "Test" = true := by decide
  exact .start (by rw [Stack.make, if_pos named]; rfl)

/-- An operation that only names what it declares can always be asked for. -/
theorem reached_declaring {known : List Handle} (op : Operation) (before : Reached s known)
    (uses : op.uses = []) (values : op.values = []) (others : op.others = []) :
    Reached (s.run op.action).2 (known ++ op.given s) := by
  refine .operate op before ⟨by simp [uses], by simp [values], by simp [others], ?_⟩
  rintro dependent dependency rfl
  cases uses

/-- A bucket that is emptied before it is deleted. -/
def emptiedBucket : Operation := .bucket "Data" { autoDelete := true, removal := .destroy }

theorem emptied_bucket_graph :
    let s := (blank.run emptiedBucket.action).2
    s.Closed ∧ ∃ g, s.dependencyGraph = .ok g := by
  have reached := reached_declaring emptiedBucket blank_reached rfl rfl rfl
  obtain ⟨closed, graph⟩ := reached_graph reached
  refine ⟨closed, ?_⟩
  rcases graph with found | ⟨_, source, target, _, _, missing⟩
  · exact found
  · have found : (blank.run emptiedBucket.action).2.dependencyGraph.toOption.isSome = true := by
      decide +kernel
    rw [missing] at found
    cases found

/-- A cluster that gets the id of the function that empties buckets: the digests of the two paths
start with the same digits. -/
def collidingCluster : Operation :=
  .cluster "CustomS3AutoDeleteObjectsCustomResourceProviderHandler----------^]@\x7b\x7b!("

/-- A bucket that is declared after such a cluster refers to a role that is not there. -/
theorem colliding_cluster_without_graph :
    ¬ ∀ s known, Reached s known → ∃ g, s.dependencyGraph = .ok g := by
  intro every
  have cluster := reached_declaring collidingCluster blank_reached rfl rfl rfl
  have bucket := reached_declaring emptiedBucket cluster rfl rfl rfl
  obtain ⟨g, found⟩ := every _ _ bucket
  have missing : ((blank.run collidingCluster.action).2.run
      emptiedBucket.action).2.dependencyGraph.toOption.isSome = false := by decide +kernel
  rw [found] at missing
  cases missing

end StackSynth
