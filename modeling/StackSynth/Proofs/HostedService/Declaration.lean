import StackSynth.Proofs.Constructs.Data
import StackSynth.Proofs.Constructs.Identity
import StackSynth.Proofs.Constructs.Services
import StackSynth.Proofs.HostedService.Outline

/-!
The hosted service is declared within its outline, part by part, and what it is made of is there in
the end.
-/
namespace StackSynth.HostedService

variable {s s' : Stack} {files : FileTree} {c : Config}

theorem outlined {path : List String} {type : String} (listed : (path, type) ∈ outline) :
    terms.declares path type := .inl listed

theorem refers_low {id type : String} {path : List String} (there : s.At id path type)
    (low : layer type < 2) : AdmitsLate terms s id := admits_late_at there low

structure SignIn.Valid (signIn : SignIn) (s : Stack) : Prop where
  certificate : signIn.certificate.Valid s
  userPool : signIn.userPool.Valid s
  provider : signIn.googleProvider.Valid s
  path : signIn.googleProvider.path = ["ZkcirGoogleProvider"]

theorem SignIn.Valid.grows {signIn : SignIn} (valid : signIn.Valid s) (grows : s.Grows s') :
    signIn.Valid s' :=
  ⟨valid.certificate.grows grows, valid.userPool.grows grows, valid.provider.grows grows,
    valid.path⟩

theorem declare_sign_in_obeys : Obeys terms s (declareSignIn c) fun signIn s' =>
    signIn.Valid s' := by
  unfold declareSignIn
  refine obeys_bind (Certificate.declare_obeys (outlined (by decide)))
    fun certificate s₁ _ certificate_valid => ?_
  refine obeys_bind (UserPool.declare_obeys (outlined (by decide)))
    fun pool s₂ second ⟨pool_valid, _⟩ => ?_
  refine obeys_lift fun secret _ => ?_
  refine obeys_bind (GoogleProvider.declare_obeys pool_valid (outlined (by decide)))
    fun provider s₃ third ⟨provider_valid, path⟩ => ?_
  refine obeys_bind (SignInDomain.declare_obeys (pool_valid.grows third) (outlined (by decide)))
    fun domain s₄ fourth _ => obeys_pure ?_
  exact ⟨((certificate_valid.grows second).grows third).grows fourth,
    (pool_valid.grows third).grows fourth, provider_valid.grows fourth, path⟩

theorem network_allowed : Vpc.Allowed terms ["Vpc"] := fun _ _ inside part =>
  .inr ⟨(["Vpc"], Vpc.types), by decide, inside, part⟩

theorem declare_execution_role_obeys : Obeys terms s declareExecutionRole fun role s' =>
    role.Valid s' ∧ role.path = ["ExecutionRole"] := by
  unfold declareExecutionRole
  refine obeys_bind (Role.declare_obeys (outlined (by decide))) fun role s₁ _ ⟨valid, path⟩ => ?_
  refine obeys_bind (Role.add_managed_policy_obeys valid) fun _ s₂ second _ => ?_
  have policy : terms.declares role.policyPath "AWS::IAM::Policy" := by
    rw [Role.policyPath, path]
    exact outlined (by decide)
  refine obeys_bind (ImageAsset.grant_pull_obeys (valid.grows second) policy)
    fun _ s₃ third _ => obeys_pure ?_
  exact ⟨(valid.grows second).grows third, path⟩

structure Workload.Valid (w : Workload) (s : Stack) : Prop where
  cluster : w.cluster.Valid s
  task : w.taskDefinition.Valid s
  path : w.taskDefinition.taskRole.path = ["TaskDef", "TaskRole"]
  function : w.compileFunction.Valid s

theorem Workload.Valid.grows {w : Workload} (valid : w.Valid s) (grows : s.Grows s') :
    w.Valid s' :=
  ⟨valid.cluster.grows grows, valid.task.grows grows, valid.path, valid.function.grows grows⟩

theorem Workload.Valid.policy {w : Workload} (valid : w.Valid s) :
    terms.declares w.taskDefinition.taskRole.policyPath "AWS::IAM::Policy" := by
  rw [Role.policyPath, valid.path]
  exact outlined (by decide)

theorem task_allowed {settings : TaskSettings} (given : settings.executionRole ≠ none) :
    TaskDefinition.Allowed terms "TaskDef" settings where
  itself := outlined (by decide)
  taskRole := fun _ => outlined (by decide)
  executionRole := fun none => absurd none given

theorem container_admitted {task : TaskDefinition} {image : ImageAsset} {log : LogSettings}
    (path : task.path = ["TaskDef"]) (role : task.executionRole.path = ["ExecutionRole"])
    (plain : image.Plain) : TaskDefinition.Admitted terms s task "AxumContainer"
      { image := .asset image, logging := some log } where
  policy := by
    rw [Role.policyPath, role]
    exact outlined (by decide)
  logs := fun _ => by
    rw [path]
    exact outlined (by decide)
  image := fun other same => by
    cases same
    exact plain
  environment := fun _ member => absurd member List.not_mem_nil

theorem function_allowed (logged : Prop) :
    LambdaFunction.Allowed terms "CompileLambda" logged where
  itself := outlined (by decide)
  role := outlined (by decide)
  logs := fun _ => outlined (by decide)
  awaits := by
    show (_, _) ∈ awaited
    decide

theorem declare_workload_obeys : Obeys terms s (declareWorkload files c) fun w s' =>
    w.Valid s' := by
  unfold declareWorkload
  refine obeys_bind ImageAsset.declare_obeys fun image s₁ _ plain => ?_
  refine obeys_bind (Cluster.declare_obeys (outlined (by decide)))
    fun cluster s₂ _ cluster_valid => ?_
  refine obeys_bind declare_execution_role_obeys fun role s₃ third ⟨role_valid, role_path⟩ => ?_
  refine obeys_bind (TaskDefinition.declare_obeys (task_allowed (by simp)) (by simp)
    (by simpa using role_valid)) fun bare s₄ fourth ⟨bare_valid, bare_path, task_role, given⟩ => ?_
  have same : role = bare.executionRole := given role rfl
  refine obeys_bind (TaskDefinition.add_container_obeys bare_valid
    (container_admitted bare_path (same ▸ role_path) plain))
    fun (task, container) s₅ fifth ⟨task_valid, container_valid, kept⟩ => ?_
  have path : task.taskRole.path = ["TaskDef", "TaskRole"] := by
    rw [show task = { bare with essentials := task.essentials } from kept]
    exact task_role rfl
  refine obeys_bind (LambdaFunction.declare_obeys (function_allowed _))
    fun function s₆ sixth ⟨function_valid, _⟩ => ?_
  have policy : terms.declares task.taskRole.policyPath "AWS::IAM::Policy" := by
    rw [Role.policyPath, path]
    exact outlined (by decide)
  refine obeys_bind (LambdaFunction.grant_invoke_obeys function_valid
    (task_valid.taskRole.grows sixth) policy) fun _ s₇ seventh _ => ?_
  refine obeys_bind (Container.add_ports_obeys ((container_valid.grows sixth).grows seventh))
    fun _ s₈ eighth _ => obeys_pure ?_
  have later : s₅.Grows s₈ := Stack.grows_trans (Stack.grows_trans sixth seventh) eighth
  have cluster_later : s₂.Grows s₅ := Stack.grows_trans (Stack.grows_trans third fourth) fifth
  exact ⟨(cluster_valid.grows cluster_later).grows later, task_valid.grows later, path,
    (function_valid.grows seventh).grows eighth⟩

structure Entrance.Valid (e : Entrance) (task : TaskDefinition) (s : Stack) : Prop where
  service : e.service.Valid s
  runs : e.service.Runs task s
  balancer : e.loadBalancer.Valid s
  listener : e.listener.Valid s
  acts : s.Acts e.listener.logicalId

theorem Entrance.Valid.grows {e : Entrance} {task : TaskDefinition} (valid : e.Valid task s)
    (grows : s.Grows s') : e.Valid task s' :=
  ⟨valid.service.grows grows, valid.runs.grows grows, valid.balancer.grows grows,
    valid.listener.grows grows, grows.acts _ valid.acts⟩

theorem service_allowed {task : TaskDefinition}
    (path : task.taskRole.path = ["TaskDef", "TaskRole"]) :
    Service.Allowed terms "Service" task where
  itself := outlined (by decide)
  group := outlined (by decide)
  awaits := by
    rw [path]
    show (_, _) ∈ awaited
    decide

theorem target_admitted {service : Service} {listener : Listener} {port : UInt16}
    (valid : service.Valid s)
    (group_path : service.securityGroup.path = ["Service", "SecurityGroup"])
    (path : listener.path = ["ALB", "HttpsListener"])
    (balancer_path : listener.loadBalancer.securityGroup.path = ["ALB", "SecurityGroup"]) :
    Listener.Admitted terms s listener port (.service service) where
  valid := valid
  awaits := by
    refine ⟨_, _, valid.itself, ?_⟩
    rw [path]
    show (_, _) ∈ awaited
    decide
  connected := by
    rintro group same
    cases same
    refine ⟨.inr ⟨(["Service", "SecurityGroup"], ["AWS::EC2::SecurityGroupIngress"]), by decide,
      ?_, by decide⟩, fun _ => .inr ⟨(["ALB", "SecurityGroup"], ["AWS::EC2::SecurityGroupEgress"]),
      by decide, ?_, by decide⟩⟩
    · rw [group_path]
      exact List.prefix_append _ _
    · rw [balancer_path]
      exact List.prefix_append _ _

theorem declare_entrance_obeys {certificate : Certificate} {vpc : Vpc} {w : Workload}
    (certificate_valid : certificate.Valid s) (vpc_valid : vpc.Valid s) (valid : w.Valid s) :
    Obeys terms s (declareEntrance certificate vpc w) fun e s' => e.Valid w.taskDefinition s' := by
  unfold declareEntrance
  refine obeys_bind (Service.declare_obeys (service_allowed valid.path) valid.cluster valid.task
    vpc_valid) fun service s₁ first ⟨service_valid, runs, _, group_path⟩ => ?_
  refine obeys_bind (LoadBalancer.declare_obeys ⟨outlined (by decide), outlined (by decide)⟩
    (vpc_valid.grows first)) fun balancer s₂ second ⟨balancer_valid, path, peer_path⟩ => ?_
  have certified : AdmitsLate terms s₂ certificate.logicalId :=
    refers_low ((certificate_valid.grows first).grows second) (by decide)
  refine obeys_bind (Listener.declare_obeys balancer_valid ?_ (fun _ => rfl) ?_)
    fun listener s₃ third ⟨listener_valid, listener_path, same⟩ => ?_
  · rw [path]
    exact outlined (by decide)
  · simp [Certificate.arn, certified]
  have below : listener.path = ["ALB", "HttpsListener"] := by rw [listener_path, path]; rfl
  have service_later := (service_valid.grows second).grows third
  refine obeys_bind (Listener.add_targets_obeys listener_valid ?_ ?_)
    fun group s₄ fourth ⟨_, acts⟩ => obeys_pure ?_
  · rw [below]
    exact outlined (by decide)
  · intro target member
    obtain rfl := List.mem_singleton.mp member
    exact target_admitted service_later group_path below (same ▸ peer_path)
  exact ⟨service_later.grows fourth, ((runs.grows second).grows third).grows fourth,
    (balancer_valid.grows third).grows fourth, listener_valid.grows fourth, acts⟩

structure ClientWaits (client : SignInClient) (provider : GoogleProvider) (s : Stack) : Prop where
  valid : client.Valid s
  waits : ⟨client.logicalId, provider.path⟩ ∈ s.waits

theorem declare_client_obeys {signIn : SignIn} (valid : signIn.Valid s) :
    Obeys terms s (declareClient c signIn) fun client s' =>
      ClientWaits client signIn.googleProvider s' := by
  unfold declareClient
  refine obeys_bind (SignInClient.declare_obeys valid.userPool (outlined (by decide)))
    fun client s₁ first ⟨client_valid, _⟩ => ?_
  have provider := valid.provider.grows first
  have awaits : terms.awaits "AWS::Cognito::UserPoolClient" signIn.googleProvider.path := by
    rw [valid.path]
    show (_, _) ∈ awaited
    decide
  have apart : signIn.googleProvider.logicalId ≠ client.logicalId := by
    intro same
    have there := provider
    rw [GoogleProvider.Valid, Construct.Stands, same] at there
    exact absurd (Stack.At.unique there client_valid).2 (by decide)
  refine obeys_bind (obeys_wait_for_path client_valid awaits (resolves_of_at provider apart
    (List.prefix_append _ _) (Stack.At.contains client_valid)))
    fun _ s₂ second waits => obeys_pure ?_
  exact ⟨client_valid.grows second, waits⟩

theorem declare_data_obeys {role : Role} (valid : role.Valid s)
    (policy : terms.declares role.policyPath "AWS::IAM::Policy") :
    Obeys terms s (declareData role) fun results s' =>
      results.1.Valid s' ∧ results.2.Valid s' := by
  unfold declareData
  refine obeys_bind (Table.declare_obeys (outlined (by decide)))
    fun table s₁ first ⟨table_valid, _⟩ => ?_
  refine obeys_bind (Table.grant_read_write_obeys table_valid (valid.grows first) policy)
    fun _ s₂ second _ => ?_
  have emptied : Bucket.Emptied terms ["Circuits"] := ⟨outlined (by decide), outlined (by decide),
    outlined (by decide), outlined (by decide)⟩
  refine obeys_bind (Bucket.declare_obeys (outlined (by decide)) fun _ => emptied)
    fun bucket s₃ third ⟨bucket_valid, _⟩ => ?_
  refine obeys_bind (Bucket.grant_read_write_obeys bucket_valid
    (((valid.grows first).grows second).grows third) policy)
    fun _ s₄ fourth _ => obeys_pure ?_
  exact ⟨((table_valid.grows second).grows third).grows fourth, bucket_valid.grows fourth⟩

/-- The variables refer to nothing but resources of low layers. -/
theorem variables_late {w : Workload} {client : SignInClient} {table : Table} {bucket : Bucket}
    (function : w.compileFunction.Valid s) (client_valid : client.Valid s)
    (table_valid : table.Valid s) (bucket_valid : bucket.Valid s) :
    ∀ value ∈ variableValues c w client table bucket,
      Json.Within (AdmitsLate terms s) value.toJson := by
  have function_late := refers_low function.itself (by decide)
  have client_late := refers_low client_valid (by decide)
  have table_late := refers_low table_valid (by decide)
  have bucket_late := refers_low bucket_valid (by decide)
  simp [variableValues, Table.name, Bucket.name, SignInClient.clientId, LambdaFunction.arn,
    function_late, client_late, table_late, bucket_late]

theorem add_variables_obeys {container : Container} {entries : List (String × Value)}
    (valid : container.Valid s)
    (late : ∀ entry ∈ entries, Json.Within (AdmitsLate terms s) entry.2.toJson) :
    Obeys terms s (entries.forM fun entry => container.addEnvironment entry.1 entry.2)
      fun _ _ => True := by
  refine obeys_forget (obeys_forM (P := container.Valid) valid
    fun s₁ first there entry member => ?_)
  have later : Json.Within (AdmitsLate terms s₁) entry.2.toJson :=
    (late entry member).imp fun _ admits => admits.grows first
  exact obeys_imp (Container.add_environment_obeys there later)
    fun _ _ _ second _ => there.grows second

/-- What the rules of the audit are about. -/
structure Valid (h : HostedService) (s : Stack) : Prop where
  provider : h.googleProvider.Valid s
  client : ClientWaits h.signInClient h.googleProvider s
  task : h.taskDefinition.Valid s
  service : h.service.Valid s
  runs : h.service.Runs h.taskDefinition s
  listener : h.listener.Valid s
  acts : s.Acts h.listener.logicalId

theorem declare_obeys : Obeys terms s (declare files c) fun h s' => h.Valid s' := by
  unfold declare
  refine obeys_bind declare_sign_in_obeys fun signIn s₁ _ sign_in_valid => ?_
  refine obeys_bind (Vpc.declare_obeys network_allowed) fun vpc s₂ second ⟨vpc_valid, _⟩ => ?_
  refine obeys_bind declare_workload_obeys fun w s₃ third workload_valid => ?_
  have sign_in₃ := (sign_in_valid.grows second).grows third
  refine obeys_bind (declare_entrance_obeys sign_in₃.certificate (vpc_valid.grows third)
    workload_valid) fun e s₄ fourth entrance_valid => ?_
  have sign_in₄ := sign_in₃.grows fourth
  have workload₄ := workload_valid.grows fourth
  refine obeys_bind (declare_client_obeys sign_in₄) fun client s₅ fifth client_waits => ?_
  have workload₅ := workload₄.grows fifth
  refine obeys_bind (declare_data_obeys workload₅.task.taskRole workload₅.policy)
    fun (table, bucket) s₆ sixth ⟨table_valid, bucket_valid⟩ => ?_
  have workload₆ := workload₅.grows sixth
  refine obeys_lift fun container found => ?_
  have container_valid : container.Valid s₆ := by
    unfold defaultContainer at found
    split at found
    · next head =>
      cases found
      exact workload₆.task.essentials _ (List.mem_of_mem_head? head)
    · cases found
  have late := variables_late (c := c) workload₆.function (client_waits.valid.grows sixth)
    table_valid bucket_valid
  refine obeys_bind (add_variables_obeys container_valid fun entry member =>
    late entry.2 (List.of_mem_zip member).2) fun _ s₇ seventh _ => ?_
  have entrance₇ := ((entrance_valid.grows fifth).grows sixth).grows seventh
  have known : s₇.contains e.loadBalancer.logicalId = true := entrance₇.balancer.itself.contains
  refine obeys_bind (obeys_add_output (by simpa [LoadBalancer.dnsName] using known))
    fun _ s₈ eighth _ => obeys_pure ?_
  have entrance := entrance₇.grows eighth
  have later : s₅.Grows s₈ := Stack.grows_trans (Stack.grows_trans sixth seventh) eighth
  exact ⟨(sign_in₄.grows fifth).provider.grows later,
    ⟨client_waits.valid.grows later, later.waits client_waits.waits⟩,
    (workload₆.grows seventh).task.grows eighth, entrance.service, entrance.runs,
    entrance.listener, entrance.acts⟩

end StackSynth.HostedService
