import StackSynth.Proofs.Constructs.Settings
import StackSynth.Proofs.HostedService.Findings

/-!
The shape of the hosted service. The settings and the files fill in texts; ids, paths, dependencies
and permissions are those of every build that succeeds.
-/
namespace StackSynth.HostedService

/-- What the declarations ask of the settings and the files. -/
structure Fits (files : FileTree) (c : Config) : Prop where
  domain : Certificate.isDomainName (Text.trim c.certificate.domainName) = true
  secret : Secret.isName c.identity.googleClientSecretName = true
  client : Text.isBlank c.identity.googleClientId = false
  label : SignInDomain.isLabel c.identity.userPoolDomain = true
  unreserved : ∀ word ∈ SignInDomain.reservedWords,
    Text.contains word c.identity.userPoolDomain = false
  serviceImage : ∀ path, ∃ source,
    ImageAsset.sourceOf files path (imageSettings c c.build.serviceTarget) = .ok source
  functionImage : ∀ path, ∃ source,
    ImageAsset.sourceOf files path (imageSettings c c.build.lambdaTarget) = .ok source
  addresses : ∀ id, SignInClient.check id (clientSettings c) = .ok ()

variable {T : Prop} {files₁ files₂ : FileTree} {c₁ c₂ : Config}

structure SignIn.Alike (a b : SignIn) : Prop where
  certificate : a.certificate.toConstruct = b.certificate.toConstruct
  userPool : a.userPool = b.userPool
  googleProvider : a.googleProvider = b.googleProvider

theorem agree_declare_sign_in :
    Agree (Fits files₂ c₂) (declareSignIn c₁) (declareSignIn c₂) SignIn.Alike := by
  refine agree_bind (Certificate.agree_declare _ _ _ _ _ Fits.domain)
    fun first second certificate => ?_
  refine agree_bind (UserPool.uniform_declare _ _) ?_
  rintro pool _ rfl
  refine agree_lift (fun fits _ _ => ⟨_, if_pos fits.secret⟩) fun secret₁ secret₂ _ _ => ?_
  refine agree_bind (GoogleProvider.agree_declare _ pool rfl Fits.client) ?_
  rintro provider _ rfl
  refine agree_bind (SignInDomain.agree_declare _ pool _ _ fun fits =>
    ⟨fits.label, fits.unreserved⟩) fun _ _ _ => agree_pure ?_
  exact ⟨certificate, rfl, rfl⟩

theorem uniform_declare_execution_role : Uniform T declareExecutionRole := by
  refine uniform_bind (Role.uniform_declare _ _ _) fun role => ?_
  refine uniform_bind (role.uniform_add_managed_policy _) fun _ => ?_
  exact uniform_bind (role.uniform_grant _ _ _) fun _ => uniform_pure _

structure Workload.Alike (a b : Workload) : Prop where
  cluster : a.cluster = b.cluster
  taskDefinition : a.taskDefinition = b.taskDefinition
  compileFunction : a.compileFunction.toConstruct = b.compileFunction.toConstruct

theorem agree_declare_workload :
    Agree (Fits files₂ c₂) (declareWorkload files₁ c₁) (declareWorkload files₂ c₂)
      Workload.Alike := by
  refine agree_bind (ImageAsset.agree_declare _ _ _ _ _ fun fits => fits.serviceImage _)
    fun image₁ image₂ same => ?_
  refine agree_bind (Cluster.uniform_declare _) ?_
  rintro cluster _ rfl
  refine agree_bind uniform_declare_execution_role ?_
  rintro role _ rfl
  refine agree_bind (TaskDefinition.uniform_declare (by decide) (by decide) _) ?_
  rintro bare _ rfl
  refine agree_bind (bare.agree_add_container "AxumContainer"
    { image := .asset image₁, logging := some ⟨"Service", .oneWeek⟩ } same) ?_
  rintro ⟨task, container⟩ _ rfl
  refine agree_bind (LambdaFunction.agree_declare files₁ files₂ "CompileLambda"
    (functionSettings c₁) (imageSettings c₁ c₁.build.lambdaTarget)
    (imageSettings c₂ c₂.build.lambdaTarget) fun fits => fits.functionImage _)
    fun function₁ function₂ built => ?_
  refine agree_bind (LambdaFunction.agree_grant_invoke built task.taskRole) fun _ _ _ => ?_
  refine agree_bind (container.uniform_add_ports _) fun _ _ _ => agree_pure ?_
  exact ⟨rfl, rfl, built⟩

theorem agree_declare_entrance {certificate₁ certificate₂ : Certificate} {vpc : Vpc}
    {w₁ w₂ : Workload} (certified : certificate₁.toConstruct = certificate₂.toConstruct)
    (alike : w₁.Alike w₂) :
    Agree T (declareEntrance certificate₁ vpc w₁) (declareEntrance certificate₂ vpc w₂) Eq := by
  have same : declareEntrance certificate₁ vpc w₁ = declareEntrance certificate₂ vpc w₂ := by
    unfold declareEntrance Certificate.arn
    rw [alike.cluster, alike.taskDefinition, certified]
  rw [same]
  refine uniform_bind (Service.uniform_declare _ _ _ _ _) fun service => ?_
  refine uniform_bind (LoadBalancer.uniform_declare (by decide) (by decide) _ _) fun balancer => ?_
  refine uniform_bind (Listener.uniform_declare _ _ _) fun listener => ?_
  exact uniform_bind (listener.uniform_add_targets _ _ _ _) fun _ => uniform_pure _

theorem agree_declare_client {s₁ s₂ : SignIn} (alike : s₁.Alike s₂) :
    Agree (Fits files₂ c₂) (declareClient c₁ s₁) (declareClient c₂ s₂) Eq := by
  have flow : SignInClient.flows (clientSettings c₁) ≠ [] := by
    simp [SignInClient.flows, clientSettings]
  unfold declareClient
  rw [alike.userPool, alike.googleProvider]
  refine agree_bind (SignInClient.agree_declare "ZkcirUserPoolClient" s₂.userPool
    (clientSettings c₁) c₁.callbackUrls c₂.callbackUrls
    (.ofMinutes c₁.identity.accessTokenValidityMinutes)
    (.ofMinutes c₂.identity.accessTokenValidityMinutes) flow fun fits => fits.addresses _) ?_
  rintro client _ rfl
  exact uniform_bind (uniform_wait_for_path _ _) fun _ => uniform_pure _

theorem uniform_declare_data (role : Role) : Uniform T (declareData role) := by
  refine uniform_bind (Table.uniform_declare _ _) fun table => ?_
  refine uniform_bind (role.uniform_grant _ _ _) fun _ => ?_
  refine uniform_bind (Bucket.uniform_declare _ _) fun bucket => ?_
  exact uniform_bind (role.uniform_grant _ _ _) fun _ => uniform_pure _

/-- Of the variables only two have values from the settings, and these are texts. -/
theorem agree_add_variables {w₁ w₂ : Workload} (alike : w₁.Alike w₂) (container : Container)
    (client : SignInClient) (table : Table) (bucket : Bucket) :
    Agree T
      ((variableNames.zip (variableValues c₁ w₁ client table bucket)).forM fun entry =>
        container.addEnvironment entry.1 entry.2)
      ((variableNames.zip (variableValues c₂ w₂ client table bucket)).forM fun entry =>
        container.addEnvironment entry.1 entry.2) Eq := by
  have text : ∀ name : String, (Value.str name).toJson.bare = .null := by
    simp [Value.toJson]
  have arn : w₁.compileFunction.arn = w₂.compileFunction.arn := by
    rw [LambdaFunction.arn, alike.compileFunction]
    rfl
  have values : List.Forall₂
      (fun a b : String × Value => a.1 = b.1 ∧ a.2.toJson.bare = b.2.toJson.bare)
      (variableNames.zip (variableValues c₁ w₁ client table bucket))
      (variableNames.zip (variableValues c₂ w₂ client table bucket)) := by
    simp [variableNames, variableValues, arn, text]
  refine agree_forM (values.imp fun a b both => ?_)
  rw [both.1]
  exact container.agree_add_environment b.1 both.2

theorem agree_declare :
    Agree (Fits files₂ c₂) (declare files₁ c₁) (declare files₂ c₂) fun _ _ => True := by
  refine agree_bind agree_declare_sign_in fun signIn₁ signIn₂ sign_in_alike => ?_
  refine agree_bind (Vpc.uniform_declare _ _) ?_
  rintro vpc _ rfl
  refine agree_bind agree_declare_workload fun w₁ w₂ workload_alike => ?_
  refine agree_bind (agree_declare_entrance sign_in_alike.certificate workload_alike) ?_
  rintro entrance _ rfl
  refine agree_bind (agree_declare_client sign_in_alike) ?_
  rintro client _ rfl
  rw [workload_alike.taskDefinition]
  refine agree_bind (uniform_declare_data _) ?_
  rintro ⟨table, bucket⟩ _ rfl
  refine agree_lift_same fun container _ => ?_
  refine agree_bind (agree_add_variables workload_alike container client table bucket)
    fun _ _ _ => ?_
  exact agree_bind (uniform_add_output _ _ _) fun _ _ _ => agree_pure trivial

theorem Blank.alike {s₁ s₂ : Stack} (first : Blank s₁) (second : Blank s₂) : s₁.Alike s₂ where
  declared := by rw [Stack.bare, Stack.bare, first.declared, second.declared]
  waits := first.waits.trans second.waits.symm
  grants := first.grants.trans second.grants.symm
  outputs := first.outputs.trans second.outputs.symm

variable {h₁ h₂ : HostedService} {s₁ s₂ : Stack}

theorem builds_alike (first : build files₁ c₁ = .ok (h₁, s₁))
    (second : build files₂ c₂ = .ok (h₂, s₂)) : s₁.Alike s₂ := by
  obtain ⟨start₁, blank₁, ran₁⟩ := build_run first
  obtain ⟨start₂, blank₂, ran₂⟩ := build_run second
  have agree := (agree_declare start₁ start₂ (blank₁.alike blank₂) h₁
    (congrArg Prod.fst ran₁)).2 h₂ (congrArg Prod.fst ran₂)
  rw [ran₁, ran₂] at agree
  exact agree.2

theorem builds_shaped_alike (first : build files₁ c₁ = .ok (h₁, s₁))
    (second : build files₂ c₂ = .ok (h₂, s₂)) :
    ∃ shape, s₁.shape = .ok shape ∧ s₂.shape = .ok shape := by
  obtain ⟨built₁, _, leads₁⟩ := build_valid first
  obtain ⟨built₂, _, leads₂⟩ := build_valid second
  exact (builds_alike first second).shape (synthesizes built₁ leads₁) (synthesizes built₂ leads₂)

/-- Every build that succeeds can be synthesized, and whatever the settings and the files are, it
comes to one shape. -/
theorem build_shape : ∃ shape : Stack.Shape, ∀ (files : FileTree) (c : Config),
    (build files c).map (fun made => made.2.shape) = (build files c).map fun _ => .ok shape := by
  by_cases builds : ∃ files c h s, build files c = .ok (h, s)
  · obtain ⟨files₁, c₁, h₁, s₁, first⟩ := builds
    obtain ⟨shape, shaped, _⟩ := builds_shaped_alike first first
    refine ⟨shape, fun files c => ?_⟩
    cases made : build files c with
    | error e => rfl
    | ok result =>
      obtain ⟨h, s⟩ := result
      obtain ⟨other, shaped', again⟩ := builds_shaped_alike first made
      cases shaped.symm.trans shaped'
      simp only [Except.map, again]
  · refine ⟨⟨∅, ∅, .empty, []⟩, fun files c => ?_⟩
    cases made : build files c with
    | error e => rfl
    | ok result => exact absurd ⟨files, c, result.1, result.2, made⟩ builds

end StackSynth.HostedService
