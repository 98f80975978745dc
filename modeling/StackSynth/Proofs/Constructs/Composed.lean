import StackSynth.Proofs.Constructs.Deeds
import StackSynth.Proofs.Stack.Operations

/-!
Constructs as sequences of deeds, whatever they are given and wherever they fail. Only images and
functions, which come with an image, enter anything among the assets of the stack.
-/
namespace StackSynth

variable {α : Type} {m : Declaring α}

/-- The properties that constructs push values to. -/
def pushedKeys : List String :=
  [Role.managedPolicyKey, Container.listKey, Listener.actionsKey, "LoadBalancers",
    "SecurityGroupIngress"]

/-- The deeds of all constructs but those that come with an image. -/
def Deed.IsOrdinary : Deed → Prop
  | call (.declare _ _) | call (.waitForPath _ _) => True
  | call (.pushProperty _ key _) => key ∈ pushedKeys
  | call _ => False
  | _ => True

abbrev Ordinary (m : Declaring α) : Prop := DoneBy Deed.IsOrdinary m

theorem ordinary_declare {path : List String} {r : Resource} : Ordinary (Stack.declare path r) :=
  done_by_declare trivial

theorem ordinary_push {id key : String} {value : Json} (pushed : key ∈ pushedKeys) :
    Ordinary (Stack.pushProperty id key value) :=
  done_by_push pushed

theorem ordinary_wait {dependent : String} {path : List String} :
    Ordinary (Stack.waitForPath dependent path) :=
  done_by_wait trivial

theorem ordinary_grant {role : Role} {grantKind : GrantKind} {target : String}
    {statements : List PolicyStatement} : Ordinary (role.grant grantKind target statements) :=
  done_by_grant trivial

theorem asset_free_of_ordinary (ordinary : Ordinary m) : AssetFree m := by
  refine made_of_made ordinary fun d plain => made_of_imp d.made_of_calls ?_
  rintro c (free | rfl)
  · exact free
  · cases c <;> first | rfl | cases plain

/-- Most constructs come to one resource. -/
theorem ordinary_declared {path : List String} {r : Resource} {result : String → α} :
    Ordinary (Stack.declare path r >>= fun id => pure (result id)) :=
  made_of_bind (ordinary_declare) fun _ => made_of_pure

/-! Roles and what they are permitted. -/

theorem Role.declare_ordinary (scope : List String) (id : String) (settings : RoleSettings) :
    Ordinary (Role.declare scope id settings) :=
  ordinary_declared

/-! Data. -/

theorem Bucket.declare_emptying_ordinary (b : Bucket) : Ordinary b.declareEmptying := by
  have provider : Ordinary AutoDelete.provider := by
    refine made_of_bind (made_of_lift _) fun roleId => made_of_bind (made_of_lift _) fun handlerId =>
      made_of_bind made_of_get fun s => ?_
    split
    · exact made_of_bind (ordinary_declare) fun _ => ordinary_declared
    · exact made_of_pure
  refine made_of_bind provider fun ids => made_of_bind (ordinary_declare) fun policyId => ?_
  exact ordinary_declared

theorem Bucket.declare_ordinary (id : String) (settings : BucketSettings) :
    Ordinary (Bucket.declare id settings) := by
  unfold Bucket.declare
  refine made_of_unless (made_of_bind (ordinary_declare) fun logicalId => ?_)
  exact made_of_when (declare_emptying_ordinary _) made_of_pure

theorem Table.declare_ordinary (id : String) (settings : TableSettings) :
    Ordinary (Table.declare id settings) :=
  made_of_bind (made_of_lift _) fun _ => ordinary_declared

/-! Tasks and what runs them. -/

theorem LogGroup.declare_ordinary (scope : List String) (id : String) (retention : Retention)
    (removal : RemovalPolicy) : Ordinary (LogGroup.declare scope id retention removal) :=
  ordinary_declared

theorem Container.add_environment_ordinary (c : Container) (name : String) (value : Value) :
    Ordinary (c.addEnvironment name value) := by
  unfold addEnvironment
  refine made_of_unless (made_of_bind made_of_get fun s => made_of_unless ?_)
  exact done_by_append trivial

namespace TaskDefinition

theorem declare_ordinary (id : String) (settings : TaskSettings) :
    Ordinary (TaskDefinition.declare id settings) := by
  have role : ∀ given roleId, Ordinary (roleOr given id roleId) := by
    rintro (_ | role) roleId
    · exact Role.declare_ordinary _ _ _
    · exact made_of_pure
  unfold TaskDefinition.declare
  refine made_of_unless (made_of_bind (role _ _) fun taskRole => ?_)
  refine made_of_bind (role _ _) fun executionRole => made_of_bind made_of_get fun s => ?_
  exact made_of_bind (made_of_lift _) fun family => ordinary_declared

theorem declare_logging_ordinary (t : TaskDefinition) (id : String) (settings : LogSettings) :
    Ordinary (t.declareLogging id settings) :=
  made_of_bind (LogGroup.declare_ordinary _ _ _ _) fun _ =>
    made_of_bind ordinary_grant fun _ => made_of_pure

theorem add_container_ordinary (t : TaskDefinition) (id : String) (settings : ContainerSettings) :
    Ordinary (t.addContainer id settings) := by
  unfold addContainer
  refine made_of_unless ?_
  extract_lets finish start
  have finished : ∀ logging, Ordinary (finish logging) := fun logging =>
    made_of_bind made_of_get fun s => made_of_bind (ordinary_push (by decide)) fun _ =>
      made_of_when (done_by_append trivial)
        (made_of_bind (made_of_forM fun _ => Container.add_environment_ordinary _ _ _) fun _ =>
          made_of_pure)
  have started : Ordinary (start ()) := by
    dsimp only [start]
    split
    · refine made_of_bind (t.declare_logging_ordinary _ _) fun configuration => ?_
      exact made_of_bind made_of_pure finished
    · exact made_of_bind made_of_pure finished
  dsimp only
  split
  · exact made_of_bind ordinary_grant fun _ => started
  · exact started

end TaskDefinition

/-! Networks. -/

namespace SecurityGroup

theorem declare_ordinary (scope : List String) (id : String) (vpc : Vpc)
    (description : Option String) (allowsAllOutbound : Bool) :
    Ordinary (SecurityGroup.declare scope id vpc description allowsAllOutbound) :=
  made_of_bind made_of_get fun _ => ordinary_declared

theorem allow_from_ordinary (g peer : SecurityGroup) (port : UInt16) (description : String) :
    Ordinary (g.allowFrom peer port description) := by
  refine made_of_bind (ordinary_declare) fun _ => ?_
  split
  · exact ordinary_declared
  · exact made_of_pure

end SecurityGroup

theorem Subnet.declare_ordinary (around : Surroundings) (group : SubnetGroup) (zone : Nat)
    (block : Cidr) : Ordinary (Subnet.declare around group zone block) := by
  refine made_of_bind (ordinary_declare) fun logicalId => ?_
  refine made_of_bind (ordinary_declare) fun tableId => ?_
  refine made_of_bind (ordinary_declare) fun associationId => ?_
  split
  · refine made_of_bind (ordinary_declare) fun routeId => ?_
    exact made_of_bind made_of_pure fun _ => made_of_pure
  · exact made_of_bind made_of_pure fun _ => made_of_pure

namespace Vpc

variable {around : Subnet.Surroundings}

theorem declare_zones_ordinary (group : SubnetGroup) (left : Nat) :
    ∀ (zone : Nat) (blocks : List Cidr), Ordinary (declareZones around group zone left blocks) := by
  induction left with
  | zero => exact fun zone blocks => made_of_pure
  | succ left ih =>
    rintro zone (_ | ⟨block, rest⟩)
    · exact made_of_throw
    · refine made_of_bind (Subnet.declare_ordinary _ _ _ _) fun subnet => ?_
      exact made_of_bind (ih (zone + 1) rest) fun _ => made_of_pure

theorem declare_groups_ordinary (zones : Nat) (groups : List SubnetGroup) :
    ∀ blocks : List Cidr, Ordinary (declareGroups around zones groups blocks) := by
  induction groups with
  | nil => exact fun blocks => made_of_pure
  | cons group rest ih =>
    refine fun blocks => made_of_bind (declare_zones_ordinary group _ _ _) fun result => ?_
    exact made_of_bind (ih result.2) fun _ => made_of_pure

theorem declare_nat_ordinary (tagPath : String) (subnet : Subnet) :
    Ordinary (declareNat tagPath subnet) :=
  made_of_bind (ordinary_declare) fun _ => made_of_bind (made_of_lift _) fun _ =>
    ordinary_declare

theorem route_egress_ordinary (id : String) (gateways : List String) (subnet : Subnet) :
    Ordinary (routeEgress id gateways subnet) := by
  unfold routeEgress
  split
  · split
    · exact made_of_throw
    · exact ordinary_declared
  · exact made_of_pure

theorem add_endpoint_ordinary (v : Vpc) (id : String) (service : GatewayService) :
    Ordinary (v.addEndpoint id service) :=
  ordinary_declared

theorem declare_ordinary (id : String) (settings : VpcSettings) :
    Ordinary (Vpc.declare id settings) := by
  refine made_of_bind (made_of_lift _) fun cidr => made_of_bind (made_of_lift _) fun _ =>
    made_of_bind made_of_get fun s => made_of_bind (ordinary_declare) fun logicalId => ?_
  extract_lets finish
  have finished : ∀ gateway, Ordinary (finish gateway) := fun gateway =>
    made_of_bind (made_of_lift _) fun blocks =>
      made_of_bind (declare_groups_ordinary _ _ _) fun subnets =>
        made_of_bind (made_of_mapM fun _ => declare_nat_ordinary _ _) fun natGatewayIds =>
          made_of_bind (made_of_mapM fun _ => route_egress_ordinary _ _ _) fun routed =>
            made_of_foldlM (fun _ _ => add_endpoint_ordinary _ _ _) _
  split
  · refine made_of_bind (made_of_map ?_) finished
    exact made_of_bind (ordinary_declare) fun _ => ordinary_declared
  · exact made_of_bind made_of_pure finished

end Vpc

/-! Services and the ways to them. -/

namespace Service

theorem declare_ordinary (id : String) (cluster : Cluster) (task : TaskDefinition) (vpc : Vpc)
    (settings : ServiceSettings) : Ordinary (Service.declare id cluster task vpc settings) := by
  unfold Service.declare
  split
  · exact made_of_throw
  · refine made_of_bind (SecurityGroup.declare_ordinary _ _ _ _ _) fun group => ?_
    refine made_of_bind (ordinary_declare) fun logicalId => ?_
    exact made_of_bind ordinary_wait fun _ => made_of_pure

theorem register_ordinary (s : Service) (targetGroup : Value) :
    Ordinary (s.register targetGroup) := by
  refine made_of_bind made_of_get fun stack => ?_
  split
  · exact made_of_throw
  · exact ordinary_push (by decide)

end Service

theorem LoadBalancer.declare_ordinary (id : String) (vpc : Vpc) (internetFacing : Bool) :
    Ordinary (LoadBalancer.declare id vpc internetFacing) := by
  refine made_of_bind made_of_get fun s => made_of_bind (made_of_lift _) fun unique => ?_
  refine made_of_bind (SecurityGroup.declare_ordinary _ _ _ _ _) fun group => ?_
  exact made_of_unless ordinary_declared

namespace Listener

theorem declare_ordinary (b : LoadBalancer) (id : String) (settings : ListenerSettings) :
    Ordinary (Listener.declare b id settings) :=
  made_of_bind (made_of_lift _) fun _ => made_of_bind (ordinary_declare) fun _ =>
    made_of_when (ordinary_push (by decide)) made_of_pure

theorem attach_ordinary (l : Listener) (group : TargetGroup) (target : Target) :
    Ordinary (l.attach group target) := by
  have registered : Ordinary (target.register group.arn) := by
    cases target with
    | service s => exact s.register_ordinary _
    | other _ _ _ => exact made_of_pure
  refine made_of_bind registered fun _ => made_of_bind ordinary_wait fun _ => ?_
  split
  · exact SecurityGroup.allow_from_ordinary _ _ _ _
  · exact made_of_pure

theorem add_targets_ordinary (l : Listener) (id : String) (port : UInt16)
    (protocol : ApplicationProtocol) (targets : List Target) :
    Ordinary (l.addTargets id port protocol targets) := by
  unfold addTargets
  split
  · exact made_of_throw
  · refine made_of_unless (made_of_bind made_of_get fun s => made_of_unless ?_)
    refine made_of_bind (ordinary_declare) fun _ => made_of_bind (ordinary_push (by decide))
      fun _ => ?_
    exact made_of_bind (made_of_forM fun _ => l.attach_ordinary _ _) fun _ => made_of_pure

end Listener

/-! Signing in. -/

theorem Certificate.declare_ordinary (id domainName : String)
    (validation : CertificateValidation) :
    Ordinary (Certificate.declare id domainName validation) := by
  unfold Certificate.declare
  exact made_of_unless ordinary_declared

theorem GoogleProvider.declare_ordinary (id : String) (pool : UserPool)
    (settings : GoogleProviderSettings) : Ordinary (GoogleProvider.declare id pool settings) := by
  unfold GoogleProvider.declare
  exact made_of_unless ordinary_declared

theorem SignInDomain.declare_ordinary (id : String) (pool : UserPool) (label : String) :
    Ordinary (SignInDomain.declare id pool label) := by
  unfold SignInDomain.declare
  exact made_of_unless (made_of_unless ordinary_declared)

theorem SignInClient.declare_ordinary (id : String) (pool : UserPool)
    (settings : SignInClientSettings) : Ordinary (SignInClient.declare id pool settings) :=
  made_of_bind (made_of_lift _) fun _ => ordinary_declared

/-! Images, and functions with theirs. -/

/-- What a function does once its image is there. -/
def LambdaFunction.declareWith (id : String) (settings : FunctionSettings) (image : ImageAsset) :
    Declaring LambdaFunction := do
  let role ← Role.declare [id] "ServiceRole" roleSettings
  let logs ← match settings.retention with
    | some retention => some <$> LogGroup.declare [id] "LogGroup" retention .retain
    | none => pure none
  let logicalId ← Stack.declare [id, "Resource"] {
    type := "AWS::Lambda::Function"
    properties := properties settings image role logs }
  Stack.waitForPath logicalId role.path
  return { path := [id], logicalId, role, image }

theorem LambdaFunction.declare_eq (files : FileTree) (id : String) (settings : FunctionSettings) :
    LambdaFunction.declare files id settings = (do
      Stack.lift (settings.check id)
      let image ← ImageAsset.declare files [id, "AssetImage"] settings.image
      declareWith id settings image) :=
  rfl

theorem LambdaFunction.declare_with_ordinary (id : String) (settings : FunctionSettings)
    (image : ImageAsset) : Ordinary (declareWith id settings image) := by
  refine made_of_bind (Role.declare_ordinary _ _ _) fun role => ?_
  extract_lets finish
  have finished : ∀ logs, Ordinary (finish logs) := fun logs =>
    made_of_bind (ordinary_declare) fun _ => made_of_bind ordinary_wait fun _ =>
      made_of_pure
  split
  · exact made_of_bind (made_of_map (LogGroup.declare_ordinary _ _ _ _)) finished
  · exact made_of_bind made_of_pure finished

namespace Operation

/-- The image that an operation fingerprints, with its path. -/
def imageSettings? : Operation → Option (FileTree × List String × ImageAsset.Settings)
  | image files path settings => some (files, path, settings)
  | function files id settings => some (files, [id, "AssetImage"], settings.image)
  | _ => none

theorem ordinary {op : Operation} (without : op.imageSettings? = none) : Ordinary op.action := by
  cases op with
  | image | function => cases without
  | role => exact made_of_map (Role.declare_ordinary _ _ _)
  | addManagedPolicy => exact made_of_map (ordinary_push (by decide))
  | addToPolicy => exact made_of_map (done_by_permit trivial)
  | grant => exact made_of_map ordinary_grant
  | bucket => exact made_of_map (Bucket.declare_ordinary _ _)
  | table => exact made_of_map (Table.declare_ordinary _ _)
  | logGroup => exact made_of_map (LogGroup.declare_ordinary _ _ _ _)
  | grantBucket | grantTable | grantLogs | grantPull | grantInvoke =>
    exact made_of_map ordinary_grant
  | cluster => exact made_of_map ordinary_declared
  | task => exact made_of_map (TaskDefinition.declare_ordinary _ _)
  | addContainer => exact made_of_map (TaskDefinition.add_container_ordinary _ _ _)
  | addEnvironment => exact made_of_map (Container.add_environment_ordinary _ _ _)
  | addPorts => exact made_of_map (done_by_append trivial)
  | service => exact made_of_map (Service.declare_ordinary _ _ _ _ _)
  | register => exact made_of_map (Service.register_ordinary _ _)
  | certificate => exact made_of_map (Certificate.declare_ordinary _ _ _)
  | userPool => exact made_of_map ordinary_declared
  | provider => exact made_of_map (GoogleProvider.declare_ordinary _ _ _)
  | domain => exact made_of_map (SignInDomain.declare_ordinary _ _ _)
  | client => exact made_of_map (SignInClient.declare_ordinary _ _ _)
  | vpc => exact made_of_map (Vpc.declare_ordinary _ _)
  | addEndpoint => exact made_of_map (Vpc.add_endpoint_ordinary _ _ _)
  | securityGroup => exact made_of_map (SecurityGroup.declare_ordinary _ _ _ _ _)
  | allowFromBlock => exact made_of_map (ordinary_push (by decide))
  | allowFrom => exact made_of_map (SecurityGroup.allow_from_ordinary _ _ _ _)
  | loadBalancer => exact made_of_map (LoadBalancer.declare_ordinary _ _ _)
  | listener => exact made_of_map (Listener.declare_ordinary _ _ _)
  | addTargets => exact made_of_map (Listener.add_targets_ordinary _ _ _ _ _)
  | waitFor => exact made_of_map ordinary_wait

/-- What an operation does: ordinary deeds, and what it enters among the assets. -/
theorem done_by_deeds (op : Operation) :
    DoneBy (fun d => d.IsOrdinary ∨ ∃ source, d = .call (.addAsset source)) op.action := by
  have image : ∀ files path settings,
      DoneBy (fun d => d.IsOrdinary ∨ ∃ source, d = .call (.addAsset source))
        (ImageAsset.declare files path settings) := fun files path settings =>
    made_of_bind (made_of_lift _) fun _ =>
      made_of_bind (done_by_asset (.inr ⟨_, rfl⟩)) fun _ => made_of_pure
  by_cases without : op.imageSettings? = none
  · exact made_of_imp (ordinary without) fun _ => .inl
  · cases op with
    | image => exact made_of_map (image _ _ _)
    | function =>
      refine made_of_map (made_of_bind (made_of_lift _) fun _ => ?_)
      refine made_of_bind (image _ _ _) fun a => ?_
      exact made_of_imp (LambdaFunction.declare_with_ordinary _ _ a) fun _ => .inl
    | _ => exact absurd rfl without

/-- Every operation comes down to calls. -/
theorem made_of_calls (op : Operation) : MadeOf Stack.after (fun _ => True) op.action :=
  made_of_made op.done_by_deeds fun d _ => made_of_imp d.made_of_calls fun _ _ => trivial

end Operation

/-! Calls and operations in any order. -/

/-- Something that is done to a stack. -/
inductive Act
  | call (c : StackCall)
  | operate (op : Operation)

def Act.leaves (s : Stack) : Act → Stack
  | call c => s.after c
  | operate op => (s.run op.action).2

namespace Stack

def leftBy (s : Stack) (acts : List Act) : Stack := acts.foldl Act.leaves s

end Stack

end StackSynth
