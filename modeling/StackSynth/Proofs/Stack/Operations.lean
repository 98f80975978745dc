import StackSynth.Proofs.Constructs.Data
import StackSynth.Proofs.Constructs.Identity
import StackSynth.Proofs.Constructs.Services

/-!
All that can be asked of a stack by means of constructs, in any order. What an operation gives can be
used in the ones that follow, and so can the parts of what it gives. Operations that fail count: they
leave the stack as they have got it so far, and give nothing.
-/
namespace StackSynth

/-- What an operation may give. -/
inductive Handle
  | construct (c : Construct)
  | role (role : Role)
  | bucket (bucket : Bucket)
  | table (table : Table)
  | logGroup (group : LogGroup)
  | cluster (cluster : Cluster)
  | image (image : ImageAsset)
  | function (function : LambdaFunction)
  | task (task : TaskDefinition)
  | container (container : Container)
  | service (service : Service)
  | certificate (certificate : Certificate)
  | userPool (pool : UserPool)
  | provider (provider : GoogleProvider)
  | domain (domain : SignInDomain)
  | client (client : SignInClient)
  | vpc (vpc : Vpc)
  | subnet (subnet : Subnet)
  | endpoint (endpoint : GatewayEndpoint)
  | securityGroup (group : SecurityGroup)
  | loadBalancer (balancer : LoadBalancer)
  | listener (listener : Listener)
  | targetGroup (group : TargetGroup)

namespace Handle

/-- What comes with a handle. -/
def parts : Handle → List Handle
  | construct _ | image _ | container _ => []
  | role r => [construct r.toConstruct]
  | bucket b => [construct b.toConstruct]
  | table t => [construct t.toConstruct]
  | logGroup g => [construct g.toConstruct]
  | cluster c => [construct c.toConstruct]
  | function f => [construct f.toConstruct, role f.role, image f.image]
  | task t => [construct t.toConstruct, role t.taskRole, role t.executionRole]
      ++ t.essentials.map container
  | service s =>
    [construct s.toConstruct, securityGroup s.securityGroup, container s.defaultContainer]
  | certificate c => [construct c.toConstruct]
  | userPool p => [construct p.toConstruct]
  | provider p => [construct p.toConstruct]
  | domain d => [construct d.toConstruct]
  | client c => [construct c.toConstruct]
  | vpc v => [construct v.toConstruct] ++ v.subnets.map subnet ++ v.endpoints.map endpoint
  | subnet s => [construct s.toConstruct]
  | endpoint e => [construct e.toConstruct]
  | securityGroup g => [construct g.toConstruct]
  | loadBalancer b => [construct b.toConstruct, securityGroup b.securityGroup]
  | listener l => [construct l.toConstruct, loadBalancer l.loadBalancer]
  | targetGroup g => [construct g.toConstruct]

/-- What a stack has to have for a handle to be one of its own. -/
def Valid (s : Stack) : Handle → Prop
  | construct c => ∃ leaf type, c.Stands s leaf type
  | role r => r.Valid s
  | bucket b => b.Valid s
  | table t => t.Valid s
  | logGroup g => g.Valid s
  | cluster c => c.Valid s
  | image i => i.Plain
  | function f => f.Valid s
  | task t => t.Valid s
  | container c => c.Valid s
  | service inner => inner.Valid s
  | certificate c => c.Valid s
  | userPool p => p.Valid s
  | provider p => p.Valid s
  | domain d => d.Valid s
  | client c => c.Valid s
  | vpc v => v.Valid s
  | subnet inner => inner.Valid s
  | endpoint e => e.Valid s
  | securityGroup g => g.Valid s
  | loadBalancer b => b.Valid s
  | listener l => l.Valid s
  | targetGroup g => g.Valid s

end Handle

inductive Operation
  | role (scope : List String) (id : String) (settings : RoleSettings)
  | addManagedPolicy (role : Role) (policy : ManagedPolicy)
  | addToPolicy (role : Role) (statement : PolicyStatement)
  | grant (role : Role) (kind : GrantKind) (target : String) (statements : List PolicyStatement)
  | bucket (id : String) (settings : BucketSettings)
  | grantBucket (bucket : Bucket) (role : Role)
  | table (id : String) (settings : TableSettings)
  | grantTable (table : Table) (role : Role)
  | logGroup (scope : List String) (id : String) (retention : Retention) (removal : RemovalPolicy)
  | grantLogs (group : LogGroup) (role : Role)
  | cluster (id : String)
  | image (files : FileTree) (path : List String) (settings : ImageAsset.Settings)
  | grantPull (role : Role)
  | function (files : FileTree) (id : String) (settings : FunctionSettings)
  | grantInvoke (function : LambdaFunction) (role : Role)
  | task (id : String) (settings : TaskSettings)
  | addContainer (task : TaskDefinition) (id : String) (settings : ContainerSettings)
  | addEnvironment (container : Container) (name : String) (value : Value)
  | addPorts (container : Container) (ports : List PortMapping)
  | service (id : String) (cluster : Cluster) (task : TaskDefinition) (vpc : Vpc)
    (settings : ServiceSettings)
  | register (service : Service) (group : TargetGroup)
  | certificate (id domainName : String) (validation : CertificateValidation)
  | userPool (id : String) (settings : UserPoolSettings)
  | provider (id : String) (pool : UserPool) (settings : GoogleProviderSettings)
  | domain (id : String) (pool : UserPool) (label : String)
  | client (id : String) (pool : UserPool) (settings : SignInClientSettings)
  | vpc (id : String) (settings : VpcSettings)
  | addEndpoint (vpc : Vpc) (id : String) (service : GatewayService)
  | securityGroup (scope : List String) (id : String) (vpc : Vpc) (description : Option String)
    (allowsAllOutbound : Bool)
  | allowFromBlock (group : SecurityGroup) (block : String) (port : UInt16) (description : String)
  | allowFrom (group peer : SecurityGroup) (port : UInt16) (description : String)
  | loadBalancer (id : String) (vpc : Vpc) (internetFacing : Bool)
  | listener (balancer : LoadBalancer) (id : String) (settings : ListenerSettings)
  | addTargets (listener : Listener) (id : String) (port : UInt16) (protocol : ApplicationProtocol)
    (targets : List Target)
  | waitFor (dependent dependency : Construct)

namespace Operation

section Results

variable {α : Type}

/-- An action with one handle as its result. -/
def gives (handle : α → Handle) (action : Declaring α) : Declaring (List Handle) :=
  (fun a => [handle a]) <$> action

def givesNothing (action : Declaring α) : Declaring (List Handle) := (fun _ => []) <$> action

end Results

def action : Operation → Declaring (List Handle)
  | role scope id settings => gives .role (Role.declare scope id settings)
  | addManagedPolicy r policy => givesNothing (r.addManagedPolicy policy)
  | addToPolicy r statement => givesNothing (r.addToPolicy statement)
  | grant r kind target statements => givesNothing (r.grant kind target statements)
  | bucket id settings => gives .bucket (Bucket.declare id settings)
  | grantBucket b r => givesNothing (b.grantReadWrite r)
  | table id settings => gives .table (Table.declare id settings)
  | grantTable t r => givesNothing (t.grantReadWrite r)
  | logGroup scope id retention removal =>
    gives .logGroup (LogGroup.declare scope id retention removal)
  | grantLogs g r => givesNothing (g.grantWrite r)
  | cluster id => gives .cluster (Cluster.declare id)
  | image files path settings => gives .image (ImageAsset.declare files path settings)
  | grantPull r => givesNothing (ImageAsset.grantPull r)
  | function files id settings => gives .function (LambdaFunction.declare files id settings)
  | grantInvoke f r => givesNothing (f.grantInvoke r)
  | task id settings => gives .task (TaskDefinition.declare id settings)
  | addContainer t id settings =>
    (fun added => [.task added.1, .container added.2]) <$> t.addContainer id settings
  | addEnvironment c name value => givesNothing (c.addEnvironment name value)
  | addPorts c ports => givesNothing (c.addPorts ports)
  | service id c t v settings => gives .service (Service.declare id c t v settings)
  | register s g => givesNothing (s.register g.arn)
  | certificate id domainName validation =>
    gives .certificate (Certificate.declare id domainName validation)
  | userPool id settings => gives .userPool (UserPool.declare id settings)
  | provider id p settings => gives .provider (GoogleProvider.declare id p settings)
  | domain id p label => gives .domain (SignInDomain.declare id p label)
  | client id p settings => gives .client (SignInClient.declare id p settings)
  | vpc id settings => gives .vpc (Vpc.declare id settings)
  | addEndpoint v id kind => gives .vpc (v.addEndpoint id kind)
  | securityGroup scope id v description allowsAllOutbound =>
    gives .securityGroup (SecurityGroup.declare scope id v description allowsAllOutbound)
  | allowFromBlock g block port description =>
    givesNothing (g.allowFromBlock block port description)
  | allowFrom g peer port description => givesNothing (g.allowFrom peer port description)
  | loadBalancer id v internetFacing =>
    gives .loadBalancer (LoadBalancer.declare id v internetFacing)
  | listener b id settings => gives .listener (Listener.declare b id settings)
  | addTargets l id port protocol targets =>
    gives .targetGroup (l.addTargets id port protocol targets)
  | waitFor dependent dependency => givesNothing (Stack.waitFor dependent dependency)

/-- The handles that a target stands for. -/
def handlesOf : Target → List Handle
  | .service s => [.service s]
  | .other _ _ g => g.toList.map .securityGroup

/-- The image that a container is started from, if it is one of the stack. -/
def imageOf : ContainerImage → List Handle
  | .asset i => [.image i]
  | .registry _ => []

/-- The handles that an operation makes use of. -/
def uses : Operation → List Handle
  | role .. | bucket .. | table .. | logGroup .. | cluster .. | image .. | function ..
  | certificate .. | userPool .. | vpc .. => []
  | addManagedPolicy r _ | addToPolicy r _ | grant r _ _ _ | grantPull r => [.role r]
  | grantBucket b r => [.bucket b, .role r]
  | grantTable t r => [.table t, .role r]
  | grantLogs g r => [.logGroup g, .role r]
  | grantInvoke f r => [.function f, .role r]
  | task _ settings =>
    settings.taskRole.toList.map .role ++ settings.executionRole.toList.map .role
  | addContainer t _ settings => .task t :: imageOf settings.image
  | addEnvironment c _ _ | addPorts c _ => [.container c]
  | service _ c t v _ => [.cluster c, .task t, .vpc v]
  | register s g => [.service s, .targetGroup g]
  | provider _ p _ | domain _ p _ | client _ p _ => [.userPool p]
  | addEndpoint v _ _ | securityGroup _ _ v _ _ | loadBalancer _ v _ => [.vpc v]
  | allowFromBlock g _ _ _ => [.securityGroup g]
  | allowFrom g peer _ _ => [.securityGroup g, .securityGroup peer]
  | listener b _ _ => [.loadBalancer b]
  | addTargets l _ _ _ targets => .listener l :: targets.flatMap handlesOf
  | waitFor dependent dependency => [.construct dependent, .construct dependency]

/-- The values that a caller supplies. -/
def values : Operation → List Value
  | addToPolicy _ statement => statement.resources
  | grant _ _ _ statements => statements.flatMap (·.resources)
  | addContainer _ _ settings => settings.environment.entries.map (·.2)
  | addEnvironment _ _ value => [value]
  | listener _ _ settings => settings.certificates
  | _ => []

def otherId? : Target → Option String
  | .service _ => none
  | .other _ id _ => some id

/-- The targets that are something other than services. -/
def others : Operation → List String
  | addTargets _ _ _ _ targets => targets.filterMap otherId?
  | _ => []

/-- What a caller keeps to: handles that were given, values that refer to what is declared, targets
that stand for what is declared, and waits of one construct for another. -/
structure Permitted (s : Stack) (known : List Handle) (op : Operation) : Prop where
  uses : op.uses ⊆ known
  values : ∀ value ∈ op.values, ∀ ref ∈ value.toJson.references, s.contains ref.target = true
  others : ∀ id ∈ op.others, s.contains id = true
  apart : ∀ dependent dependency, op = waitFor dependent dependency →
    dependent.logicalId ≠ dependency.logicalId

/-- The handles that an operation gives on a stack. -/
def given (s : Stack) (op : Operation) : List Handle :=
  match (s.run op.action).1 with
  | .ok handles => handles
  | .error _ => []

end Operation

/-- The stacks that operations lead to, each with the handles that were given on the way. -/
inductive Reached : Stack → List Handle → Prop
  | start {name : String} {environment : Environment} {s : Stack}
    (made : Stack.make name environment = .ok s) : Reached s []
  | operate {s : Stack} {known : List Handle} (op : Operation) (before : Reached s known)
    (permitted : op.Permitted s known) : Reached (s.run op.action).2 (known ++ op.given s)
  | part {s : Stack} {known : List Handle} {whole part : Handle} (before : Reached s known)
    (member : whole ∈ known) (within : part ∈ whole.parts) : Reached s (known ++ [part])

end StackSynth
