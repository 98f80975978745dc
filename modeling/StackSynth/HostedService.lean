import StackSynth.Compute.Function
import StackSynth.Config.Basic
import StackSynth.Data.Bucket
import StackSynth.Data.Table
import StackSynth.Identity.Certificate
import StackSynth.Identity.SignInClient
import StackSynth.Identity.SignInDomain
import StackSynth.Network.LoadBalancer

/-!
The service as a stack: users sign in with an account at Google, a load balancer forwards their
requests to a container in a private network, and the container uses a table, a bucket and a
function. The settings fill in names and texts; which resources there are does not depend on them.
-/
namespace StackSynth

structure HostedService where
  certificate : Certificate
  userPool : UserPool
  googleProvider : GoogleProvider
  signInDomain : SignInDomain
  signInClient : SignInClient
  vpc : Vpc
  cluster : Cluster
  executionRole : Role
  taskDefinition : TaskDefinition
  container : Container
  service : Service
  loadBalancer : LoadBalancer
  listener : Listener
  targetGroup : TargetGroup
  compileFunction : LambdaFunction
  usersTable : Table
  circuitsBucket : Bucket
  deriving Inhabited

namespace HostedService

/-- The port that the container listens on. -/
def containerPort : UInt16 := 3000

def httpsPort : UInt16 := 443

/-- Both images are built from the configured context, each up to a target of its own. -/
def imageSettings (c : Config) (target : String) : ImageAsset.Settings :=
  ⟨c.build.context, { exclude := c.build.exclude, target := some target }⟩

/-- What users sign in with. -/
structure SignIn where
  certificate : Certificate
  userPool : UserPool
  googleProvider : GoogleProvider
  signInDomain : SignInDomain
  deriving Inhabited

def googleMapping : AttributeMapping := {
  email := some .email
  fullName := some .name
  givenName := some .givenName
  profilePicture := some .picture }

def declareSignIn (c : Config) : Declaring SignIn := do
  let certificate ← Certificate.declare "Certificate" c.certificate.domainName
    c.certificate.validation
  let userPool ← UserPool.declare "ZkcirUserPool"
    { selfSignUp := true, verifyEmail := true, removal := .destroy }
  let clientSecret ← Stack.lift (Secret.ofName c.identity.googleClientSecretName)
  let googleProvider ← GoogleProvider.declare "ZkcirGoogleProvider" userPool
    { clientId := c.identity.googleClientId, clientSecret, mapping := googleMapping }
  let signInDomain ← SignInDomain.declare "ZkcirUserPoolDomain" userPool c.identity.userPoolDomain
  return { certificate, userPool, googleProvider, signInDomain }

/-- Two zones with a public and a private subnet each, and one gateway for egress. -/
def networkSettings : VpcSettings := {
  zones := 2
  natGateways := some 1
  groups := [⟨"public", .isPublic⟩, ⟨"private", .withEgress⟩]
  endpoints := OrderedMap.ofList [("S3Endpoint", .objectStorage), ("DynamoDBEndpoint", .tables)] }

/-- What runs the requests. -/
structure Workload where
  cluster : Cluster
  executionRole : Role
  taskDefinition : TaskDefinition
  container : Container
  compileFunction : LambdaFunction
  deriving Inhabited

def declareExecutionRole : Declaring Role := do
  let role ← Role.declare [] "ExecutionRole" { service := TaskDefinition.principal }
  role.addManagedPolicy ⟨"service-role/AmazonECSTaskExecutionRolePolicy"⟩
  let _ ← ImageAsset.grantPull role
  return role

def functionSettings (c : Config) : FunctionSettings := {
  image := imageSettings c c.build.lambdaTarget
  memory := 1024
  timeout := .ofSeconds 30
  ephemeralStorage := some (.ofGibibytes 2)
  retention := some .oneWeek }

def declareWorkload (files : FileTree) (c : Config) : Declaring Workload := do
  let image ← ImageAsset.declare files ["AxumImage"] (imageSettings c c.build.serviceTarget)
  let cluster ← Cluster.declare "Cluster"
  let executionRole ← declareExecutionRole
  let bare ← TaskDefinition.declare "TaskDef"
    { cpu := 512, memory := 2048, executionRole := some executionRole }
  let (taskDefinition, container) ← bare.addContainer "AxumContainer"
    { image := .asset image, logging := some ⟨"Service", .oneWeek⟩ }
  let compileFunction ← LambdaFunction.declare files "CompileLambda" (functionSettings c)
  let _ ← compileFunction.grantInvoke taskDefinition.taskRole
  container.addPorts [{ port := containerPort }]
  return { cluster, executionRole, taskDefinition, container, compileFunction }

/-- The way in from the internet. -/
structure Entrance where
  service : Service
  loadBalancer : LoadBalancer
  listener : Listener
  targetGroup : TargetGroup
  deriving Inhabited

def declareEntrance (certificate : Certificate) (vpc : Vpc) (w : Workload) :
    Declaring Entrance := do
  let service ← Service.declare "Service" w.cluster w.taskDefinition vpc {}
  let loadBalancer ← LoadBalancer.declare "ALB" vpc true
  let listener ← Listener.declare loadBalancer "HttpsListener"
    { port := httpsPort, certificates := [certificate.arn] }
  let targetGroup ← listener.addTargets "ECSHttps" containerPort .http [.service service]
  return { service, loadBalancer, listener, targetGroup }

def clientSettings (c : Config) : SignInClientSettings := {
  providers := [.google]
  callbackUrls := c.callbackUrls
  scopes := [.email, .openId, .profile, .admin]
  tokenValidity := some (.ofMinutes c.identity.accessTokenValidityMinutes) }

/-- A client can name a provider only when it is there, so it waits for it. -/
def declareClient (c : Config) (s : SignIn) : Declaring SignInClient := do
  let client ← SignInClient.declare "ZkcirUserPoolClient" s.userPool (clientSettings c)
  Stack.waitFor client.toConstruct s.googleProvider.toConstruct
  return client

def tableSettings : TableSettings := {
  partitionKey := ⟨"user_id", .string⟩
  provisioned := true
  readCapacity := some 25
  writeCapacity := some 25
  removal := .destroy }

/-- Declares what the requests are about; the role of the task may read and write it. -/
def declareData (taskRole : Role) : Declaring (Table × Bucket) := do
  let table ← Table.declare "Users" tableSettings
  let _ ← table.grantReadWrite taskRole
  let bucket ← Bucket.declare "Circuits" { autoDelete := true, removal := .destroy }
  let _ ← bucket.grantReadWrite taskRole
  return (table, bucket)

/-- The names of the variables that tell the container where everything is. -/
def variableNames : List String := [
  "ddb_user_table", "circuits_bucket", "user_pool_domain", "user_pool_client_id", "aws_region",
  "compile_lambda_arn"]

def variableValues (c : Config) (w : Workload) (client : SignInClient) (table : Table)
    (bucket : Bucket) : List Value := [
  table.name, bucket.name, .str c.identity.userPoolDomain, client.clientId, .str c.stack.region,
  w.compileFunction.arn]

def defaultContainer (t : TaskDefinition) : Outcome Container :=
  match t.defaultContainer? with
  | some container => .ok container
  | none => .error (.internal "task definition has no default container")

def declare (files : FileTree) (c : Config) : Declaring HostedService := do
  let s ← declareSignIn c
  let vpc ← Vpc.declare "Vpc" networkSettings
  let w ← declareWorkload files c
  let e ← declareEntrance s.certificate vpc w
  let client ← declareClient c s
  let (table, bucket) ← declareData w.taskDefinition.taskRole
  let container ← Stack.lift (defaultContainer w.taskDefinition)
  (variableNames.zip (variableValues c w client table bucket)).forM fun entry =>
    container.addEnvironment entry.1 entry.2
  Stack.addOutput "LoadBalancerDnsName" e.loadBalancer.dnsName
    (some "Public DNS name of the load balancer")
  return {
    certificate := s.certificate
    userPool := s.userPool
    googleProvider := s.googleProvider
    signInDomain := s.signInDomain
    signInClient := client
    vpc
    cluster := w.cluster
    executionRole := w.executionRole
    taskDefinition := w.taskDefinition
    container := w.container
    service := e.service
    loadBalancer := e.loadBalancer
    listener := e.listener
    targetGroup := e.targetGroup
    compileFunction := w.compileFunction
    usersTable := table
    circuitsBucket := bucket }

/-- The empty stack that the settings name. -/
def emptyStack (c : Config) : Outcome Stack := do
  let stack ← Stack.make c.stack.name (← c.environment)
  return { stack with description := c.stack.description }

/-- The service with the stack that it is declared in; settings that are not valid declare none. -/
def build (files : FileTree) (c : Config) : Outcome (HostedService × Stack) := do
  c.validate
  let (result, stack) := (← emptyStack c).run (declare files c)
  return (← result, stack)

/-- The constructs, those that others are built on first. -/
def constructs (h : HostedService) : List Construct := [
  h.certificate.toConstruct, h.userPool.toConstruct, h.googleProvider.toConstruct,
  h.signInDomain.toConstruct, h.signInClient.toConstruct, h.vpc.toConstruct,
  h.cluster.toConstruct, h.executionRole.toConstruct, h.taskDefinition.taskRole.toConstruct,
  h.taskDefinition.toConstruct, h.service.toConstruct, h.loadBalancer.toConstruct,
  h.listener.toConstruct, h.targetGroup.toConstruct, h.compileFunction.toConstruct,
  h.usersTable.toConstruct, h.circuitsBucket.toConstruct]

end HostedService

end StackSynth
