import StackSynth.Compute.Service

/-!
Load balancers, the ports they listen on, and the groups of targets behind these.
-/
namespace StackSynth

inductive ApplicationProtocol
  | http
  | https
  deriving DecidableEq, Repr, Inhabited

def ApplicationProtocol.name : ApplicationProtocol → String
  | http => "HTTP"
  | https => "HTTPS"

inductive TargetType
  | ip
  | instance_
  | lambda
  deriving DecidableEq, Repr, Inhabited

def TargetType.name : TargetType → String
  | ip => "ip"
  | instance_ => "instance"
  | lambda => "lambda"

/-- What traffic can be sent to: a service, or something that is registered by other means. -/
inductive Target
  | service (s : Service)
  | other (type : TargetType) (logicalId : String) (securityGroup : Option SecurityGroup)
  deriving Inhabited

namespace Target

def type : Target → TargetType
  | service _ => .ip
  | other type _ _ => type

def logicalId : Target → String
  | service s => s.logicalId
  | other _ id _ => id

def securityGroup? : Target → Option SecurityGroup
  | service s => some s.securityGroup
  | other _ _ group => group

def register (t : Target) (targetGroup : Value) : Declaring Unit :=
  match t with
  | service s => s.register targetGroup
  | other .. => pure ()

end Target

structure LoadBalancer extends Construct where
  securityGroup : SecurityGroup
  vpcId : Value
  deriving Inhabited

namespace LoadBalancer

def resourceFor (internetFacing : Bool) (group : SecurityGroup) (subnets : List Value)
    (routes : List String) : Resource :=
  routes.foldl Resource.addDependency {
    type := "AWS::ElasticLoadBalancingV2::LoadBalancer"
    properties := [
      ("LoadBalancerAttributes", .arr [tagJson "deletion_protection.enabled" "false"]),
      ("Scheme", .str (if internetFacing then "internet-facing" else "internal")),
      ("SecurityGroups", .arr [group.groupId.toJson]),
      ("Subnets", .arr (subnets.map Value.toJson)),
      ("Type", .str "application")] }

/-- Declares a load balancer. One that faces the internet waits for the routes to it. -/
def declare (id : String) (vpc : Vpc) (internetFacing : Bool) : Declaring LoadBalancer := do
  let unique ← Stack.lift (LogicalId.ofPath [(← get).name, id])
  let securityGroup ← SecurityGroup.declare [id] "SecurityGroup" vpc
    (some s!"Automatically created Security Group for ELB {unique}") false
  let kind : SubnetKind := if internetFacing then .isPublic else .withEgress
  let subnets := vpc.subnetIds kind
  if subnets.isEmpty then
    throw (.invalidProps id s!"VPC has no {kind.name} subnets for the load balancer")
  let routes := if internetFacing then vpc.internetRoutes else []
  let logicalId ← Stack.declare [id, "Resource"]
    (resourceFor internetFacing securityGroup subnets routes)
  return { path := [id], logicalId, securityGroup, vpcId := vpc.vpcId }

def arn (b : LoadBalancer) : Value := .ref b.logicalId
def dnsName (b : LoadBalancer) : Value := .getAtt b.logicalId "DNSName"

end LoadBalancer

structure ListenerSettings where
  port : UInt16
  /-- Unless it is set, encrypted exactly if there is a certificate. -/
  protocol : Option ApplicationProtocol := none
  certificates : List Value := []
  /-- Whether everyone may connect. -/
  isOpen : Bool := true
  deriving Inhabited

structure Listener extends Construct where
  loadBalancer : LoadBalancer
  port : UInt16
  deriving Inhabited

structure TargetGroup extends Construct where
  port : UInt16
  deriving DecidableEq, Repr, Inhabited

def TargetGroup.arn (g : TargetGroup) : Value := .ref g.logicalId

namespace ListenerSettings

def effectiveProtocol (l : ListenerSettings) : ApplicationProtocol :=
  l.protocol.getD (if l.certificates.isEmpty then .http else .https)

/-- The first setting that is not allowed decides. -/
def check (l : ListenerSettings) (id : String) : Outcome Unit := do
  if l.effectiveProtocol = .https && l.certificates.isEmpty then
    throw (.invalidProps id "HTTPS listeners need at least one certificate")
  if l.port = 0 then throw (.invalidProps id "listener port must be non-zero")

end ListenerSettings

namespace Listener

def actionsKey : String := "DefaultActions"

def resourceFor (b : LoadBalancer) (settings : ListenerSettings) : Resource := {
  type := "AWS::ElasticLoadBalancingV2::Listener"
  properties :=
    (if settings.certificates.isEmpty then []
      else [("Certificates", .arr (settings.certificates.map fun arn =>
        .obj [("CertificateArn", arn.toJson)]))])
    ++ [(actionsKey, .arr []),
      ("LoadBalancerArn", b.arn.toJson),
      ("Port", .nat settings.port.toUInt64),
      ("Protocol", .str settings.effectiveProtocol.name)] }

/-- Declares a listener of a load balancer. -/
def declare (b : LoadBalancer) (id : String) (settings : ListenerSettings) :
    Declaring Listener := do
  Stack.lift (settings.check id)
  let path := b.path ++ [id]
  let logicalId ← Stack.declare (path ++ ["Resource"]) (resourceFor b settings)
  if settings.isOpen then
    b.securityGroup.allowFromBlock anyAddress settings.port
      s!"Allow from anyone on port {settings.port}"
  return { path, logicalId, loadBalancer := b, port := settings.port }

def arn (l : Listener) : Value := .ref l.logicalId

def hasDefaultAction (l : Listener) (s : Stack) : Bool :=
  match (s.resource? l.logicalId).bind (·.property? actionsKey) with
  | some (.arr actions) => !actions.isEmpty
  | _ => false

def groupResource (l : Listener) (port : UInt16) (protocol : ApplicationProtocol)
    (type : TargetType) : Resource := {
  type := "AWS::ElasticLoadBalancingV2::TargetGroup"
  properties := [
    ("Port", .nat port.toUInt64),
    ("Protocol", .str protocol.name),
    ("TargetGroupAttributes", .arr [tagJson "stickiness.enabled" "false"]),
    ("TargetType", .str type.name),
    ("VpcId", l.loadBalancer.vpcId.toJson)] }

/-- Registers a target, which waits for the listener and is opened to the load balancer. -/
def attach (l : Listener) (group : TargetGroup) (target : Target) : Declaring Unit := do
  target.register group.arn
  Stack.waitForPath target.logicalId l.path
  match target.securityGroup? with
  | some securityGroup =>
    securityGroup.allowFrom l.loadBalancer.securityGroup group.port "Load balancer to target"
  | none => pure ()

/-- Sends what comes in on the listener to targets, all of one type. -/
def addTargets (l : Listener) (id : String) (port : UInt16) (protocol : ApplicationProtocol)
    (targets : List Target) : Declaring TargetGroup := do
  match targets with
  | [] => throw (.invalidProps id "at least one target is required")
  | first :: _ => do
    if targets.any (·.type != first.type) then
      throw (.invalidProps id "targets must share one target type")
    if l.hasDefaultAction (← get) then
      throw (.invalidProps l.logicalId "listener already has a default action")
    let path := l.path ++ [s!"{id}Group"]
    let logicalId ← Stack.declare (path ++ ["Resource"])
      (l.groupResource port protocol first.type)
    let group : TargetGroup := { path, logicalId, port }
    Stack.pushProperty l.logicalId actionsKey
      (.obj [("TargetGroupArn", group.arn.toJson), ("Type", .str "forward")])
    targets.forM (l.attach group)
    return group

end Listener

end StackSynth
