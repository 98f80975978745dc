import StackSynth.Compute.Cluster
import StackSynth.Compute.TaskDefinition
import StackSynth.Network.SecurityGroup

/-!
Services that keep a number of tasks running in a private network.
-/
namespace StackSynth

structure ServiceSettings where
  desiredCount : UInt32 := 1
  assignPublicIp : Bool := false
  deriving DecidableEq, Repr, Inhabited

structure Service extends Construct where
  securityGroup : SecurityGroup
  defaultContainer : Container
  deriving DecidableEq, Repr, Inhabited

namespace Service

def resourceFor (cluster : Cluster) (task : TaskDefinition) (vpc : Vpc) (group : SecurityGroup)
    (settings : ServiceSettings) : Resource := {
  type := "AWS::ECS::Service"
  properties := [
    ("Cluster", cluster.name.toJson),
    ("DeploymentConfiguration", .obj [
      ("MaximumPercent", .nat 200),
      ("MinimumHealthyPercent", .nat 50)]),
    ("DesiredCount", .nat settings.desiredCount.toUInt64),
    ("EnableECSManagedTags", .bool false),
    ("LaunchType", .str "FARGATE"),
    ("NetworkConfiguration", .obj [("AwsvpcConfiguration", .obj [
      ("AssignPublicIp", .str (if settings.assignPublicIp then "ENABLED" else "DISABLED")),
      ("SecurityGroups", .arr [group.groupId.toJson]),
      ("Subnets", .arr (vpc.workloadSubnets.map fun s => s.subnetId.toJson))])]),
    ("TaskDefinition", task.arn.toJson)] }

/-- Declares a service, which waits for all that its task role is allowed. -/
def declare (id : String) (cluster : Cluster) (task : TaskDefinition) (vpc : Vpc)
    (settings : ServiceSettings) : Declaring Service := do
  match task.defaultContainer? with
  | none => throw (.invalidProps id "task definition has no essential container")
  | some defaultContainer => do
    let securityGroup ← SecurityGroup.declare [id] "SecurityGroup" vpc none true
    let logicalId ← Stack.declare [id, "Service"]
      (resourceFor cluster task vpc securityGroup settings)
    Stack.waitForPath logicalId task.taskRole.path
    return { path := [id], logicalId, securityGroup, defaultContainer }

def name (s : Service) : Value := .getAtt s.logicalId "Name"

/-- Enters the first port of the default container in a target group. -/
def register (s : Service) (targetGroup : Value) : Declaring Unit := do
  match s.defaultContainer.port? (← get) with
  | none =>
    throw (.invalidProps s.logicalId s!"container '{s.defaultContainer.name}' has no port mapping")
  | some port =>
    Stack.pushProperty s.logicalId "LoadBalancers" (.obj [
      ("ContainerName", .str s.defaultContainer.name),
      ("ContainerPort", .nat port.toUInt64),
      ("TargetGroupArn", targetGroup.toJson)])

end Service

end StackSynth
