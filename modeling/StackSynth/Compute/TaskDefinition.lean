import StackSynth.Compute.Container
import StackSynth.Compute.FargateSize

/-!
Definitions of tasks: the containers that run together, the resources they share, and two roles. The
execution role is used to start the task, the task role by the task itself.
-/
namespace StackSynth

structure TaskSettings where
  cpu : UInt32 := 256
  memory : UInt32 := 512
  executionRole : Option Role := none
  taskRole : Option Role := none
  deriving DecidableEq, Repr, Inhabited

structure TaskDefinition extends Construct where
  taskRole : Role
  executionRole : Role
  /-- The containers without which the task does not run, in order. -/
  essentials : List Container
  deriving DecidableEq, Repr, Inhabited

namespace TaskDefinition

def principal : String := "ecs-tasks.amazonaws.com"

def resourceFor (settings : TaskSettings) (taskRole executionRole : Role) (family : String) :
    Resource := {
  type := "AWS::ECS::TaskDefinition"
  properties := [
    ("ContainerDefinitions", .arr []),
    ("Cpu", .str (toString settings.cpu)),
    ("ExecutionRoleArn", executionRole.arn.toJson),
    ("Family", .str family),
    ("Memory", .str (toString settings.memory)),
    ("NetworkMode", .str "awsvpc"),
    ("RequiresCompatibilities", .arr [.str "FARGATE"]),
    ("TaskRoleArn", taskRole.arn.toJson)] }

/-- The given role, or a new one below the task definition. -/
def roleOr (given : Option Role) (id roleId : String) : Declaring Role :=
  match given with
  | some role => pure role
  | none => Role.declare [id] roleId { service := principal }

def declare (id : String) (settings : TaskSettings) : Declaring TaskDefinition := do
  if !FargateSize.isValid settings.cpu settings.memory then
    throw (.invalidProps id
      s!"{settings.cpu} CPU units with {settings.memory} MiB is not a valid Fargate size")
  let taskRole ← roleOr settings.taskRole id "TaskRole"
  let executionRole ← roleOr settings.executionRole id "ExecutionRole"
  let family ← Stack.lift (LogicalId.ofPath [(← get).name, id])
  let logicalId ← Stack.declare [id, "Resource"]
    (resourceFor settings taskRole executionRole family)
  return { path := [id], logicalId, taskRole, executionRole, essentials := [] }

def arn (t : TaskDefinition) : Value := .ref t.logicalId

def defaultContainer? (t : TaskDefinition) : Option Container := t.essentials.head?

/-- Where the output of a container goes. -/
def logConfiguration (group : LogGroup) (settings : LogSettings) : Json := .obj [
  ("LogDriver", .str "awslogs"),
  ("Options", .obj [
    ("awslogs-group", group.reference.toJson),
    ("awslogs-region", Value.region.toJson),
    ("awslogs-stream-prefix", .str settings.streamName)])]

/-- Declares a log group for a container, which the task may then write to. -/
def declareLogging (t : TaskDefinition) (id : String) (settings : LogSettings) :
    Declaring Json := do
  let group ← LogGroup.declare (t.path ++ [id]) "LogGroup" settings.retention .retain
  let _ ← group.grantWrite t.executionRole
  return logConfiguration group settings

/-- Adds a container under a name that no essential container has; gives the definition as it is
then, and the container. -/
def addContainer (t : TaskDefinition) (id : String) (settings : ContainerSettings) :
    Declaring (TaskDefinition × Container) := do
  if t.essentials.any (·.name == id) then
    throw (.invalidProps t.logicalId s!"container '{id}' already exists")
  match settings.image with
  | .asset _ => let _ ← ImageAsset.grantPull t.executionRole
  | .registry _ => pure ()
  let logging ← match settings.logging with
    | some log => do
      let configuration ← t.declareLogging id log
      pure [("LogConfiguration", configuration)]
    | none => pure []
  let index := ((← get).resource? t.logicalId).elim 0 fun r => (Container.listed r).length
  Stack.pushProperty t.logicalId Container.listKey (.obj (
    [("Essential", .bool settings.essential), ("Image", settings.image.name.toJson)]
      ++ logging ++ [("Name", .str id)]))
  let container : Container := ⟨t.logicalId, id, index⟩
  if !settings.ports.isEmpty then container.addPorts settings.ports
  settings.environment.entries.forM fun entry => container.addEnvironment entry.1 entry.2
  return (if settings.essential then { t with essentials := t.essentials ++ [container] } else t,
    container)

end TaskDefinition

end StackSynth
