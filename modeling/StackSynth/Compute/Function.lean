import StackSynth.Compute.LogGroup
import StackSynth.Asset.Image
import StackSynth.Units

/-!
Functions that run on demand, each from a container image.
-/
namespace StackSynth

structure FunctionSettings where
  image : ImageAsset.Settings
  memory : UInt32
  timeout : Duration
  ephemeralStorage : Option Size := none
  retention : Option Retention := none
  deriving Inhabited

structure LambdaFunction extends Construct where
  role : Role
  image : ImageAsset
  deriving DecidableEq, Repr, Inhabited

namespace FunctionSettings

def isMemory (memory : UInt32) : Bool := decide (128 ≤ memory) && decide (memory ≤ 10240)

def isTimeout (d : Duration) : Bool :=
  d.seconds != 0 && decide (¬ d.Longer (Duration.ofMinutes 15))

def isStorage (s : Size) : Bool :=
  decide (512 ≤ s.mebibytes) && decide (s.mebibytes ≤ (Size.ofGibibytes 10).mebibytes)

/-- The first setting that is not allowed decides. -/
def check (f : FunctionSettings) (id : String) : Outcome Unit := do
  if !isMemory f.memory then
    throw (.invalidProps id s!"memory size {f.memory} MiB is outside 128..=10240")
  if !isTimeout f.timeout then
    throw (.invalidProps id "timeout must be between 1 second and 15 minutes")
  if !(f.ephemeralStorage.map isStorage).getD true then
    throw (.invalidProps id "ephemeral storage must be between 512 MiB and 10 GiB")

end FunctionSettings

namespace LambdaFunction

def roleSettings : RoleSettings := {
  service := "lambda.amazonaws.com"
  managedPolicies := [⟨"service-role/AWSLambdaBasicExecutionRole"⟩] }

def properties (settings : FunctionSettings) (image : ImageAsset) (role : Role)
    (logs : Option LogGroup) : Fields :=
  [("Code", .obj [("ImageUri", image.uri.toJson)])]
  ++ (match settings.ephemeralStorage with
    | some size => [("EphemeralStorage", .obj [("Size", .nat size.mebibytes)])]
    | none => [])
  ++ (match logs with
    | some group => [("LoggingConfig", .obj [("LogGroup", group.reference.toJson)])]
    | none => [])
  ++ [("MemorySize", .nat settings.memory.toUInt64),
    ("PackageType", .str "Image"),
    ("Role", role.arn.toJson),
    ("Timeout", .nat settings.timeout.seconds)]

/-- Declares a function with its image and its role, which it waits for. -/
def declare (files : FileTree) (id : String) (settings : FunctionSettings) :
    Declaring LambdaFunction := do
  Stack.lift (settings.check id)
  let image ← ImageAsset.declare files [id, "AssetImage"] settings.image
  let role ← Role.declare [id] "ServiceRole" roleSettings
  let logs ← match settings.retention with
    | some retention => some <$> LogGroup.declare [id] "LogGroup" retention .retain
    | none => pure none
  let logicalId ← Stack.declare [id, "Resource"] {
    type := "AWS::Lambda::Function"
    properties := properties settings image role logs }
  Stack.waitForPath logicalId role.path
  return { path := [id], logicalId, role, image }

def arn (f : LambdaFunction) : Value := .getAtt f.logicalId "Arn"
def name (f : LambdaFunction) : Value := .ref f.logicalId

/-- Lets a role call the function in any of its versions. -/
def grantInvoke (f : LambdaFunction) (role : Role) : Declaring Bool :=
  role.grant .invoke f.logicalId
    [{ actions := ["lambda:InvokeFunction"], resources := [f.arn, .join "" [f.arn, .str ":*"]] }]

end LambdaFunction

end StackSynth
