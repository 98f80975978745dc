import StackSynth.Permissions.Role

/-!
Groups of log streams, which keep what is written to them for some time or for good.
-/
namespace StackSynth

inductive Retention
  | oneDay
  | threeDays
  | fiveDays
  | oneWeek
  | twoWeeks
  | oneMonth
  | threeMonths
  | sixMonths
  | oneYear
  | infinite
  deriving DecidableEq, Repr, Inhabited

def Retention.days : Retention → Option UInt64
  | oneDay => some 1
  | threeDays => some 3
  | fiveDays => some 5
  | oneWeek => some 7
  | twoWeeks => some 14
  | oneMonth => some 30
  | threeMonths => some 90
  | sixMonths => some 180
  | oneYear => some 365
  | infinite => none

def Retention.ofName? : String → Option Retention
  | "OneDay" => some oneDay
  | "ThreeDays" => some threeDays
  | "FiveDays" => some fiveDays
  | "OneWeek" => some oneWeek
  | "TwoWeeks" => some twoWeeks
  | "OneMonth" => some oneMonth
  | "ThreeMonths" => some threeMonths
  | "SixMonths" => some sixMonths
  | "OneYear" => some oneYear
  | "Infinite" => some infinite
  | _ => none

structure LogGroup extends Construct
  deriving DecidableEq, Repr, Inhabited

namespace LogGroup

def resourceFor (retention : Retention) (removal : RemovalPolicy) : Resource :=
  ({ type := "AWS::Logs::LogGroup"
     properties := match retention.days with
       | some days => [("RetentionInDays", .nat days)]
       | none => [] } : Resource).withRemovalPolicy removal.deletionPolicy

/-- Declares a log group below `scope`. -/
def declare (scope : List String) (id : String) (retention : Retention)
    (removal : RemovalPolicy) : Declaring LogGroup := do
  let path := scope ++ [id]
  let logicalId ← Stack.declare (path ++ ["Resource"]) (resourceFor retention removal)
  return { path, logicalId }

def reference (g : LogGroup) : Value := .ref g.logicalId
def arn (g : LogGroup) : Value := .getAtt g.logicalId "Arn"

def grantWrite (g : LogGroup) (role : Role) : Declaring Bool :=
  role.grant .logWrite g.logicalId
    [{ actions := ["logs:CreateLogStream", "logs:PutLogEvents"], resources := [g.arn] }]

end LogGroup

end StackSynth
