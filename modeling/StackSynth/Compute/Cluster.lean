import StackSynth.Stack.Basic

/-!
Clusters that services run in.
-/
namespace StackSynth

structure Cluster extends Construct
  deriving DecidableEq, Repr, Inhabited

namespace Cluster

def declare (id : String) : Declaring Cluster := do
  let logicalId ← Stack.declare [id, "Resource"] { type := "AWS::ECS::Cluster" }
  return { path := [id], logicalId }

def name (c : Cluster) : Value := .ref c.logicalId
def arn (c : Cluster) : Value := .getAtt c.logicalId "Arn"

end Cluster

end StackSynth
