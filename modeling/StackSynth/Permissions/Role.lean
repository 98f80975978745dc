import StackSynth.Permissions.Statement
import StackSynth.Stack.Basic

/-!
Roles and what they are allowed to do. A role has one policy of its own, which is declared with the
first statement that it gets.
-/
namespace StackSynth

structure RoleSettings where
  /-- The service that may take the role. -/
  service : String
  managedPolicies : List ManagedPolicy := []
  description : Option String := none
  deriving Inhabited

structure Role extends Construct
  deriving DecidableEq, Repr, Inhabited

namespace Role

def managedPolicyKey : String := "ManagedPolicyArns"

def resourceFor (settings : RoleSettings) : Resource :=
  let base : Resource := {
    type := "AWS::IAM::Role"
    properties := [("AssumeRolePolicyDocument", assumedBy settings.service)] }
  let described := match settings.description with
    | some text => base.withProperty "Description" (.str text)
    | none => base
  settings.managedPolicies.foldl (fun r p => r.pushProperty managedPolicyKey p.arn.toJson) described

/-- Declares a role below `scope`. -/
def declare (scope : List String) (id : String) (settings : RoleSettings) : Declaring Role := do
  let path := scope ++ [id]
  let logicalId ← Stack.declare (path ++ ["Resource"]) (resourceFor settings)
  return { path, logicalId }

def arn (r : Role) : Value := .getAtt r.logicalId "Arn"
def reference (r : Role) : Value := .ref r.logicalId

/-- Where the policy of the role itself is declared. -/
def policyPath (r : Role) : List String := r.path ++ ["DefaultPolicy", "Resource"]

def addManagedPolicy (r : Role) (policy : ManagedPolicy) : Declaring Unit :=
  Stack.pushProperty r.logicalId managedPolicyKey policy.arn.toJson

def defaultPolicy? (r : Role) (s : Stack) : Option String :=
  match LogicalId.ofPath r.policyPath with
  | .ok id => if s.contains id then some id else none
  | .error _ => none

def emptyPolicy (r : Role) (name : String) : Resource := {
  type := "AWS::IAM::Policy"
  properties := [
    ("PolicyDocument", .obj [("Statement", .arr []), ("Version", .str policyVersion)]),
    ("PolicyName", .str name),
    ("Roles", .arr [r.reference.toJson])] }

/-- The policy of the role, which is declared unless it is there. -/
def ensurePolicy (r : Role) : Declaring String := do
  match r.defaultPolicy? (← get) with
  | some id => return id
  | none => do
    let name ← Stack.lift (LogicalId.ofPath r.policyPath)
    Stack.declare r.policyPath (r.emptyPolicy name)

/-- The policy with one more statement; none if it has no list of them. -/
def withStatement? (policy : Resource) (statement : PolicyStatement) : Option Resource :=
  match policy.property? "PolicyDocument" with
  | some (.obj document) =>
    match Fields.get? "Statement" document with
    | some (.arr statements) =>
      let grown := Fields.insert "Statement" (.arr (statements ++ [statement.toJson])) document
      some (policy.withProperty "PolicyDocument" (.obj grown))
    | _ => none
  | _ => none

def addToPolicy (r : Role) (statement : PolicyStatement) : Declaring Unit := do
  let id ← r.ensurePolicy
  match (← get).resource? id with
  | none => throw (.resourceNotFound id)
  | some policy =>
    match withStatement? policy statement with
    | some grown => Stack.edit id fun _ => grown
    | none => throw (.internal s!"Policy '{id}' has no statement list")

/-- Gives a role a permission unless it is on record that it has it; tells whether it was given. -/
def grant (r : Role) (kind : GrantKind) (target : String) (statements : List PolicyStatement) :
    Declaring Bool := do
  let recorded ← Stack.recordGrant
    ⟨r.logicalId, kind, target, statements.flatMap (·.actions)⟩
  if recorded then statements.forM r.addToPolicy
  return recorded

end Role

end StackSynth
