import StackSynth.Template.Basic
import StackSynth.Template.Value

/-!
What an environment has to hold before stacks can be deployed to it: the version of its bootstrap
resources, which every template asks for, and the names of the buckets, repositories and roles that
assets are published through.
-/
namespace StackSynth.Bootstrap

def qualifier : String := "hnb659fds"
def requiredVersion : Nat := 6

/-- The only name that references may have without a resource of the stack behind it. -/
def versionParameter : String := "BootstrapVersion"

def versionLocation : String := s!"/cdk-bootstrap/{qualifier}/version"

def parameters : OrderedMap Parameter := OrderedMap.ofList [
  (versionParameter, {
    type := "AWS::SSM::Parameter::Value<String>"
    default := some versionLocation
    description := some ("Version of the CDK Bootstrap resources in this environment, "
      ++ "automatically retrieved from SSM Parameter Store. [cdk:skip]") })]

def olderVersions : List String := (List.range (requiredVersion - 1)).map fun n => toString (n + 1)

/-- The version must not be one of those before the required one. -/
def versionCheck : Json := .obj [("Assertions", .arr [.obj [
  ("Assert", .obj [("Fn::Not", .arr [.obj [("Fn::Contains", .arr [
    .strs olderVersions, (Value.ref versionParameter).toJson])]])]),
  ("AssertDescription", .str (s!"CDK bootstrap stack version {requiredVersion} required. "
    ++ "Please run 'cdk bootstrap' with a recent version of the CDK CLI."))]])]

def rules : OrderedMap Json := OrderedMap.ofList [("CheckBootstrapVersion", versionCheck)]

def roleArn (role account region : String) : String :=
  s!"arn:$\x7bAWS::Partition\x7d:iam::{account}:role/cdk-{qualifier}-{role}-role-{account}-{region}"

def bucketName (account region : String) : String := s!"cdk-{qualifier}-assets-{account}-{region}"

def repositoryName (account region : String) : String :=
  s!"cdk-{qualifier}-container-assets-{account}-{region}"

/-- The repository with the account and region left to the deployment. -/
def repositoryPattern : String := repositoryName "$\x7bAWS::AccountId\x7d" "$\x7bAWS::Region\x7d"

end StackSynth.Bootstrap
