import StackSynth.Template.Basic

/-!
Checks on finished templates. Each rule lists what it finds in the order of the resources; the
report is the lists of all rules one after the other.
-/
namespace StackSynth

inductive Severity
  | warning
  | error
  deriving DecidableEq, Repr, Inhabited

def Severity.name : Severity → String
  | warning => "warning"
  | error => "error"

structure Finding where
  rule : String
  severity : Severity
  logicalId : String
  message : String
  deriving DecidableEq, Repr, Inhabited

namespace Finding

def line (f : Finding) : String :=
  s!"[{f.rule}] {f.severity.name} {f.logicalId}: {f.message}"

def toJson (f : Finding) : Json := .obj [
  ("rule", .str f.rule),
  ("severity", .str f.severity.name),
  ("logical_id", .str f.logicalId),
  ("message", .str f.message)]

end Finding

namespace Audit

/-- The identity providers of a template with the names that clients call them by. -/
def namedProviders (t : Template) : List (String × String) :=
  (t.resourcesOfType "AWS::Cognito::UserPoolIdentityProvider").filterMap fun (id, provider) =>
    ((provider.property? "ProviderName").bind Json.asStr?).map fun name => (id, name)

/-- The texts in a list property. -/
def textsOf (r : Resource) (key : String) : List String :=
  (((r.property? key).bind Json.asArr?).getD []).filterMap Json.asStr?

/-- V001: a client waits for each provider that it supports. -/
def clientsWithoutProviders (t : Template) : List Finding :=
  (t.resourcesOfType "AWS::Cognito::UserPoolClient").flatMap fun (id, client) =>
    let supported := textsOf client "SupportedIdentityProviders"
    ((namedProviders t).filter fun (providerId, name) =>
      supported.contains name && !client.dependsOn.contains providerId).map
      fun (providerId, name) =>
        ⟨"V001", .error, id, s!"supports '{name}' but does not depend on {providerId}"⟩

/-- V002: a listener has something to do by default. -/
def idleListeners (t : Template) : List Finding :=
  ((t.resourcesOfType "AWS::ElasticLoadBalancingV2::Listener").filter fun (_, listener) =>
    (((listener.property? "DefaultActions").bind Json.asArr?).getD []).isEmpty).map fun (id, _) =>
      ⟨"V002", .error, id, "no default actions"⟩

/-- The role that the tasks of a service run under, if the template says so. -/
def taskRole (t : Template) (service : Resource) : Option String := do
  let definition ← service.property? "TaskDefinition"
  let definition ← (definition.field? "Ref").bind Json.asStr?
  let definition ← t.resource? definition
  let role ← definition.property? "TaskRoleArn"
  return (← role.references.head?).target

def isAttachedTo (role : String) (policy : Resource) : Bool :=
  match policy.property? "Roles" with
  | some roles => roles.references.any (·.target == role)
  | none => false

/-- V003: a service waits for the policies of its task role. -/
def hastyServices (t : Template) : List Finding :=
  (t.resourcesOfType "AWS::ECS::Service").flatMap fun (id, service) =>
    match taskRole t service with
    | none => []
    | some role =>
      ((t.resourcesOfType "AWS::IAM::Policy").filter fun (policyId, policy) =>
        isAttachedTo role policy && !service.dependsOn.contains policyId).map fun (policyId, _) =>
          ⟨"V003", .warning, id, s!"may start before task role policy {policyId} exists"⟩

/-- The names that occurred before, each time that they occur again. -/
def repeated (seen : List String) : List String → List String
  | [] => []
  | name :: rest =>
    if seen.contains name then name :: repeated seen rest else repeated (name :: seen) rest

def environmentNames (container : Json) : List String :=
  (((container.field? "Environment").bind Json.asArr?).getD []).filterMap fun entry =>
    (entry.field? "Name").bind Json.asStr?

/-- V004: a container sets each variable once. -/
def repeatedVariables (t : Template) : List Finding :=
  (t.resourcesOfType "AWS::ECS::TaskDefinition").flatMap fun (id, definition) =>
    (((definition.property? "ContainerDefinitions").bind Json.asArr?).getD []).flatMap
      fun container => (repeated [] (environmentNames container)).map fun name =>
        ⟨"V004", .error, id, s!"environment variable '{name}' is set twice"⟩

def isSecretReference (text : String) : Bool := Text.startsWith "\x7b\x7bresolve:" text

/-- V005: a client secret is looked up and not written down. -/
def literalSecrets (t : Template) : List Finding :=
  ((t.resourcesOfType "AWS::Cognito::UserPoolIdentityProvider").filter fun (_, provider) =>
    match ((provider.property? "ProviderDetails").bind (·.field? "client_secret")).bind
        Json.asStr? with
    | some secret => !isSecretReference secret
    | none => false).map fun (id, _) => ⟨"V005", .error, id, "client secret is a literal value"⟩

/-- The rules for incoming traffic, those of the groups before those that stand alone. -/
def ingressRules (t : Template) : List (String × Json) :=
  ((t.resourcesOfType "AWS::EC2::SecurityGroup").flatMap fun (id, group) =>
    (((group.property? "SecurityGroupIngress").bind Json.asArr?).getD []).map (id, ·))
  ++ (t.resourcesOfType "AWS::EC2::SecurityGroupIngress").map fun (id, rule) =>
    (id, .obj rule.properties)

/-- The first port of a rule, where it is a number without a sign. -/
def firstPort (rule : Json) : Option Nat := do
  let port ← (rule.field? "FromPort").bind Json.asInt?
  if 0 ≤ port then some port.toNat else none

def portText : Option Nat → String
  | some port => toString port
  | none => "any"

def isOpenToAll (rule : Json) : Bool := (rule.field? "CidrIp").bind Json.asStr? == some "0.0.0.0/0"

/-- V006: the whole internet reaches the two web ports only. -/
def openIngress (t : Template) : List Finding :=
  ((ingressRules t).filter fun (_, rule) =>
    isOpenToAll rule && firstPort rule != some 80 && firstPort rule != some 443).map
      fun (id, rule) =>
        ⟨"V006", .warning, id, s!"open to the internet on port {portText (firstPort rule)}"⟩

def findings (t : Template) : List Finding :=
  clientsWithoutProviders t ++ idleListeners t ++ hastyServices t ++ repeatedVariables t
    ++ literalSecrets t ++ openIngress t

def count (severity : Severity) (found : List Finding) : Nat :=
  (found.filter (·.severity == severity)).length

/-- The report as a document. -/
def reportJson (found : List Finding) : Json := .obj [("findings", .arr (found.map Finding.toJson))]

def hasErrors (found : List Finding) : Bool := found.any (·.severity == .error)

end Audit

end StackSynth
