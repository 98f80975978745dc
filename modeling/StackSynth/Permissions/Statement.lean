import StackSynth.Template.Value

/-!
Statements of access policies, the policies that are managed elsewhere, and the services that may
take a role.
-/
namespace StackSynth

def policyVersion : String := "2012-10-17"

inductive Effect
  | allow
  | deny
  deriving DecidableEq, Repr, Inhabited

def Effect.name : Effect → String
  | allow => "Allow"
  | deny => "Deny"

structure PolicyStatement where
  effect : Effect := .allow
  actions : List String
  resources : List Value
  deriving Repr, Inhabited

namespace PolicyStatement

/-- A list of one is written as its only member. -/
def oneOrMany : List Json → Json
  | [only] => only
  | many => .arr many

def toJson (s : PolicyStatement) : Json := .obj [
  ("Action", oneOrMany (s.actions.map .str)),
  ("Effect", .str s.effect.name),
  ("Resource", oneOrMany (s.resources.map Value.toJson))]

end PolicyStatement

/-- The document that lets a service take a role. -/
def assumedBy (service : String) : Json := .obj [
  ("Statement", .arr [.obj [
    ("Action", .str "sts:AssumeRole"),
    ("Effect", .str "Allow"),
    ("Principal", .obj [("Service", .str service)])]]),
  ("Version", .str policyVersion)]

structure ManagedPolicy where
  name : String
  deriving DecidableEq, Repr, Inhabited

def ManagedPolicy.arn (p : ManagedPolicy) : Value :=
  .join "" [.str "arn:", .partition, .str s!":iam::aws:policy/{p.name}"]

end StackSynth
