import StackSynth.Network.Vpc

/-!
Security groups: which traffic may reach what stands behind them, and which may leave it.
-/
namespace StackSynth

structure SecurityGroup extends Construct where
  allowsAllOutbound : Bool
  deriving DecidableEq, Repr, Inhabited

namespace SecurityGroup

/-- Leave for everything, or a rule that no traffic meets. -/
def egressRule (allowsAllOutbound : Bool) : Json :=
  if allowsAllOutbound then .obj [
    ("CidrIp", .str anyAddress),
    ("Description", .str "Allow all outbound traffic by default"),
    ("IpProtocol", .str "-1")]
  else .obj [
    ("CidrIp", .str "255.255.255.255/32"),
    ("Description", .str "Disallow all traffic"),
    ("FromPort", .nat 252),
    ("IpProtocol", .str "icmp"),
    ("ToPort", .nat 86)]

/-- Declares a security group below `scope`; it is described by its path unless it is said how. -/
def declare (scope : List String) (id : String) (vpc : Vpc) (description : Option String)
    (allowsAllOutbound : Bool) : Declaring SecurityGroup := do
  let path := scope ++ [id]
  let text := description.getD ((← get).name ++ "/" ++ Text.join "/" path)
  let logicalId ← Stack.declare (path ++ ["Resource"]) {
    type := "AWS::EC2::SecurityGroup"
    properties := [
      ("GroupDescription", .str text),
      ("SecurityGroupEgress", .arr [egressRule allowsAllOutbound]),
      ("VpcId", vpc.vpcId.toJson)] }
  return { path, logicalId, allowsAllOutbound }

def groupId (g : SecurityGroup) : Value := .getAtt g.logicalId "GroupId"

/-- Lets addresses of a block in on a port. -/
def allowFromBlock (g : SecurityGroup) (block : String) (port : UInt16) (description : String) :
    Declaring Unit :=
  Stack.pushProperty g.logicalId "SecurityGroupIngress" (.obj [
    ("CidrIp", .str block),
    ("Description", .str description),
    ("FromPort", .nat port.toUInt64),
    ("IpProtocol", .str "tcp"),
    ("ToPort", .nat port.toUInt64)])

/-- Lets the members of another group in on a port, which they have to be let out on as well. -/
def allowFrom (g peer : SecurityGroup) (port : UInt16) (description : String) :
    Declaring Unit := do
  let _ ← Stack.declare (g.path ++ [s!"from {peer.logicalId}:{port}"]) {
    type := "AWS::EC2::SecurityGroupIngress"
    properties := [
      ("Description", .str description),
      ("FromPort", .nat port.toUInt64),
      ("GroupId", g.groupId.toJson),
      ("IpProtocol", .str "tcp"),
      ("SourceSecurityGroupId", peer.groupId.toJson),
      ("ToPort", .nat port.toUInt64)] }
  if !peer.allowsAllOutbound then
    let _ ← Stack.declare (peer.path ++ [s!"to {g.logicalId}:{port}"]) {
      type := "AWS::EC2::SecurityGroupEgress"
      properties := [
        ("Description", .str description),
        ("DestinationSecurityGroupId", g.groupId.toJson),
        ("FromPort", .nat port.toUInt64),
        ("GroupId", peer.groupId.toJson),
        ("IpProtocol", .str "tcp"),
        ("ToPort", .nat port.toUInt64)] }

end SecurityGroup

end StackSynth
