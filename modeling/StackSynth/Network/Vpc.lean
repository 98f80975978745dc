import StackSynth.Network.Subnet

/-!
Private networks. A network is cut into blocks of one size, one for each subnet, and its subnets are
given routes: the public ones through the gateway to the internet, those with egress through a
gateway in a public subnet.
-/
namespace StackSynth

inductive GatewayService
  | objectStorage
  | tables
  deriving DecidableEq, Repr, Inhabited

namespace GatewayService

def shortName : GatewayService → String
  | objectStorage => "s3"
  | tables => "dynamodb"

def serviceName (s : GatewayService) : Value :=
  .join "" [.str "com.amazonaws.", .region, .str s!".{s.shortName}"]

end GatewayService

structure VpcSettings where
  cidr : String := "10.0.0.0/16"
  zones : UInt64 := 3
  /-- The number of gateways for egress; unless it is set, one for each zone. -/
  natGateways : Option UInt64 := none
  groups : List SubnetGroup := [⟨"Public", .isPublic⟩, ⟨"Private", .withEgress⟩]
  endpoints : OrderedMap GatewayService := ∅
  deriving Inhabited

namespace VpcSettings

def natCount (v : VpcSettings) : UInt64 := v.natGateways.getD v.zones

def hasKind (v : VpcSettings) (kind : SubnetKind) : Bool := v.groups.any (·.kind == kind)

/-- The first group name that is empty or that was there before. -/
def badName? : List String → List SubnetGroup → Option String
  | _, [] => none
  | names, g :: rest =>
    if g.name.isEmpty || names.contains g.name then some g.name
    else badName? (g.name :: names) rest

def needsNat : String := "private subnets with egress need at least one NAT gateway"

/-- The first setting that is not allowed decides. -/
def check (v : VpcSettings) (id : String) : Outcome Unit := do
  if v.zones = 0 then throw (.invalidProps id "max_azs must be at least 1")
  if v.groups.isEmpty then throw (.invalidProps id "at least one subnet group is required")
  match badName? [] v.groups with
  | some name =>
    throw (.invalidProps id s!"subnet group name '{name}' is empty or repeated")
  | none => pure ()
  if v.zones < v.natCount then
    throw (.invalidProps id
      s!"{v.natCount} NAT gateways requested but only {v.zones} availability zones")
  if v.hasKind .withEgress then
    if v.natCount = 0 then throw (.invalidProps id needsNat)
    if !v.hasKind .isPublic then throw (.invalidProps id "NAT gateways need a public subnet group")

end VpcSettings

structure GatewayEndpoint extends Construct where
  service : GatewayService
  deriving DecidableEq, Repr, Inhabited

structure Vpc extends Construct where
  cidr : Cidr
  zones : UInt64
  subnets : List Subnet
  natGatewayIds : List String
  endpoints : List GatewayEndpoint
  deriving Inhabited

namespace Vpc

def vpcId (v : Vpc) : Value := .ref v.logicalId

def availabilityZones (v : Vpc) : List Value :=
  (List.range v.zones.toNat).map fun zone => .availabilityZone (UInt64.ofNat zone)

def subnetsOf (v : Vpc) (kind : SubnetKind) : List Subnet := v.subnets.filter (·.kind == kind)

def subnetIds (v : Vpc) (kind : SubnetKind) : List Value := (v.subnetsOf kind).map Subnet.subnetId

/-- The subnets to run things in: those with egress, or else isolated ones, or else public ones. -/
def workloadSubnets (v : Vpc) : List Subnet :=
  (([SubnetKind.withEgress, .isolated, .isPublic].map v.subnetsOf).find? (!·.isEmpty)).getD []

/-- The routes that have to be there before the network can be reached. -/
def internetRoutes (v : Vpc) : List String := (v.subnetsOf .isPublic).filterMap (·.defaultRouteId)

/-! Declaring a network. -/

def vpcResource (cidr : Cidr) (tagPath : String) : Resource := {
  type := "AWS::EC2::VPC"
  properties := [
    ("CidrBlock", .str cidr.text),
    ("EnableDnsHostnames", .bool true),
    ("EnableDnsSupport", .bool true),
    ("InstanceTenancy", .str "default"),
    ("Tags", .arr [nameTag tagPath])] }

/-- Declares the gateway to the internet and attaches it. -/
def declareGateway (id networkId tagPath : String) : Declaring (String × String) := do
  let gateway ← Stack.declare [id, "IGW"] {
    type := "AWS::EC2::InternetGateway"
    properties := [("Tags", .arr [nameTag tagPath])] }
  let attachment ← Stack.declare [id, "VPCGW"] {
    type := "AWS::EC2::VPCGatewayAttachment"
    properties := [
      ("InternetGatewayId", (Value.ref gateway).toJson),
      ("VpcId", (Value.ref networkId).toJson)] }
  return (gateway, attachment)

/-- Declares the subnets of a group, zone by zone, and gives back the blocks that are left. -/
def declareZones (around : Subnet.Surroundings) (group : SubnetGroup) :
    Nat → Nat → List Cidr → Declaring (List Subnet × List Cidr)
  | _, 0, blocks => return ([], blocks)
  | _, _ + 1, [] =>
    throw (.internal "ran out of address blocks while allocating subnets")
  | zone, left + 1, block :: blocks => do
    let subnet ← Subnet.declare around group zone block
    let (more, blocks) ← declareZones around group (zone + 1) left blocks
    return (subnet :: more, blocks)

def declareGroups (around : Subnet.Surroundings) (zones : Nat) :
    List SubnetGroup → List Cidr → Declaring (List Subnet)
  | [], _ => return []
  | group :: rest, blocks => do
    let (subnets, blocks) ← declareZones around group 0 zones blocks
    let more ← declareGroups around zones rest blocks
    return subnets ++ more

/-- Declares a gateway for egress in a public subnet, which waits for the routes of that subnet. -/
def declareNat (tagPath : String) (subnet : Subnet) : Declaring String := do
  let inner := Text.join "/" (subnet.path.drop 1)
  let tags : Json := .arr [nameTag s!"{tagPath}/{inner}"]
  let address ← Stack.declare (subnet.path ++ ["EIP"]) {
    type := "AWS::EC2::EIP"
    properties := [("Domain", .str "vpc"), ("Tags", tags)] }
  let association ← Stack.lift (LogicalId.ofPath (subnet.path ++ ["RouteTableAssociation"]))
  let nat : Resource := {
    type := "AWS::EC2::NatGateway"
    properties := [
      ("AllocationId", (Value.getAtt address "AllocationId").toJson),
      ("SubnetId", subnet.subnetId.toJson),
      ("Tags", tags)] }
  let waiting := (subnet.defaultRouteId.toList ++ [association]).foldl Resource.addDependency nat
  Stack.declare (subnet.path ++ ["NATGateway"]) waiting

/-- The gateway for a zone; the last one serves the zones that have none of their own. -/
def natFor? (gateways : List String) (zone : Nat) : Option String :=
  (gateways[zone]?).orElse fun _ => gateways.getLast?

/-- Gives a subnet with egress its default route; others stay as they are. -/
def routeEgress (id : String) (gateways : List String) (subnet : Subnet) : Declaring Subnet := do
  if subnet.kind = .withEgress then
    match natFor? gateways subnet.zone with
    | none => throw (.invalidProps id VpcSettings.needsNat)
    | some gateway => do
      let route ← Stack.declare (subnet.path ++ ["DefaultRoute"])
        (Subnet.privateRoute gateway subnet.routeTableId)
      return { subnet with defaultRouteId := some route }
  else return subnet

/-- The route tables that an endpoint is entered in: of the subnets that are not public, if any. -/
def endpointRouteTables (v : Vpc) : List Json :=
  let inner := v.subnets.filter (·.kind != .isPublic)
  ((if inner.isEmpty then v.subnets else inner).map fun s => s.routeTable.toJson)

/-- Declares a way to a service that does not leave the network. -/
def addEndpoint (v : Vpc) (id : String) (service : GatewayService) : Declaring Vpc := do
  let path := v.path ++ [id]
  let logicalId ← Stack.declare (path ++ ["Resource"]) {
    type := "AWS::EC2::VPCEndpoint"
    properties := [
      ("RouteTableIds", .arr v.endpointRouteTables),
      ("ServiceName", service.serviceName.toJson),
      ("VpcEndpointType", .str "Gateway"),
      ("VpcId", v.vpcId.toJson)] }
  return { v with endpoints := v.endpoints ++ [{ path, logicalId, service }] }

/-- Declares a network with all that belongs to it. The number of blocks is a word of sixty-four
bits. -/
def declare (id : String) (settings : VpcSettings) : Declaring Vpc := do
  let cidr ← Stack.lift (Cidr.parse settings.cidr)
  Stack.lift (settings.check id)
  let tagPath := (← get).name ++ "/" ++ id
  let logicalId ← Stack.declare [id, "Resource"] (vpcResource cidr tagPath)
  let gateway ←
    if settings.hasKind .isPublic then some <$> declareGateway id logicalId tagPath else pure none
  let blocks ← Stack.lift (cidr.split (UInt64.ofNat settings.groups.length * settings.zones))
  let around : Subnet.Surroundings := ⟨[id], logicalId, tagPath, gateway⟩
  let subnets ← declareGroups around settings.zones.toNat settings.groups blocks
  let hosts := (subnets.filter (·.kind == .isPublic)).take settings.natCount.toNat
  let natGatewayIds ← hosts.mapM (declareNat tagPath)
  let subnets ← subnets.mapM (routeEgress id natGatewayIds)
  let bare : Vpc :=
    { path := [id], logicalId, cidr, zones := settings.zones, subnets, natGatewayIds,
      endpoints := [] }
  settings.endpoints.entries.foldlM (fun v endpoint => v.addEndpoint endpoint.1 endpoint.2) bare

end Vpc

end StackSynth
