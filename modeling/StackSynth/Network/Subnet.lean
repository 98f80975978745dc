import StackSynth.Network.Cidr
import StackSynth.Stack.Basic

/-!
Subnets of a private network: one for each group and availability zone, with a route table of its
own.
-/
namespace StackSynth

inductive SubnetKind
  | isPublic
  /-- Without an address of its own outside, but with a way out. -/
  | withEgress
  | isolated
  deriving DecidableEq, Repr, Inhabited

namespace SubnetKind

/-- The name in the tags of a subnet. -/
def tag : SubnetKind → String
  | isPublic => "Public"
  | withEgress => "Private"
  | isolated => "Isolated"

/-- The full name. -/
def name : SubnetKind → String
  | isPublic => "Public"
  | withEgress => "PrivateWithEgress"
  | isolated => "PrivateIsolated"

end SubnetKind

structure SubnetGroup where
  name : String
  kind : SubnetKind
  deriving DecidableEq, Repr, Inhabited

structure Subnet extends Construct where
  group : String
  kind : SubnetKind
  cidr : Cidr
  /-- The number of the zone, from zero. -/
  zone : Nat
  routeTableId : String
  defaultRouteId : Option String
  deriving Repr, Inhabited

def anyAddress : String := "0.0.0.0/0"

def tagJson (key value : String) : Json := .obj [("Key", .str key), ("Value", .str value)]

def nameTag (value : String) : Json := tagJson "Name" value

namespace Subnet

def subnetId (s : Subnet) : Value := .ref s.logicalId
def routeTable (s : Subnet) : Value := .ref s.routeTableId

/-- What the subnets of a network have in common. -/
structure Surroundings where
  /-- The path of the network. -/
  path : List String
  networkId : String
  /-- The name in front of all tags. -/
  tagPath : String
  /-- The ids of the gateway to the internet and of what attaches it, if there is one. -/
  gateway : Option (String × String)

def subnetResource (around : Surroundings) (group : SubnetGroup) (zone : Nat) (block : Cidr)
    (tag : String) : Resource := {
  type := "AWS::EC2::Subnet"
  properties := [
    ("AvailabilityZone", (Value.availabilityZone (UInt64.ofNat zone)).toJson),
    ("CidrBlock", .str block.text),
    ("MapPublicIpOnLaunch", .bool (group.kind == .isPublic)),
    ("Tags", .arr [
      tagJson "aws-cdk:subnet-name" group.name,
      tagJson "aws-cdk:subnet-type" group.kind.tag,
      nameTag tag]),
    ("VpcId", (Value.ref around.networkId).toJson)] }

def routeTableResource (around : Surroundings) (tag : String) : Resource := {
  type := "AWS::EC2::RouteTable"
  properties := [
    ("Tags", .arr [nameTag tag]),
    ("VpcId", (Value.ref around.networkId).toJson)] }

def associationResource (routeTableId subnetId : String) : Resource := {
  type := "AWS::EC2::SubnetRouteTableAssociation"
  properties := [
    ("RouteTableId", (Value.ref routeTableId).toJson),
    ("SubnetId", (Value.ref subnetId).toJson)] }

/-- A default route through the gateway to the internet, once that is attached. -/
def publicRoute (gateway attachment routeTableId : String) : Resource := {
  type := "AWS::EC2::Route"
  properties := [
    ("DestinationCidrBlock", .str anyAddress),
    ("GatewayId", (Value.ref gateway).toJson),
    ("RouteTableId", (Value.ref routeTableId).toJson)]
  dependsOn := [attachment] }

/-- A default route through a gateway that translates addresses. -/
def privateRoute (gateway routeTableId : String) : Resource := {
  type := "AWS::EC2::Route"
  properties := [
    ("DestinationCidrBlock", .str anyAddress),
    ("NatGatewayId", (Value.ref gateway).toJson),
    ("RouteTableId", (Value.ref routeTableId).toJson)] }

/-- Declares the subnet of a group in a zone, with its route table. -/
def declare (around : Surroundings) (group : SubnetGroup) (zone : Nat) (block : Cidr) :
    Declaring Subnet := do
  let name := s!"{group.name}Subnet{zone + 1}"
  let path := around.path ++ [name]
  let tag := s!"{around.tagPath}/{name}"
  let logicalId ← Stack.declare (path ++ ["Subnet"]) (subnetResource around group zone block tag)
  let routeTableId ← Stack.declare (path ++ ["RouteTable"]) (routeTableResource around tag)
  let _ ← Stack.declare (path ++ ["RouteTableAssociation"])
    (associationResource routeTableId logicalId)
  let defaultRouteId ← match group.kind, around.gateway with
    | .isPublic, some (gateway, attachment) => do
      let id ← Stack.declare (path ++ ["DefaultRoute"])
        (publicRoute gateway attachment routeTableId)
      pure (some id)
    | _, _ => pure none
  return { path, logicalId, group := group.name, kind := group.kind, cidr := block, zone,
           routeTableId, defaultRouteId }

end Subnet

end StackSynth
