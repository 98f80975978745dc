import StackSynth.Network.Vpc
import StackSynth.Proofs.Stack.Additions
import StackSynth.Proofs.Stack.Allocation

/-!
How a network routes what its subnets send. The layout of a network lists the parts that routing is
about; it is told by the subnets and the gateways for egress alone, however many groups and zones
there are.
-/
namespace StackSynth

/-- The logical id that a property refers to. -/
def Resource.referred? (r : Resource) (key : String) : Option String :=
  ((r.property? key).bind (·.field? "Ref")).bind Json.asStr?

/-- The parts of a network that routing is about, each kind in the order of its declaration. -/
structure Layout where
  gateways : List String := []
  attachments : List String := []
  /-- The subnets, each with its property that says in which zone it is. -/
  subnets : List (String × Option Json) := []
  tables : List String := []
  associations : List Resource := []
  routes : List Resource := []
  /-- The gateways for egress, each with its property that says in which subnet it is. -/
  nats : List (String × Option Json) := []

namespace Layout

def ofType (type : String) (added : List Declaration) : List Declaration :=
  added.filter (·.2.resource.type == type)

def idsOf (type : String) (added : List Declaration) : List String :=
  (ofType type added).map (·.1)

def resourcesOf (type : String) (added : List Declaration) : List Resource :=
  (ofType type added).map (·.2.resource)

/-- The resources of a type, each with one of its properties. -/
def keyed (type key : String) (added : List Declaration) : List (String × Option Json) :=
  (ofType type added).map fun entry => (entry.1, entry.2.resource.property? key)

def of (added : List Declaration) : Layout where
  gateways := idsOf "AWS::EC2::InternetGateway" added
  attachments := idsOf "AWS::EC2::VPCGatewayAttachment" added
  subnets := keyed "AWS::EC2::Subnet" "AvailabilityZone" added
  tables := idsOf "AWS::EC2::RouteTable" added
  associations := resourcesOf "AWS::EC2::SubnetRouteTableAssociation" added
  routes := resourcesOf "AWS::EC2::Route" added
  nats := keyed "AWS::EC2::NatGateway" "SubnetId" added

instance : Append Layout where
  append a b := {
    gateways := a.gateways ++ b.gateways
    attachments := a.attachments ++ b.attachments
    subnets := a.subnets ++ b.subnets
    tables := a.tables ++ b.tables
    associations := a.associations ++ b.associations
    routes := a.routes ++ b.routes
    nats := a.nats ++ b.nats }

theorem append_eq (a b : Layout) : a ++ b = {
    gateways := a.gateways ++ b.gateways
    attachments := a.attachments ++ b.attachments
    subnets := a.subnets ++ b.subnets
    tables := a.tables ++ b.tables
    associations := a.associations ++ b.associations
    routes := a.routes ++ b.routes
    nats := a.nats ++ b.nats } := rfl

theorem of_append (a b : List Declaration) : of (a ++ b) = of a ++ of b := by
  simp only [of, idsOf, resourcesOf, keyed, ofType, List.filter_append, List.map_append]
  rfl

end Layout

namespace Subnet

/-- The route of a subnet through the gateway to the internet, if it has one. -/
def inwardRoutes (gateway : Option (String × String)) (subnet : Subnet) : List Resource :=
  match subnet.kind, gateway with
  | .isPublic, some (gateway, attachment) => [publicRoute gateway attachment subnet.routeTableId]
  | _, _ => []

/-- The route of a subnet through a gateway for egress, if it has one. -/
def outwardRoutes (nats : List String) (subnet : Subnet) : List Resource :=
  match subnet.kind, Vpc.natFor? nats subnet.zone with
  | .withEgress, some nat => [privateRoute nat subnet.routeTableId]
  | _, _ => []

theorem no_outward_routes {nats : List String} {subnet : Subnet}
    (kind : subnet.kind ≠ .withEgress) : subnet.outwardRoutes nats = [] := by
  unfold outwardRoutes
  split
  · next same _ => exact absurd same kind
  · rfl

def association (subnet : Subnet) : Resource :=
  associationResource subnet.routeTableId subnet.logicalId

/-- The group of a subnet with its kind, and the zone. -/
def place (subnet : Subnet) : String × SubnetKind × Nat := (subnet.group, subnet.kind, subnet.zone)

/-- The zone of a subnet, as its property says it. -/
def zoneJson (subnet : Subnet) : Json := (Value.availabilityZone (UInt64.ofNat subnet.zone)).toJson

/-- What subnets add to a layout on their own. -/
def layout (gateway : Option (String × String)) (subnets : List Subnet) : Layout where
  subnets := subnets.map fun subnet => (subnet.logicalId, some subnet.zoneJson)
  tables := subnets.map (·.routeTableId)
  associations := subnets.map association
  routes := subnets.flatMap (inwardRoutes gateway)

theorem layout_append (gateway : Option (String × String)) (a b : List Subnet) :
    layout gateway (a ++ b) = layout gateway a ++ layout gateway b := by
  simp only [layout, List.map_append, List.flatMap_append]
  rfl

/-- The subnet as it is before it is given a route. -/
def bare (subnet : Subnet) : Subnet := { subnet with defaultRouteId := none }

theorem map_of_bare {α : Type} {f : Subnet → α} {a b : List Subnet}
    (same : a.map bare = b.map bare) (blind : ∀ subnet, f subnet.bare = f subnet) :
    a.map f = b.map f := by
  have through : ∀ l : List Subnet, l.map f = (l.map bare).map f := fun l => by
    rw [List.map_map]
    exact List.map_congr_left fun subnet _ => (blind subnet).symm
  rw [through a, through b, same]

theorem layout_of_bare {a b : List Subnet} (same : a.map bare = b.map bare)
    (gateway : Option (String × String)) : layout gateway a = layout gateway b := by
  simp only [layout, List.flatMap_def]
  rw [map_of_bare same fun _ => rfl, map_of_bare same fun _ => rfl, map_of_bare same fun _ => rfl,
    map_of_bare same fun _ => rfl]

theorem public_of_bare {a b : List Subnet} (same : a.map bare = b.map bare) :
    (a.filter (·.kind == .isPublic)).map bare = (b.filter (·.kind == .isPublic)).map bare := by
  have through : ∀ l : List Subnet, (l.filter (·.kind == .isPublic)).map bare =
      (l.map bare).filter (·.kind == .isPublic) := fun l => by
    rw [List.filter_map]
    rfl
  rw [through a, through b, same]

theorem declare_adds {around : Surroundings} {group : SubnetGroup} {zone : Nat} {block : Cidr} :
    Adds (declare around group zone block) fun subnet added =>
      Layout.of added = layout around.gateway [subnet] ∧
        subnet.place = (group.name, group.kind, zone) := by
  unfold declare
  extract_lets name path tag
  refine adds_bind (adds_declare _ _) fun logicalId _ same => ?_
  subst same
  refine adds_bind (adds_declare _ _) fun tableId _ same => ?_
  subst same
  refine adds_bind (adds_declare _ _) fun associationId _ same => ?_
  subst same
  extract_lets finish
  split
  · next gateway attachment kind present =>
    refine adds_bind (adds_declare _ _) fun route _ same => ?_
    subst same
    rw [pure_bind]
    refine adds_pure ⟨?_, rfl⟩
    simp only [layout, inwardRoutes, List.map_cons, List.map_nil, List.flatMap_cons, kind, present]
    rfl
  · rw [pure_bind]
    refine adds_pure ⟨?_, rfl⟩
    simp only [layout, List.map_cons, List.map_nil, List.flatMap_cons, List.flatMap_nil,
      inwardRoutes]
    rfl

end Subnet

namespace Vpc

variable {gateway : Option (String × String)} {nats : List String}

theorem declare_zones_adds {around : Subnet.Surroundings} {group : SubnetGroup} (left : Nat) :
    ∀ (zone : Nat) (blocks : List Cidr), Adds (declareZones around group zone left blocks)
      fun result added => Layout.of added = Subnet.layout around.gateway result.1 ∧
        result.1.map Subnet.place =
          (List.range' zone left).map fun zone => (group.name, group.kind, zone) := by
  induction left with
  | zero => exact fun zone blocks => adds_pure ⟨rfl, rfl⟩
  | succ left ih =>
    intro zone blocks
    cases blocks with
    | nil => exact adds_throw
    | cons block rest =>
      refine adds_bind Subnet.declare_adds fun subnet first ⟨laid, place⟩ => ?_
      refine adds_bind (ih (zone + 1) rest) fun result more ⟨others, places⟩ => adds_pure ⟨?_, ?_⟩
      · rw [List.append_nil, Layout.of_append, laid, others]
        exact (Subnet.layout_append _ [subnet] result.1).symm
      · rw [List.map_cons, place, places, List.range'_succ, List.map_cons]

/-- The places for subnets, group by group. -/
def places (zones : Nat) (groups : List SubnetGroup) : List (String × SubnetKind × Nat) :=
  groups.flatMap fun group => (List.range zones).map fun zone => (group.name, group.kind, zone)

theorem declare_groups_adds {around : Subnet.Surroundings} (zones : Nat)
    (groups : List SubnetGroup) : ∀ blocks : List Cidr,
      Adds (declareGroups around zones groups blocks) fun subnets added =>
        Layout.of added = Subnet.layout around.gateway subnets ∧
          subnets.map Subnet.place = places zones groups := by
  induction groups with
  | nil => exact fun blocks => adds_pure ⟨rfl, rfl⟩
  | cons group rest ih =>
    intro blocks
    refine adds_bind (declare_zones_adds zones 0 blocks) fun result first ⟨laid, here⟩ => ?_
    refine adds_bind (ih result.2) fun subnets more ⟨others, later⟩ => adds_pure ⟨?_, ?_⟩
    · rw [List.append_nil, Layout.of_append, laid, others, Subnet.layout_append]
    · rw [List.map_append, here, later, places, places, List.flatMap_cons, List.range_eq_range']

theorem declare_gateway_adds {id networkId tagPath : String} :
    Adds (declareGateway id networkId tagPath) fun ids added =>
      Layout.of added = { gateways := [ids.1], attachments := [ids.2] } := by
  unfold declareGateway
  refine adds_bind (adds_declare _ _) fun gateway _ same => ?_
  subst same
  refine adds_bind (adds_declare _ _) fun attachment _ same => adds_pure ?_
  subst same
  rfl

/-- A gateway for egress is in the subnet that it is declared for. -/
theorem declare_nat_adds {tagPath : String} {subnet : Subnet} :
    Adds (declareNat tagPath subnet) fun nat added =>
      Layout.of added = { nats := [(nat, some subnet.subnetId.toJson)] } := by
  unfold declareNat
  extract_lets inner tags
  refine adds_bind (adds_declare _ _) fun address _ same => ?_
  subst same
  refine adds_lift fun association _ => ?_
  extract_lets nat waiting
  refine adds_imp (adds_declare _ _) fun id _ same => ?_
  subst same
  have same : waiting = { nat with dependsOn := waiting.dependsOn } :=
    Resource.add_dependencies_eq _ nat
  rw [same]
  rfl

theorem declare_nats_adds {tagPath : String} {hosts : List Subnet} :
    Adds (hosts.mapM (declareNat tagPath)) fun nats added => nats.length = hosts.length ∧
      Layout.of added = { nats := nats.zip (hosts.map fun host => some host.subnetId.toJson) } := by
  induction hosts with
  | nil => exact adds_pure ⟨rfl, rfl⟩
  | cons host rest ih =>
    rw [List.mapM_cons]
    refine adds_bind declare_nat_adds fun nat first laid => ?_
    refine adds_bind ih fun nats more ⟨length, others⟩ => adds_pure ⟨?_, ?_⟩
    · rw [List.length_cons, List.length_cons, length]
    · rw [List.append_nil, Layout.of_append, laid, others]
      rfl

theorem route_egress_adds {id : String} {subnet : Subnet} :
    Adds (routeEgress id nats subnet) fun routed added =>
      Layout.of added = { routes := subnet.outwardRoutes nats } ∧
        routed = { subnet with defaultRouteId := routed.defaultRouteId } := by
  unfold routeEgress
  split
  · next kind =>
    split
    · exact adds_throw
    · next nat found =>
      refine adds_bind (adds_declare _ _) fun route _ same => adds_pure ⟨?_, rfl⟩
      subst same
      simp only [Subnet.outwardRoutes, kind, found]
      rfl
  · next kind =>
    refine adds_pure ⟨?_, rfl⟩
    rw [Subnet.no_outward_routes kind]
    rfl

theorem route_all_egress_adds {id : String} {subnets : List Subnet} :
    Adds (subnets.mapM (routeEgress id nats)) fun routed added =>
      Layout.of added = { routes := routed.flatMap (Subnet.outwardRoutes nats) } ∧
        routed.map Subnet.bare = subnets.map Subnet.bare := by
  induction subnets with
  | nil => exact adds_pure ⟨rfl, rfl⟩
  | cons subnet rest ih =>
    rw [List.mapM_cons]
    refine adds_bind route_egress_adds fun routed first ⟨laid, same⟩ => ?_
    refine adds_bind ih fun all more ⟨others, places⟩ => adds_pure ?_
    have outward : subnet.outwardRoutes nats = routed.outwardRoutes nats := by
      rw [same]
      rfl
    have bare : routed.bare = subnet.bare := by
      rw [same]
      rfl
    refine ⟨?_, ?_⟩
    · rw [List.append_nil, Layout.of_append, laid, others, outward]
      rfl
    · rw [List.map_cons, List.map_cons, bare, places]

theorem add_endpoint_adds {vpc : Vpc} {id : String} {service : GatewayService} :
    Adds (vpc.addEndpoint id service) fun grown added =>
      Layout.of added = {} ∧ grown = { vpc with endpoints := grown.endpoints } := by
  unfold addEndpoint
  extract_lets path
  refine adds_bind (adds_declare _ _) fun logicalId _ same => adds_pure ⟨?_, rfl⟩
  subst same
  rfl

theorem add_endpoints_adds {endpoints : List (String × GatewayService)} {vpc : Vpc} :
    Adds (endpoints.foldlM (fun v endpoint => v.addEndpoint endpoint.1 endpoint.2) vpc)
      fun grown added => Layout.of added = {} ∧
        grown = { vpc with endpoints := grown.endpoints } := by
  induction endpoints generalizing vpc with
  | nil => exact adds_pure ⟨rfl, rfl⟩
  | cons endpoint rest ih =>
    rw [List.foldlM_cons]
    refine adds_bind add_endpoint_adds fun grown first ⟨laid, same⟩ => ?_
    refine adds_imp ih fun all more ⟨others, grown_more⟩ => ⟨?_, ?_⟩
    · rw [Layout.of_append, laid, others]
      rfl
    · rw [grown_more, same]

/-- The subnets that gateways for egress are declared in. -/
def hosts (vpc : Vpc) (count : Nat) : List Subnet := (vpc.subnetsOf .isPublic).take count

/-- The layout of a network that was declared with some gateway to the internet, or none. -/
def layout (gateway : Option (String × String)) (vpc : Vpc) (count : Nat) : Layout :=
  ({ gateways := (gateway.map (·.1)).toList, attachments := (gateway.map (·.2)).toList } : Layout)
    ++ Subnet.layout gateway vpc.subnets
    ++ ({ routes := vpc.subnets.flatMap (Subnet.outwardRoutes vpc.natGatewayIds)
          nats := vpc.natGatewayIds.zip
            ((vpc.hosts count).map fun host => some host.subnetId.toJson) } : Layout)

/-- What a network that has been declared consists of. -/
structure LaidOut (settings : VpcSettings) (vpc : Vpc) (layout : Layout) : Prop where
  places : vpc.subnets.map Subnet.place = places settings.zones.toNat settings.groups
  nats : vpc.natGatewayIds.length = (vpc.hosts settings.natCount.toNat).length
  layout : ∃ gateway : Option (String × String), gateway.isSome = settings.hasKind .isPublic ∧
    layout = vpc.layout gateway settings.natCount.toNat

theorem declare_adds {id : String} {settings : VpcSettings} :
    Adds (declare id settings) fun vpc added => settings.check id = .ok () ∧
      LaidOut settings vpc (Layout.of added) := by
  unfold declare
  refine adds_lift fun cidr _ => adds_lift fun _ allowed => adds_get fun s => ?_
  extract_lets tagPath
  refine adds_bind (adds_declare _ _) fun logicalId _ same => ?_
  subst same
  extract_lets finish
  have finished : ∀ (gateway : Option (String × String)) (opened : List Declaration),
      gateway.isSome = settings.hasKind .isPublic →
      Layout.of opened = { gateways := (gateway.map (·.1)).toList
                           attachments := (gateway.map (·.2)).toList } →
      Adds (finish gateway) fun vpc more => settings.check id = .ok () ∧
        LaidOut settings vpc (Layout.of (opened ++ more)) := by
    intro gateway opened present laid
    refine adds_lift fun blocks _ => ?_
    extract_lets around
    refine adds_bind (declare_groups_adds settings.zones.toNat settings.groups blocks)
      fun subnets first ⟨subnets_laid, places⟩ => ?_
    extract_lets hosts
    refine adds_bind declare_nats_adds fun nats second ⟨length, nats_laid⟩ => ?_
    refine adds_bind route_all_egress_adds fun routed third ⟨routes_laid, same⟩ => ?_
    extract_lets bare
    refine adds_imp add_endpoints_adds fun vpc fourth ⟨nothing, grown⟩ => ⟨allowed, ?_⟩
    have subnets_laid : Layout.of first = Subnet.layout gateway subnets := subnets_laid
    have subnets_same : vpc.subnets = routed := by rw [grown]
    have nats_same : vpc.natGatewayIds = nats := by rw [grown]
    have hosts_bare : (vpc.hosts settings.natCount.toNat).map Subnet.bare =
        hosts.map Subnet.bare := by
      unfold Vpc.hosts subnetsOf
      rw [subnets_same, List.map_take, Subnet.public_of_bare same, ← List.map_take]
    refine ⟨?_, ?_, gateway, present, ?_⟩
    · rw [subnets_same, Subnet.map_of_bare same fun _ => rfl, places]
    · rw [nats_same, length]
      simpa using (congrArg List.length hosts_bare).symm
    · have host_ids : hosts.map (fun host => some host.subnetId.toJson) =
          (vpc.hosts settings.natCount.toNat).map fun host => some host.subnetId.toJson :=
        (Subnet.map_of_bare hosts_bare fun _ => rfl).symm
      rw [Layout.of_append, Layout.of_append, Layout.of_append, Layout.of_append, laid,
        subnets_laid, nats_laid, routes_laid, nothing, layout, subnets_same, nats_same,
        Subnet.layout_of_bare same, host_ids]
      simp [Layout.append_eq]
  split
  · next opens =>
    refine adds_bind (adds_map (R := fun gateway added =>
        gateway.isSome = settings.hasKind .isPublic ∧
          Layout.of added = { gateways := (gateway.map (·.1)).toList
                              attachments := (gateway.map (·.2)).toList })
      declare_gateway_adds fun ids added laid => ⟨opens.symm, laid⟩)
      fun gateway added ⟨present, laid⟩ => ?_
    have opened := finished gateway
      ([(logicalId, ⟨[id, "Resource"], vpcResource cidr tagPath⟩)] ++ added) present (by
        rw [Layout.of_append, laid]
        rfl)
    simpa only [List.append_assoc] using opened
  · next closed =>
    rw [pure_bind]
    exact finished none _ (by simpa using closed) rfl

end Vpc

/-! What the layout says of each subnet. -/

namespace VpcSettings

variable {settings : VpcSettings} {id : String}

end VpcSettings

namespace Subnet

end Subnet

namespace Vpc

variable {settings : VpcSettings} {vpc : Vpc} {id : String} {layout : Layout}
variable {zones count : Nat} {groups : List SubnetGroup} {gateway : Option (String × String)}

theorem places_append (before after : List SubnetGroup) :
    places zones (before ++ after) = places zones before ++ places zones after :=
  List.flatMap_append

end Vpc

end StackSynth
