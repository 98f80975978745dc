import StackSynth.Network.Vpc
import StackSynth.Proofs.Constructs.Permissions

/-!
Private networks, as steps of a stack. Whatever a part of a network needs was
declared before it, the gateways for egress between the routes of public and of other subnets.
-/
namespace StackSynth

variable {t : Terms} {s s' : Stack} {id : String}

namespace Subnet

variable {subnet : Subnet} {around : Surroundings}

/-- All that later parts of a network take a subnet for. -/
structure Valid (subnet : Subnet) (s : Stack) : Prop where
  itself : subnet.toConstruct.Stands s "Subnet" "AWS::EC2::Subnet"
  table : ∃ path, s.At subnet.routeTableId path "AWS::EC2::RouteTable"
  association : ∃ id, LogicalId.ofPath (subnet.path ++ ["RouteTableAssociation"]) = .ok id ∧
    ∃ path, s.At id path "AWS::EC2::SubnetRouteTableAssociation"
  route : ∀ route ∈ subnet.defaultRouteId.toList, ∃ path, s.At route path "AWS::EC2::Route"

theorem Valid.grows (valid : subnet.Valid s) (grows : s.Grows s') : subnet.Valid s' := by
  obtain ⟨itself, ⟨table, there⟩, ⟨id, named, path, joined⟩, route⟩ := valid
  refine ⟨grows.at_ itself, ⟨table, grows.at_ there⟩, ⟨id, named, path, grows.at_ joined⟩, ?_⟩
  intro default listed
  obtain ⟨path, known⟩ := route default listed
  exact ⟨path, grows.at_ known⟩

structure Surroundings.Valid (around : Surroundings) (s : Stack) : Prop where
  network : ∃ path, s.At around.networkId path "AWS::EC2::VPC"
  gateway : ∀ gateway attachment, around.gateway = some (gateway, attachment) →
    (∃ path, s.At gateway path "AWS::EC2::InternetGateway") ∧
    ∃ path, s.At attachment path "AWS::EC2::VPCGatewayAttachment"

theorem Surroundings.Valid.grows (valid : around.Valid s) (grows : s.Grows s') :
    around.Valid s' := by
  obtain ⟨⟨path, network⟩, gateway⟩ := valid
  refine ⟨⟨path, grows.at_ network⟩, fun g a same => ?_⟩
  obtain ⟨⟨_, there⟩, ⟨_, attached⟩⟩ := gateway g a same
  exact ⟨⟨_, grows.at_ there⟩, ⟨_, grows.at_ attached⟩⟩

end Subnet

namespace Vpc

/-- The types of what a network consists of. -/
def types : List String := [
  "AWS::EC2::VPC", "AWS::EC2::InternetGateway", "AWS::EC2::VPCGatewayAttachment",
  "AWS::EC2::Subnet", "AWS::EC2::RouteTable", "AWS::EC2::SubnetRouteTableAssociation",
  "AWS::EC2::Route", "AWS::EC2::EIP", "AWS::EC2::NatGateway", "AWS::EC2::VPCEndpoint"]

/-- All that belongs to a network may be declared below its path. -/
def Allowed (t : Terms) (path : List String) : Prop :=
  ∀ below type, path <+: below → type ∈ types → t.declares below type

/-- Parts of a network only need other parts. -/
theorem fits_part {path below : List String} {leaf : String} {r : Resource} (type : String)
    (same : r.type = type) (allowed : Allowed t path) (inside : path <+: below)
    (part : type ∈ types) (name : leaf ≠ "Handler")
    (document : r.property? "PolicyDocument" = none) (within : r.Within (Admits t s type)) :
    Fits t s (below ++ [leaf]) r := by
  refine fits_plain type same (allowed _ type (inside.trans (List.prefix_append _ _)) part) within
    (absurd document) (by simpa using name) fun late => ?_
  have apart : ∀ type ∈ types, type ∉ "AWS::IAM::Policy" :: inspectedTypes := by decide
  exact apart type part late

theorem declare_part_obeys {path : List String} {r : Resource} (below : List String)
    (leaf type : String) (same : r.type = type) (allowed : Allowed t path)
    (inside : path <+: below) (part : type ∈ types) (name : leaf ≠ "Handler")
    (document : r.property? "PolicyDocument" = none) (within : r.Within (Admits t s type)) :
    Obeys t s (Stack.declare (below ++ [leaf]) r) fun id s' => s'.At id (below ++ [leaf]) type := by
  have fits := fits_part type same allowed inside part name document within
  exact obeys_imp (obeys_declare fits) fun _ _ _ _ declared => declared.at_ same

theorem admits_part {path : List String} {target type lower : String}
    (there : s.At target path lower) (part : type ∈ types) (lower_part : lower ∈ types) :
    Admits t s type target := by
  have lowest : ∀ type ∈ types, layer type = 0 := by decide
  exact .below there (.inr ⟨lowest lower lower_part, lowest type part⟩)

end Vpc

namespace Subnet

variable {subnet : Subnet} {around : Surroundings}

section Within

variable {P : String → Prop} {group : SubnetGroup} {zone : Nat} {block : Cidr}
variable {tag tableId gateway attachment : String}

theorem subnet_resource_within (network : P around.networkId) :
    (subnetResource around group zone block tag).Within P := by
  simp [Resource.within_iff, subnetResource, tagJson, nameTag, network]

theorem route_table_resource_within (network : P around.networkId) :
    (routeTableResource around tag).Within P := by
  simp [Resource.within_iff, routeTableResource, tagJson, nameTag, network]

theorem association_resource_within {subnetId : String} (table : P tableId) (itself : P subnetId) :
    (associationResource tableId subnetId).Within P := by
  simp [Resource.within_iff, associationResource, table, itself]

theorem public_route_within (opened : P gateway) (attached : P attachment) (table : P tableId) :
    (publicRoute gateway attachment tableId).Within P := by
  simp [Resource.within_iff, publicRoute, opened, attached, table]

theorem private_route_within (there : P gateway) (table : P tableId) :
    (privateRoute gateway tableId).Within P := by
  simp [Resource.within_iff, privateRoute, there, table]

end Within

theorem declare_obeys {group : SubnetGroup} {zone : Nat} {block : Cidr} (valid : around.Valid s)
    (allowed : Vpc.Allowed t around.path) :
    Obeys t s (declare around group zone block) fun subnet s' =>
      subnet.Valid s' ∧ around.path <+: subnet.path := by
  unfold declare
  extract_lets name path tag
  have inside : around.path <+: path := List.prefix_append _ _
  obtain ⟨_, network⟩ := valid.network
  have subnet_within : (subnetResource around group zone block tag).Within
      (Admits t s "AWS::EC2::Subnet") :=
    subnet_resource_within (Vpc.admits_part network (by decide) (by decide))
  refine obeys_bind (Vpc.declare_part_obeys path "Subnet" "AWS::EC2::Subnet" rfl allowed
    inside (by decide) (by decide) rfl subnet_within) fun logicalId s₁ first itself => ?_
  have table_within : (routeTableResource around tag).Within
      (Admits t s₁ "AWS::EC2::RouteTable") :=
    route_table_resource_within (Vpc.admits_part (first.at_ network) (by decide) (by decide))
  refine obeys_bind (Vpc.declare_part_obeys path "RouteTable" "AWS::EC2::RouteTable" rfl allowed
    inside (by decide) (by decide) rfl table_within) fun tableId s₂ second table => ?_
  have association_within : (associationResource tableId logicalId).Within
      (Admits t s₂ "AWS::EC2::SubnetRouteTableAssociation") :=
    association_resource_within (Vpc.admits_part table (by decide) (by decide))
      (Vpc.admits_part (second.at_ itself) (by decide) (by decide))
  have association_fits : Fits t s₂ (path ++ ["RouteTableAssociation"])
      (associationResource tableId logicalId) :=
    Vpc.fits_part "AWS::EC2::SubnetRouteTableAssociation" rfl allowed inside (by decide)
      (by decide) rfl association_within
  refine obeys_bind (obeys_declare association_fits) fun associationId s₃ third joined => ?_
  extract_lets finish
  have finished : ∀ (s' : Stack) (defaultRouteId : Option String), s₃.Grows s' →
      (∀ route ∈ defaultRouteId.toList, ∃ path, s'.At route path "AWS::EC2::Route") →
      Obeys t s' (finish defaultRouteId) fun subnet s' =>
        subnet.Valid s' ∧ around.path <+: subnet.path := fun s' defaultRouteId more route =>
    obeys_pure ⟨⟨more.at_ (third.at_ (second.at_ itself)), ⟨_, more.at_ (third.at_ table)⟩,
      ⟨associationId, joined.named, _, more.at_ joined.there⟩, route⟩, inside⟩
  split
  · next gateway attachment _ present =>
    have reached := valid.grows (Stack.grows_trans first (Stack.grows_trans second third))
    obtain ⟨⟨_, opened⟩, ⟨_, attached⟩⟩ := reached.gateway gateway attachment present
    have route_within : (publicRoute gateway attachment tableId).Within
        (Admits t s₃ "AWS::EC2::Route") :=
      public_route_within (Vpc.admits_part opened (by decide) (by decide))
        (Vpc.admits_part attached (by decide) (by decide))
        (Vpc.admits_part (third.at_ table) (by decide) (by decide))
    refine obeys_bind (Vpc.declare_part_obeys path "DefaultRoute" "AWS::EC2::Route" rfl allowed
      inside (by decide) (by decide) rfl route_within) fun route s₄ more routed => ?_
    rw [pure_bind]
    refine finished s₄ (some route) more fun other listed => ?_
    cases Option.mem_toList.mp listed
    exact ⟨_, routed⟩
  · rw [pure_bind]
    exact finished s₃ none (Stack.grows_refl s₃) (by simp)

end Subnet

namespace GatewayEndpoint

def Valid (e : GatewayEndpoint) (s : Stack) : Prop :=
  e.toConstruct.Stands s "Resource" "AWS::EC2::VPCEndpoint"

end GatewayEndpoint

namespace Vpc

variable {vpc : Vpc} {around : Subnet.Surroundings}

structure Valid (vpc : Vpc) (s : Stack) : Prop where
  itself : vpc.toConstruct.Stands s "Resource" "AWS::EC2::VPC"
  subnets : ∀ subnet ∈ vpc.subnets, subnet.Valid s
  endpoints : ∀ endpoint ∈ vpc.endpoints, endpoint.Valid s

theorem Valid.grows (valid : vpc.Valid s) (grows : s.Grows s') : vpc.Valid s' :=
  ⟨grows.at_ valid.itself, fun subnet listed => (valid.subnets subnet listed).grows grows,
    fun endpoint listed => grows.at_ (valid.endpoints endpoint listed)⟩

theorem declare_gateway_obeys {networkId tagPath : String} (allowed : Allowed t [id])
    (network : ∃ path, s.At networkId path "AWS::EC2::VPC") :
    Obeys t s (declareGateway id networkId tagPath) fun ids s' =>
      (∃ path, s'.At ids.1 path "AWS::EC2::InternetGateway") ∧
      ∃ path, s'.At ids.2 path "AWS::EC2::VPCGatewayAttachment" := by
  unfold declareGateway
  obtain ⟨_, network⟩ := network
  have gateway_within : ({
      type := "AWS::EC2::InternetGateway"
      properties := [("Tags", .arr [nameTag tagPath])] } : Resource).Within
      (Admits t s "AWS::EC2::InternetGateway") := by
    simp [Resource.within_iff, nameTag, tagJson]
  refine obeys_bind (declare_part_obeys [id] "IGW" "AWS::EC2::InternetGateway" rfl allowed
    (List.prefix_refl _) (by decide) (by decide) rfl gateway_within)
    fun gateway s₁ first opened => ?_
  have attachment_within : ({
      type := "AWS::EC2::VPCGatewayAttachment"
      properties := [
        ("InternetGatewayId", (Value.ref gateway).toJson),
        ("VpcId", (Value.ref networkId).toJson)] } : Resource).Within
      (Admits t s₁ "AWS::EC2::VPCGatewayAttachment") := by
    have admitted : Admits t s₁ "AWS::EC2::VPCGatewayAttachment" networkId :=
      admits_part (first.at_ network) (by decide) (by decide)
    have admitted_gateway : Admits t s₁ "AWS::EC2::VPCGatewayAttachment" gateway :=
      admits_part opened (by decide) (by decide)
    simp [Resource.within_iff, admitted, admitted_gateway]
  exact obeys_bind (declare_part_obeys [id] "VPCGW" "AWS::EC2::VPCGatewayAttachment" rfl allowed
    (List.prefix_refl _) (by decide) (by decide) rfl attachment_within)
    fun attachment s₂ second attached =>
      obeys_pure ⟨⟨_, second.at_ opened⟩, ⟨_, attached⟩⟩

/-- Subnets that are there, all below the network. -/
def Placed (path : List String) (subnets : List Subnet) (s : Stack) : Prop :=
  ∀ subnet ∈ subnets, subnet.Valid s ∧ path <+: subnet.path

theorem Placed.grows {path : List String} {subnets : List Subnet} (placed : Placed path subnets s)
    (grows : s.Grows s') : Placed path subnets s' := fun subnet listed =>
  ⟨(placed subnet listed).1.grows grows, (placed subnet listed).2⟩

theorem declare_zones_obeys {group : SubnetGroup} (allowed : Allowed t around.path) (left : Nat) :
    ∀ (zone : Nat) (blocks : List Cidr) (s : Stack), around.Valid s →
      Obeys t s (declareZones around group zone left blocks) fun result s' =>
        Placed around.path result.1 s' := by
  induction left with
  | zero => intro zone blocks s _; exact obeys_pure (by simp [Placed])
  | succ left ih =>
    intro zone blocks s valid
    cases blocks with
    | nil => exact obeys_throw
    | cons block rest =>
      refine obeys_bind (Subnet.declare_obeys valid allowed) fun subnet s₁ first placed => ?_
      refine obeys_bind (ih (zone + 1) rest s₁ (valid.grows first))
        fun result s₂ second others => obeys_pure ?_
      intro other listed
      rcases List.mem_cons.mp listed with rfl | later
      · exact ⟨placed.1.grows second, placed.2⟩
      · exact others other later

theorem declare_groups_obeys (allowed : Allowed t around.path) (zones : Nat)
    (groups : List SubnetGroup) : ∀ (blocks : List Cidr) (s : Stack), around.Valid s →
      Obeys t s (declareGroups around zones groups blocks) fun subnets s' =>
        Placed around.path subnets s' := by
  induction groups with
  | nil => intro blocks s _; exact obeys_pure (by simp [Placed])
  | cons group rest ih =>
    intro blocks s valid
    refine obeys_bind (declare_zones_obeys allowed zones 0 blocks s valid)
      fun result s₁ first placed => ?_
    refine obeys_bind (ih result.2 s₁ (valid.grows first)) fun more s₂ second others =>
      obeys_pure ?_
    intro subnet listed
    rcases List.mem_append.mp listed with here | later
    · exact placed.grows second subnet here
    · exact others subnet later

theorem declare_nat_obeys {path : List String} {tagPath : String} {subnet : Subnet}
    (allowed : Allowed t path) (valid : subnet.Valid s) (inside : path <+: subnet.path) :
    Obeys t s (declareNat tagPath subnet) fun gateway s' =>
      ∃ path, s'.At gateway path "AWS::EC2::NatGateway" := by
  unfold declareNat
  extract_lets inner tags
  have tags_within : ∀ P : String → Prop, Json.Within P tags := by
    intro P
    simp [tags, nameTag, tagJson]
  have address_within : ({
      type := "AWS::EC2::EIP"
      properties := [("Domain", .str "vpc"), ("Tags", tags)] } : Resource).Within
      (Admits t s "AWS::EC2::EIP") := by
    simp [Resource.within_iff, tags_within]
  refine obeys_bind (declare_part_obeys subnet.path "EIP" "AWS::EC2::EIP" rfl allowed inside
    (by decide) (by decide) rfl address_within) fun address s₁ first address_there => ?_
  have known := valid.grows first
  refine obeys_lift fun association named => ?_
  -- the id that the path stands for is that of the association declared under it
  obtain ⟨associationId, same, _, joined⟩ := known.association
  have equal : associationId = association := by
    rw [same] at named
    cases named
    rfl
  subst equal
  extract_lets nat waiting
  have waiting_eq : waiting = { nat with dependsOn := waiting.dependsOn } :=
    Resource.add_dependencies_eq _ nat
  have nat_within : waiting.Within (Admits t s₁ "AWS::EC2::NatGateway") := by
    have admitted : Admits t s₁ "AWS::EC2::NatGateway" address :=
      admits_part address_there (by decide) (by decide)
    have admitted_subnet : Admits t s₁ "AWS::EC2::NatGateway" subnet.logicalId :=
      admits_part known.itself (by decide) (by decide)
    rw [Resource.within_iff]
    constructor
    · intro target needed
      rw [Resource.mem_add_dependencies] at needed
      rcases needed with none | listed
      · simp [nat] at none
      · rcases List.mem_append.mp listed with route | last
        · obtain ⟨_, routed⟩ := known.route target route
          exact admits_part routed (by decide) (by decide)
        · cases List.mem_singleton.mp last
          exact admits_part joined (by decide) (by decide)
    · rw [waiting_eq]
      simp [nat, Subnet.subnetId, admitted, admitted_subnet, tags_within]
  exact obeys_imp (declare_part_obeys subnet.path "NATGateway" "AWS::EC2::NatGateway"
    (by rw [waiting_eq]) allowed inside (by decide) (by decide) (by rw [waiting_eq]; rfl)
    nat_within) fun _ _ _ _ there => ⟨_, there⟩

theorem nat_for_mem {gateways : List String} {zone : Nat} {gateway : String}
    (found : natFor? gateways zone = some gateway) : gateway ∈ gateways := by
  unfold natFor? at found
  cases here : gateways[zone]? with
  | some first =>
    rw [here] at found
    cases found
    exact List.mem_of_getElem? here
  | none =>
    rw [here] at found
    exact List.mem_of_getLast? found

theorem route_egress_obeys {path gateways : List String} {subnet : Subnet}
    (allowed : Allowed t path) (valid : subnet.Valid s) (inside : path <+: subnet.path)
    (known : ∀ gateway ∈ gateways, ∃ path, s.At gateway path "AWS::EC2::NatGateway") :
    Obeys t s (routeEgress id gateways subnet) Subnet.Valid := by
  unfold routeEgress
  split
  · split
    · exact obeys_throw
    · next gateway found =>
      obtain ⟨_, there⟩ := known gateway (nat_for_mem found)
      obtain ⟨_, table⟩ := valid.table
      have route_within : (Subnet.privateRoute gateway subnet.routeTableId).Within
          (Admits t s "AWS::EC2::Route") :=
        Subnet.private_route_within (admits_part there (by decide) (by decide))
          (admits_part table (by decide) (by decide))
      refine obeys_bind (declare_part_obeys subnet.path "DefaultRoute" "AWS::EC2::Route" rfl allowed
        inside (by decide) (by decide) rfl route_within) fun route s₁ first routed => obeys_pure ?_
      obtain ⟨itself, table, association, _⟩ := valid.grows first
      refine ⟨itself, table, association, fun other listed => ?_⟩
      cases Option.mem_toList.mp listed
      exact ⟨_, routed⟩
  · exact obeys_pure valid

theorem add_endpoint_obeys {service : GatewayService} (valid : vpc.Valid s)
    (declares : t.declares (vpc.path ++ [id] ++ ["Resource"]) "AWS::EC2::VPCEndpoint") :
    Obeys t s (vpc.addEndpoint id service) fun grown s' =>
      grown.Valid s' ∧ grown.path = vpc.path := by
  unfold addEndpoint
  extract_lets path
  have endpoint_fits : Fits t s (path ++ ["Resource"]) {
      type := "AWS::EC2::VPCEndpoint"
      properties := [
        ("RouteTableIds", .arr vpc.endpointRouteTables),
        ("ServiceName", service.serviceName.toJson),
        ("VpcEndpointType", .str "Gateway"),
        ("VpcId", vpc.vpcId.toJson)] } := by
    refine fits_plain "AWS::EC2::VPCEndpoint" rfl declares ?_ (absurd rfl) (by simp) (by decide)
    have admitted : Admits t s "AWS::EC2::VPCEndpoint" vpc.logicalId :=
      admits_part valid.itself (by decide) (by decide)
    have tables : ∀ item ∈ vpc.endpointRouteTables,
        Json.Within (Admits t s "AWS::EC2::VPCEndpoint") item := by
      intro item listed
      unfold endpointRouteTables at listed
      extract_lets inner at listed
      obtain ⟨subnet, chosen, rfl⟩ := List.mem_map.mp listed
      have member : subnet ∈ vpc.subnets := by
        split at chosen
        · exact chosen
        · exact List.mem_of_mem_filter chosen
      obtain ⟨_, table⟩ := (valid.subnets subnet member).table
      rw [Subnet.routeTable, Value.within_ref]
      exact .inr (admits_part table (by decide) (by decide))
    simpa [Resource.within_iff, GatewayService.serviceName, vpcId, admitted] using tables
  refine obeys_bind (obeys_declare endpoint_fits) fun logicalId s₁ first declared => obeys_pure ?_
  obtain ⟨itself, subnets, endpoints⟩ := valid.grows first
  refine ⟨⟨itself, subnets, fun endpoint listed => ?_⟩, rfl⟩
  rcases List.mem_append.mp listed with before | last
  · exact endpoints endpoint before
  · cases List.mem_singleton.mp last
    exact declared.there

theorem declare_nats_obeys {path : List String} {tagPath : String} {hosts : List Subnet}
    (allowed : Allowed t path) (placed : Placed path hosts s) :
    Obeys t s (hosts.mapM (declareNat tagPath)) fun gateways s' =>
      ∀ gateway ∈ gateways, ∃ path, s'.At gateway path "AWS::EC2::NatGateway" := by
  refine obeys_mapM (Q := fun gateway s' => ∃ path, s'.At gateway path "AWS::EC2::NatGateway") ?_ ?_
  · intro gateway s₁ s₂ grows ⟨path, there⟩
    exact ⟨path, grows.at_ there⟩
  · intro s' more host chosen
    obtain ⟨known, inside⟩ := placed.grows more host chosen
    exact declare_nat_obeys allowed known inside

theorem route_all_egress_obeys {path gateways : List String} {subnets : List Subnet}
    (allowed : Allowed t path) (placed : Placed path subnets s)
    (served : ∀ gateway ∈ gateways, ∃ path, s.At gateway path "AWS::EC2::NatGateway") :
    Obeys t s (subnets.mapM (routeEgress id gateways)) fun routed s' =>
      ∀ subnet ∈ routed, subnet.Valid s' := by
  refine obeys_mapM (Q := Subnet.Valid) (fun _ _ _ grows valid => valid.grows grows) ?_
  intro s' more subnet member
  obtain ⟨known, inside⟩ := placed.grows more subnet member
  refine route_egress_obeys allowed known inside fun gateway listed => ?_
  obtain ⟨path, there⟩ := served gateway listed
  exact ⟨path, more.at_ there⟩

theorem add_endpoints_obeys {endpoints : List (String × GatewayService)} (valid : vpc.Valid s)
    (allowed : Allowed t vpc.path) :
    Obeys t s (endpoints.foldlM (fun v endpoint => v.addEndpoint endpoint.1 endpoint.2) vpc)
      fun grown s' => grown.Valid s' ∧ grown.path = vpc.path := by
  refine obeys_foldlM (Q := fun (grown : Vpc) s' => grown.Valid s' ∧ grown.path = vpc.path)
    ⟨valid, rfl⟩ fun s' grown more ⟨known, same⟩ endpoint _ => ?_
  refine obeys_imp (add_endpoint_obeys known ?_) fun _ _ _ _ ⟨grown_valid, path⟩ =>
    ⟨grown_valid, path.trans same⟩
  rw [same, List.append_assoc]
  exact allowed _ _ (List.prefix_append _ _) (by decide)

theorem declare_obeys {settings : VpcSettings} (allowed : Allowed t [id]) :
    Obeys t s (declare id settings) fun vpc s' => vpc.Valid s' ∧ vpc.path = [id] := by
  unfold declare
  refine obeys_lift fun cidr _ => obeys_lift fun _ _ => obeys_get ?_
  extract_lets tagPath
  have vpc_within : (vpcResource cidr tagPath).Within (Admits t s "AWS::EC2::VPC") := by
    simp [Resource.within_iff, vpcResource, nameTag, tagJson]
  refine obeys_bind (declare_part_obeys [id] "Resource" "AWS::EC2::VPC" rfl allowed
    (List.prefix_refl _) (by decide) (by decide) rfl vpc_within) fun logicalId s₁ _ itself => ?_
  have network : ∃ path, s₁.At logicalId path "AWS::EC2::VPC" := ⟨_, itself⟩
  extract_lets finish
  have finished : ∀ (s₂ : Stack) (gateway : Option (String × String)), s₁.Grows s₂ →
      Subnet.Surroundings.Valid ⟨[id], logicalId, tagPath, gateway⟩ s₂ →
      Obeys t s₂ (finish gateway) fun vpc s' => vpc.Valid s' ∧ vpc.path = [id] := by
    intro s₂ gateway second valid
    refine obeys_lift fun blocks _ => ?_
    extract_lets around
    refine obeys_bind (declare_groups_obeys allowed settings.zones.toNat settings.groups blocks s₂
      valid) fun subnets s₃ third placed => ?_
    extract_lets hosts
    have hosted : Placed [id] hosts s₃ := fun host chosen =>
      placed host (List.mem_of_mem_filter (List.mem_of_mem_take chosen))
    refine obeys_bind (declare_nats_obeys allowed hosted) fun gateways s₄ fourth served => ?_
    refine obeys_bind (route_all_egress_obeys allowed (placed.grows fourth) served)
      fun routed s₅ fifth done => ?_
    extract_lets bare
    have all := Stack.grows_trans second (Stack.grows_trans third (Stack.grows_trans fourth fifth))
    have bare_valid : bare.Valid s₅ := ⟨all.at_ itself, done, by simp [bare]⟩
    exact add_endpoints_obeys bare_valid allowed
  split
  · refine obeys_bind (obeys_map (R := fun gateway s' =>
        Subnet.Surroundings.Valid ⟨[id], logicalId, tagPath, gateway⟩ s')
      (declare_gateway_obeys allowed network) fun ids s₂ more opened => ?_)
      fun gateway s₂ more valid => finished s₂ gateway more valid
    refine ⟨⟨_, more.at_ itself⟩, fun g a same => ?_⟩
    cases same
    exact opened
  · rw [pure_bind]
    exact finished s₁ none (Stack.grows_refl s₁) ⟨network, fun g a none => by cases none⟩

/-- The subnets that are chosen for anything are subnets of the network. -/
theorem workload_subnets_mem {subnet : Subnet} (chosen : subnet ∈ vpc.workloadSubnets) :
    subnet ∈ vpc.subnets := by
  unfold workloadSubnets at chosen
  cases found : ([SubnetKind.withEgress, .isolated, .isPublic].map vpc.subnetsOf).find?
      (!·.isEmpty) with
  | none => rw [found] at chosen; simp at chosen
  | some subnets =>
    rw [found] at chosen
    obtain ⟨kind, _, rfl⟩ := List.mem_map.mp (List.mem_of_find?_eq_some found)
    exact List.mem_of_mem_filter chosen

end Vpc

end StackSynth
