import StackSynth.Compute.Function
import StackSynth.Data.Bucket
import StackSynth.Data.Table
import StackSynth.Identity.Certificate
import StackSynth.Identity.SignInClient
import StackSynth.Identity.SignInDomain
import StackSynth.Network.LoadBalancer
import StackSynth.Proofs.Stack.Placement

/-!
Where constructs declare their resources: each below a path of its own, whatever it is made of and
wherever it fails, but for the function that empties buckets, which all buckets share.
-/
namespace StackSynth

/-- Below a path, or at it. -/
abbrev Below (base path : List String) : Prop := base <+: path

theorem below_append (base rest : List String) : Below base (base ++ rest) :=
  List.prefix_append base rest

section Parts

variable {α : Type} {base rest path : List String} {m : Declaring α} {Q : α → Prop}

/-- What is below a part is below the whole. -/
theorem keeps_to_whole (keeps : KeepsTo (Below (base ++ rest)) m Q) :
    KeepsTo (Below base) m fun _ => True :=
  keeps_to_imp keeps (fun _ below => (below_append base rest).trans below) fun _ _ => trivial

/-- Most constructs come to one resource below their path. -/
theorem keeps_to_declared (below : Below base path) (r : Resource) {result : String → α}
    (holds : ∀ id, Q (result id)) :
    KeepsTo (Below base) (Stack.declare path r >>= fun id => pure (result id)) Q :=
  keeps_to_bind (keeps_to_declare below r) fun id _ => keeps_to_pure (holds id)

end Parts

theorem Role.declare_keeps_to (scope : List String) (id : String) (settings : RoleSettings) :
    KeepsTo (Below (scope ++ [id])) (Role.declare scope id settings)
      fun role => role.path = scope ++ [id] :=
  keeps_to_declared (below_append _ _) _ fun _ => rfl

theorem LogGroup.declare_keeps_to (scope : List String) (id : String) (retention : Retention)
    (removal : RemovalPolicy) :
    KeepsTo (Below (scope ++ [id])) (LogGroup.declare scope id retention removal)
      fun group => group.path = scope ++ [id] :=
  keeps_to_declared (below_append _ _) _ fun _ => rfl

theorem SecurityGroup.declare_keeps_to (scope : List String) (id : String) (vpc : Vpc)
    (description : Option String) (allowsAllOutbound : Bool) :
    KeepsTo (Below (scope ++ [id]))
      (SecurityGroup.declare scope id vpc description allowsAllOutbound)
      fun group => group.path = scope ++ [id] :=
  keeps_to_bind keeps_to_get fun _ _ => keeps_to_declared (below_append _ _) _ fun _ => rfl

theorem Certificate.declare_keeps_to (id domainName : String) (validation : CertificateValidation) :
    KeepsTo (Below [id]) (Certificate.declare id domainName validation) (·.path = [id]) := by
  unfold Certificate.declare
  exact keeps_to_unless (keeps_to_declared (below_append [id] _) _ fun _ => rfl)

theorem UserPool.declare_keeps_to (id : String) (settings : UserPoolSettings) :
    KeepsTo (Below [id]) (UserPool.declare id settings) (·.path = [id]) :=
  keeps_to_declared (below_append [id] _) _ fun _ => rfl

theorem GoogleProvider.declare_keeps_to (id : String) (pool : UserPool)
    (settings : GoogleProviderSettings) :
    KeepsTo (Below [id]) (GoogleProvider.declare id pool settings) (·.path = [id]) := by
  unfold GoogleProvider.declare
  exact keeps_to_unless (keeps_to_declared (below_append [id] _) _ fun _ => rfl)

theorem SignInDomain.declare_keeps_to (id : String) (pool : UserPool) (label : String) :
    KeepsTo (Below [id]) (SignInDomain.declare id pool label) (·.path = [id]) := by
  unfold SignInDomain.declare
  exact keeps_to_unless (keeps_to_unless (keeps_to_declared (below_append [id] _) _ fun _ => rfl))

theorem SignInClient.declare_keeps_to (id : String) (pool : UserPool)
    (settings : SignInClientSettings) :
    KeepsTo (Below [id]) (SignInClient.declare id pool settings) (·.path = [id]) :=
  keeps_to_bind (keeps_to_lift _) fun _ _ =>
    keeps_to_declared (below_append [id] _) _ fun _ => rfl

theorem Cluster.declare_keeps_to (id : String) :
    KeepsTo (Below [id]) (Cluster.declare id) (·.path = [id]) :=
  keeps_to_declared (below_append [id] _) _ fun _ => rfl

theorem Table.declare_keeps_to (id : String) (settings : TableSettings) :
    KeepsTo (Below [id]) (Table.declare id settings) (·.path = [id]) :=
  keeps_to_bind (keeps_to_lift _) fun _ _ =>
    keeps_to_declared (below_append [id] _) _ fun _ => rfl

namespace TaskDefinition

/-- A role that is given is declared elsewhere. -/
theorem role_or_keeps_to (given : Option Role) (id roleId : String) :
    KeepsTo (Below [id]) (roleOr given id roleId) fun _ => True := by
  cases given with
  | some role => exact keeps_to_pure trivial
  | none =>
    exact keeps_to_whole (Role.declare_keeps_to [id] roleId _)

theorem declare_keeps_to (id : String) (settings : TaskSettings) :
    KeepsTo (Below [id]) (TaskDefinition.declare id settings) (·.path = [id]) := by
  unfold TaskDefinition.declare
  refine keeps_to_unless ?_
  refine keeps_to_bind (role_or_keeps_to _ _ _) fun taskRole _ => ?_
  refine keeps_to_bind (role_or_keeps_to _ _ _) fun executionRole _ => ?_
  refine keeps_to_bind keeps_to_get fun s _ => keeps_to_bind (keeps_to_lift _) fun family _ => ?_
  exact keeps_to_declared (below_append [id] _) _ fun _ => rfl

end TaskDefinition

theorem Service.declare_keeps_to (id : String) (cluster : Cluster) (task : TaskDefinition)
    (vpc : Vpc) (settings : ServiceSettings) :
    KeepsTo (Below [id]) (Service.declare id cluster task vpc settings) (·.path = [id]) := by
  unfold Service.declare
  split
  · exact keeps_to_throw
  · refine keeps_to_bind (keeps_to_whole (SecurityGroup.declare_keeps_to [id] _ _ _ _))
      fun group _ => ?_
    refine keeps_to_bind (keeps_to_declare (below_append [id] _) _) fun logicalId _ => ?_
    exact keeps_to_bind (keeps_to_wait_for_path _ _) fun _ _ => keeps_to_pure rfl

theorem LoadBalancer.declare_keeps_to (id : String) (vpc : Vpc) (internetFacing : Bool) :
    KeepsTo (Below [id]) (LoadBalancer.declare id vpc internetFacing) (·.path = [id]) := by
  refine keeps_to_bind keeps_to_get fun s _ => keeps_to_bind (keeps_to_lift _) fun unique _ => ?_
  refine keeps_to_bind (keeps_to_whole (SecurityGroup.declare_keeps_to [id] _ _ _ _))
    fun group _ => ?_
  exact keeps_to_unless (keeps_to_declared (below_append [id] _) _ fun _ => rfl)

theorem LambdaFunction.declare_keeps_to (files : FileTree) (id : String)
    (settings : FunctionSettings) :
    KeepsTo (Below [id]) (LambdaFunction.declare files id settings) (·.path = [id]) := by
  have image : KeepsTo (Below [id]) (ImageAsset.declare files [id, "AssetImage"] settings.image)
      fun _ => True :=
    keeps_to_bind (keeps_to_lift _) fun source _ =>
      keeps_to_bind (keeps_to_add_asset source) fun _ _ => keeps_to_pure trivial
  refine keeps_to_bind (keeps_to_lift _) fun _ _ => keeps_to_bind image fun image _ => ?_
  refine keeps_to_bind (keeps_to_whole (Role.declare_keeps_to [id] _ _)) fun role _ => ?_
  extract_lets finish
  have finished : ∀ logs, KeepsTo (Below [id]) (finish logs) (·.path = [id]) := fun logs =>
    keeps_to_bind (keeps_to_declare (below_append [id] _) _) fun logicalId _ =>
      keeps_to_bind (keeps_to_wait_for_path _ _) fun _ _ => keeps_to_pure rfl
  cases settings.retention with
  | some retention =>
    have logs := keeps_to_whole (LogGroup.declare_keeps_to [id] "LogGroup" retention .retain)
    exact keeps_to_bind (keeps_to_map (R := fun _ => True) logs fun _ _ => trivial)
      fun logs _ => finished logs
  | none =>
    rw [pure_bind]
    exact finished none

/-! Networks: the parts of a subnet are below the subnet, and the subnets below the network. -/

theorem Subnet.declare_keeps_to {around : Surroundings} (group : SubnetGroup) (zone : Nat)
    (block : Cidr) :
    KeepsTo (Below around.path) (Subnet.declare around group zone block)
      (Below around.path ·.path) := by
  unfold Subnet.declare
  extract_lets name path tag
  have below : ∀ part, Below around.path (path ++ part) := fun part =>
    (below_append around.path [name]).trans (below_append path part)
  refine keeps_to_bind (keeps_to_declare (below _) _) fun logicalId _ => ?_
  refine keeps_to_bind (keeps_to_declare (below _) _) fun tableId _ => ?_
  refine keeps_to_bind (keeps_to_declare (below _) _) fun associationId _ => ?_
  split
  · refine keeps_to_bind (keeps_to_declare (below _) _) fun route _ => ?_
    rw [pure_bind]
    exact keeps_to_pure (below_append _ _)
  · rw [pure_bind]
    exact keeps_to_pure (below_append _ _)

namespace Vpc

theorem declare_gateway_keeps_to (id networkId tagPath : String) :
    KeepsTo (Below [id]) (declareGateway id networkId tagPath) fun _ => True :=
  keeps_to_bind (keeps_to_declare (below_append [id] _) _) fun _ _ =>
    keeps_to_declared (below_append [id] _) _ fun _ => trivial

variable {around : Subnet.Surroundings} {base : List String}

theorem declare_zones_keeps_to (group : SubnetGroup) (left : Nat) :
    ∀ (zone : Nat) (blocks : List Cidr),
      KeepsTo (Below around.path) (declareZones around group zone left blocks)
        fun result => ∀ subnet ∈ result.1, Below around.path subnet.path := by
  induction left with
  | zero => exact fun zone blocks => keeps_to_pure (List.forall_mem_nil _)
  | succ left ih =>
    intro zone blocks
    cases blocks with
    | nil => exact keeps_to_throw
    | cons block rest =>
      refine keeps_to_bind (Subnet.declare_keeps_to group zone block) fun subnet here => ?_
      refine keeps_to_bind (ih (zone + 1) rest) fun result there => keeps_to_pure ?_
      exact List.forall_mem_cons.mpr ⟨here, there⟩

theorem declare_groups_keeps_to (zones : Nat) (groups : List SubnetGroup) :
    ∀ blocks : List Cidr, KeepsTo (Below around.path) (declareGroups around zones groups blocks)
      fun subnets => ∀ subnet ∈ subnets, Below around.path subnet.path := by
  induction groups with
  | nil => exact fun blocks => keeps_to_pure (List.forall_mem_nil _)
  | cons group rest ih =>
    intro blocks
    refine keeps_to_bind (declare_zones_keeps_to group zones 0 blocks) fun result here => ?_
    refine keeps_to_bind (ih result.2) fun subnets there => keeps_to_pure ?_
    exact List.forall_mem_append.mpr ⟨here, there⟩

theorem declare_nat_keeps_to (tagPath : String) {subnet : Subnet}
    (below : Below base subnet.path) :
    KeepsTo (Below base) (declareNat tagPath subnet) fun _ => True := by
  unfold declareNat
  extract_lets inner tags
  refine keeps_to_bind (keeps_to_declare (below.trans (below_append _ _)) _) fun address _ => ?_
  refine keeps_to_bind (keeps_to_lift _) fun association _ => ?_
  exact keeps_to_declare (below.trans (below_append _ _)) _

theorem route_egress_keeps_to (id : String) (gateways : List String) {subnet : Subnet}
    (below : Below base subnet.path) :
    KeepsTo (Below base) (routeEgress id gateways subnet) fun _ => True := by
  unfold routeEgress
  split
  · split
    · exact keeps_to_throw
    · exact keeps_to_declared (below.trans (below_append _ _)) _ fun _ => trivial
  · exact keeps_to_pure trivial

theorem add_endpoint_keeps_to (vpc : Vpc) (id : String) (service : GatewayService) :
    KeepsTo (Below vpc.path) (vpc.addEndpoint id service) (·.path = vpc.path) := by
  unfold addEndpoint
  extract_lets path
  exact keeps_to_declared ((below_append vpc.path [id]).trans (below_append path _)) _ fun _ => rfl

theorem declare_keeps_to (id : String) (settings : VpcSettings) :
    KeepsTo (Below [id]) (Vpc.declare id settings) (·.path = [id]) := by
  unfold Vpc.declare
  refine keeps_to_bind (keeps_to_lift _) fun cidr _ => keeps_to_bind (keeps_to_lift _) fun _ _ => ?_
  refine keeps_to_bind keeps_to_get fun s _ => ?_
  refine keeps_to_bind (keeps_to_declare (below_append [id] _) _) fun networkId _ => ?_
  extract_lets finish
  have finished : ∀ gateway, KeepsTo (Below [id]) (finish gateway) (·.path = [id]) := by
    intro gateway
    refine keeps_to_bind (keeps_to_lift _) fun blocks _ => ?_
    refine keeps_to_bind (declare_groups_keeps_to _ _ _) fun subnets placed => ?_
    -- a gateway stands in one of the subnets, so below the network as they do
    refine keeps_to_bind (keeps_to_mapM (fun _ below => declare_nat_keeps_to _ below)
      fun subnet member => placed subnet ?_) fun gateways _ => ?_
    · exact List.mem_of_mem_filter (List.mem_of_mem_take member)
    refine keeps_to_bind (keeps_to_mapM (fun _ below => route_egress_keeps_to id gateways below)
      placed) fun routed _ => ?_
    refine keeps_to_foldlM (fun vpc endpoint same => ?_) rfl
    have added := vpc.add_endpoint_keeps_to endpoint.1 endpoint.2
    rw [same] at added
    exact added
  split
  · have gateway := declare_gateway_keeps_to id networkId (s.name ++ "/" ++ id)
    exact keeps_to_bind (keeps_to_map (R := fun _ => True) gateway fun _ _ => trivial)
      fun gateway _ => finished gateway
  · rw [pure_bind]
    exact finished none

end Vpc

namespace AutoDelete

/-- The resources that all buckets share. -/
def sharedPaths : List (List String) := [rolePath, handlerPath]

theorem provider_keeps_to : KeepsTo (· ∈ sharedPaths) provider fun _ => True := by
  refine keeps_to_bind (keeps_to_lift _) fun roleId _ => keeps_to_bind (keeps_to_lift _)
    fun handlerId _ => keeps_to_bind keeps_to_get fun s _ => ?_
  split
  · refine keeps_to_bind (keeps_to_declare (by simp [sharedPaths]) _) fun _ _ => ?_
    refine keeps_to_bind (keeps_to_declare (by simp [sharedPaths]) _) fun _ _ => ?_
    exact keeps_to_pure trivial
  · exact keeps_to_pure trivial

end AutoDelete

namespace Bucket

/-- Only a bucket that is emptied needs what buckets share. -/
def Place (id : String) (settings : BucketSettings) (path : List String) : Prop :=
  Below [id] path ∨ settings.autoDelete = true ∧ path ∈ AutoDelete.sharedPaths

theorem declare_keeps_to (id : String) (settings : BucketSettings) :
    KeepsTo (Place id settings) (Bucket.declare id settings) (·.path = [id]) := by
  have own : ∀ {α : Type} {m : Declaring α} {Q : α → Prop}, KeepsTo (Below [id]) m Q →
      KeepsTo (Place id settings) m Q := fun keeps =>
    keeps_to_imp keeps (fun _ below => .inl below) fun _ holds => holds
  unfold Bucket.declare
  refine keeps_to_unless ?_
  refine keeps_to_bind (own (keeps_to_declare (below_append [id] _) _)) fun logicalId _ => ?_
  extract_lets bucket
  split
  · next emptied =>
    have shared : KeepsTo (Place id settings) AutoDelete.provider fun _ => True :=
      keeps_to_imp AutoDelete.provider_keeps_to (fun _ member => .inr ⟨emptied, member⟩)
        fun _ holds => holds
    have emptying : KeepsTo (Place id settings) bucket.declareEmptying fun _ => True := by
      refine keeps_to_bind shared fun ids _ => ?_
      refine keeps_to_bind (own (keeps_to_declare (below_append [id] _) _)) fun policyId _ => ?_
      exact own (keeps_to_declared (below_append [id] _) _ fun _ => trivial)
    exact keeps_to_bind emptying fun _ _ => keeps_to_pure rfl
  · exact keeps_to_pure rfl

end Bucket

/-! All constructs alike. -/

/-- A call that declares a construct. -/
inductive Construction
  | certificate (id domainName : String) (validation : CertificateValidation)
  | userPool (id : String) (settings : UserPoolSettings)
  | googleProvider (id : String) (pool : UserPool) (settings : GoogleProviderSettings)
  | signInDomain (id : String) (pool : UserPool) (label : String)
  | signInClient (id : String) (pool : UserPool) (settings : SignInClientSettings)
  | vpc (id : String) (settings : VpcSettings)
  | securityGroup (scope : List String) (id : String) (vpc : Vpc) (description : Option String)
    (allowsAllOutbound : Bool)
  | role (scope : List String) (id : String) (settings : RoleSettings)
  | logGroup (scope : List String) (id : String) (retention : Retention) (removal : RemovalPolicy)
  | cluster (id : String)
  | taskDefinition (id : String) (settings : TaskSettings)
  | service (id : String) (cluster : Cluster) (task : TaskDefinition) (vpc : Vpc)
    (settings : ServiceSettings)
  | loadBalancer (id : String) (vpc : Vpc) (internetFacing : Bool)
  | function (files : FileTree) (id : String) (settings : FunctionSettings)
  | table (id : String) (settings : TableSettings)
  | bucket (id : String) (settings : BucketSettings)

namespace Construction

/-- The path of the construct. -/
def path : Construction → List String
  | securityGroup scope id .. | role scope id _ | logGroup scope id .. => scope ++ [id]
  | certificate id .. | userPool id _ | googleProvider id .. | signInDomain id ..
  | signInClient id .. | vpc id _ | cluster id | taskDefinition id _ | service id ..
  | loadBalancer id .. | function _ id _ | table id _ | bucket id _ => [id]

def action : Construction → Declaring Construct
  | certificate id domainName validation =>
    (·.toConstruct) <$> Certificate.declare id domainName validation
  | userPool id settings => (·.toConstruct) <$> UserPool.declare id settings
  | googleProvider id pool settings => (·.toConstruct) <$> GoogleProvider.declare id pool settings
  | signInDomain id pool label => (·.toConstruct) <$> SignInDomain.declare id pool label
  | signInClient id pool settings => (·.toConstruct) <$> SignInClient.declare id pool settings
  | vpc id settings => (·.toConstruct) <$> Vpc.declare id settings
  | securityGroup scope id network description allowsAllOutbound =>
    (·.toConstruct) <$> SecurityGroup.declare scope id network description allowsAllOutbound
  | role scope id settings => (·.toConstruct) <$> Role.declare scope id settings
  | logGroup scope id retention removal =>
    (·.toConstruct) <$> LogGroup.declare scope id retention removal
  | cluster id => (·.toConstruct) <$> Cluster.declare id
  | taskDefinition id settings => (·.toConstruct) <$> TaskDefinition.declare id settings
  | service id runsOn task network settings =>
    (·.toConstruct) <$> Service.declare id runsOn task network settings
  | loadBalancer id network internetFacing =>
    (·.toConstruct) <$> LoadBalancer.declare id network internetFacing
  | function files id settings => (·.toConstruct) <$> LambdaFunction.declare files id settings
  | table id settings => (·.toConstruct) <$> Table.declare id settings
  | bucket id settings => (·.toConstruct) <$> Bucket.declare id settings

/-- Whether the construct makes use of what buckets share. -/
def shares : Construction → Bool
  | bucket _ settings => settings.autoDelete
  | _ => false

def Place (c : Construction) (path : List String) : Prop :=
  c.path <+: path ∨ c.shares = true ∧ path ∈ AutoDelete.sharedPaths

theorem keeps_to_place (c : Construction) : KeepsTo c.Place c.action (·.path = c.path) := by
  have own : ∀ {α : Type} {m : Declaring α} {construct : α → Construct},
      KeepsTo (Below c.path) m (fun a => (construct a).path = c.path) →
      KeepsTo c.Place (construct <$> m) (·.path = c.path) := fun keeps =>
    keeps_to_imp (keeps_to_map keeps fun _ same => same) (fun _ below => .inl below)
      fun _ same => same
  cases c with
  | certificate id domainName validation => exact own (Certificate.declare_keeps_to id _ _)
  | userPool id settings => exact own (UserPool.declare_keeps_to id _)
  | googleProvider id pool settings => exact own (GoogleProvider.declare_keeps_to id _ _)
  | signInDomain id pool label => exact own (SignInDomain.declare_keeps_to id _ _)
  | signInClient id pool settings => exact own (SignInClient.declare_keeps_to id _ _)
  | vpc id settings => exact own (Vpc.declare_keeps_to id _)
  | securityGroup scope id vpc description allowsAllOutbound =>
    exact own (SecurityGroup.declare_keeps_to scope id _ _ _)
  | role scope id settings => exact own (Role.declare_keeps_to scope id _)
  | logGroup scope id retention removal => exact own (LogGroup.declare_keeps_to scope id _ _)
  | cluster id => exact own (Cluster.declare_keeps_to id)
  | taskDefinition id settings => exact own (TaskDefinition.declare_keeps_to id _)
  | service id cluster task vpc settings => exact own (Service.declare_keeps_to id _ _ _ _)
  | loadBalancer id vpc internetFacing => exact own (LoadBalancer.declare_keeps_to id _ _)
  | function files id settings => exact own (LambdaFunction.declare_keeps_to _ id _)
  | table id settings => exact own (Table.declare_keeps_to id _)
  | bucket id settings =>
    exact keeps_to_map (Bucket.declare_keeps_to id settings) fun _ same => same

/-- A construct adds its resources after those of the stack, below its own path, be it that it is
declared in the end or not. Whoever waits for it, whatever is called before and after that, is
synthesized to depend on all of them but those that buckets share. -/
theorem adds_below_path (s : Stack) (c : Construction) :
    let s' := (s.run c.action).2
    ∃ added : List Declaration, s'.declared.entries = s.declared.entries ++ added ∧
      (∀ d ∈ added, c.path <+: d.2.path ∨ c.shares = true ∧ d.2.path ∈ AutoDelete.sharedPaths) ∧
      ∀ k, (s.run c.action).1 = .ok k → k.path = c.path ∧
        ∀ (dependent : Construct) (before after : List StackCall) (t : Template),
          (((s'.afterAll before).after (.waitFor dependent k)).afterAll after).synthesize = .ok t →
          ∃ r, t.resource? dependent.logicalId = some r ∧ ∀ d ∈ added,
            d.1 ≠ dependent.logicalId → d.2.path ∉ AutoDelete.sharedPaths → d.1 ∈ r.dependsOn := by
  intro s'
  obtain ⟨added, kept, placed, result⟩ := c.keeps_to_place s
  refine ⟨added, kept, placed, fun k made => ⟨result k made, ?_⟩⟩
  intro dependent before after t synth
  have waiting := Stack.extends_after_all ((s'.afterAll before).after (.waitFor dependent k)) after
  have grown : s'.Extends (((s'.afterAll before).after (.waitFor dependent k)).afterAll after) :=
    Stack.extends_trans (Stack.extends_after_all s' before)
      (Stack.extends_trans (Stack.change_extends (Stack.after_change _ _)) waiting)
  obtain ⟨r, found, depends⟩ := Stack.depends_on_place grown
    (waiting.waits.subset (Stack.wait_recorded _ dependent k)) synth
  refine ⟨r, found, fun d member other unshared => depends d ?_ other ?_⟩
  · rw [kept]
    exact List.mem_append_right _ member
  · rw [result k made]
    exact (placed d member).resolve_right fun shared => unshared shared.2

/-- The first bucket that is emptied declares what all of them share between its own resources. -/
example :
    let start : Stack := { name := "Sample", environment := ⟨"123456789012", "us-east-1"⟩ }
    let uploads : Construction := .bucket "Uploads" { autoDelete := true, removal := .destroy }
    (start.run uploads.action).2.declared.values.map (·.path) =
      [["Uploads", "Resource"], AutoDelete.rolePath, AutoDelete.handlerPath,
        ["Uploads", "Policy", "Resource"],
        ["Uploads", "AutoDeleteObjectsCustomResource", "Default"]] := by
  decide +kernel

end Construction

end StackSynth
