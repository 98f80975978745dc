import StackSynth.Data.Bucket
import StackSynth.Data.Table
import StackSynth.Identity.UserPool
import StackSynth.Network.LoadBalancer
import StackSynth.Proofs.Stack.Names
import StackSynth.Proofs.Stack.TwoRuns

/-!
What the declarations of constructs read of a stack is alike where the stack is: whether a resource
is there, the lists that grow, and the name of the stack, which only goes into texts.
-/
namespace StackSynth

variable {T : Prop}

namespace Role

variable {statement : PolicyStatement} {p₁ p₂ q₁ q₂ : Resource}

theorem uniform_declare (scope : List String) (id : String) (settings : RoleSettings) :
    Uniform T (Role.declare scope id settings) :=
  uniform_declared _ _ _

theorem uniform_add_managed_policy (role : Role) (policy : ManagedPolicy) :
    Uniform T (role.addManagedPolicy policy) :=
  agree_push_property (by decide) rfl

theorem uniform_ensure_policy (role : Role) : Uniform T role.ensurePolicy := by
  refine agree_get fun s₁ s₂ alike => ?_
  have same : role.defaultPolicy? s₁ = role.defaultPolicy? s₂ := by
    unfold defaultPolicy?
    simp only [alike.contains]
  rw [same]
  cases role.defaultPolicy? s₂ with
  | some id => exact uniform_pure id
  | none => exact uniform_bind (uniform_lift _) fun _ => StackSynth.uniform_declare _ _

theorem listed_of_with_statement (found : withStatement? p₁ statement = some q₁) :
    ∃ document statements, p₁.bare.property? "PolicyDocument" = some (.obj document) ∧
      Fields.get? "Statement" document = some (.arr statements) := by
  unfold withStatement? at found
  split at found
  · next document present =>
    split at found
    · next statements listed =>
      refine ⟨Json.bareFields document, statements.map Json.bare, ?_, ?_⟩
      · rw [Resource.property_bare, present, Option.map_some,
          Json.bare_field_ordinary (by decide), Json.bare_obj]
      · rw [Json.get?_bare_fields, listed, Option.map_some,
          Json.bare_field_ordinary (by decide), Json.bare_arr]
    · cases found
  · cases found

/-- What a policy becomes, with its texts taken out before or after. -/
theorem bare_with_statement {document : Fields} {statements : List Json}
    (present : p₁.bare.property? "PolicyDocument" = some (.obj document))
    (listed : Fields.get? "Statement" document = some (.arr statements)) :
    ∃ q, withStatement? p₁ statement = some q ∧
      q.bare = p₁.bare.withProperty "PolicyDocument" (.obj (Fields.insert "Statement"
        (.arr (statements ++ [statement.toJson.bare])) document)) := by
  rw [Resource.property_bare] at present
  obtain ⟨value, document_at, same⟩ := Option.map_eq_some_iff.mp present
  rw [Json.bare_field_ordinary (by decide)] at same
  obtain ⟨full, rfl, rfl⟩ := Json.obj_of_bare same
  rw [Json.get?_bare_fields] at listed
  obtain ⟨value, statements_at, same⟩ := Option.map_eq_some_iff.mp listed
  rw [Json.bare_field_ordinary (by decide)] at same
  obtain ⟨all, rfl, rfl⟩ := Json.arr_of_bare same
  refine ⟨p₁.withProperty "PolicyDocument" (.obj (Fields.insert "Statement"
    (.arr (all ++ [statement.toJson])) full)),
    by simp only [withStatement?, document_at, statements_at], ?_⟩
  rw [Resource.bare_with_property, Json.bare_field_ordinary (by decide), Json.bare_obj,
    Json.bare_fields_insert, Json.bare_field_ordinary (by decide), Json.bare_arr,
    List.map_append, List.map_singleton]

theorem alike_with_statement (alike : p₁.bare = p₂.bare)
    (first : withStatement? p₁ statement = some q₁) :
    ∃ q₂, withStatement? p₂ statement = some q₂ ∧ q₁.bare = q₂.bare := by
  obtain ⟨document, statements, present, listed⟩ := listed_of_with_statement first
  obtain ⟨q, again, grown₁⟩ := bare_with_statement present listed
  cases first.symm.trans again
  obtain ⟨q₂, second, grown₂⟩ := bare_with_statement (alike ▸ present) listed
  exact ⟨q₂, second, by rw [grown₁, grown₂, alike]⟩

theorem uniform_add_to_policy (role : Role) (statement : PolicyStatement) :
    Uniform T (role.addToPolicy statement) := by
  refine uniform_bind role.uniform_ensure_policy fun id => agree_get fun s₁ s₂ alike => ?_
  cases first : s₁.resource? id with
  | none => exact agree_throw
  | some p₁ =>
    obtain ⟨p₂, second, kept⟩ := alike.counterpart first
    simp only [second]
    cases one : withStatement? p₁ statement with
    | none => exact agree_throw
    | some q₁ =>
      obtain ⟨q₂, two, grown⟩ := alike_with_statement kept one
      simp only [two]
      exact agree_edit fun _ _ _ => grown

theorem uniform_grant (role : Role) (kind : GrantKind) (target : String)
    (statements : List PolicyStatement) : Uniform T (role.grant kind target statements) := by
  refine uniform_bind (uniform_record_grant _) fun recorded => ?_
  cases recorded with
  | true =>
    exact uniform_bind (uniform_forM fun statement _ => role.uniform_add_to_policy statement)
      fun _ => uniform_pure _
  | false => exact uniform_pure _

end Role

namespace LogGroup

theorem uniform_declare (scope : List String) (id : String) (retention : Retention)
    (removal : RemovalPolicy) : Uniform T (LogGroup.declare scope id retention removal) :=
  uniform_declared _ _ _

end LogGroup

namespace Cluster

theorem uniform_declare (id : String) : Uniform T (Cluster.declare id) :=
  uniform_declared _ _ _

end Cluster

namespace UserPool

theorem uniform_declare (id : String) (settings : UserPoolSettings) :
    Uniform T (UserPool.declare id settings) :=
  uniform_declared _ _ _

end UserPool

/-! Networks: the name of the stack is in the tags of all their parts. -/

@[simp] theorem bare_tag (key value : String) :
    (tagJson key value).bare = .obj [("Key", .null), ("Value", .null)] := by
  simp [tagJson, Json.bare_field_eq]

@[simp] theorem bare_name_tag (value : String) :
    (nameTag value).bare = .obj [("Key", .null), ("Value", .null)] := bare_tag "Name" value

namespace Subnet

variable {path : List String} {networkId tag₁ tag₂ : String} {gateway : Option (String × String)}

theorem agree_declare (group : SubnetGroup) (zone : Nat) (block : Cidr) :
    Agree T (declare ⟨path, networkId, tag₁, gateway⟩ group zone block)
      (declare ⟨path, networkId, tag₂, gateway⟩ group zone block) Eq := by
  refine agree_bind (StackSynth.agree_declare ?_) ?_
  · simp [subnetResource, Resource.bare, Json.bare_field_eq]
  rintro logicalId _ rfl
  refine agree_bind (StackSynth.agree_declare ?_) ?_
  · simp [routeTableResource, Resource.bare, Json.bare_field_eq]
  rintro tableId _ rfl
  refine uniform_bind (uniform_declare _ _) fun associationId => ?_
  dsimp only
  split
  · exact uniform_bind (uniform_declare _ _) fun _ => uniform_bind (uniform_pure _)
      fun _ => uniform_pure _
  · exact uniform_bind (uniform_pure _) fun _ => uniform_pure _

end Subnet

namespace Vpc

variable {tag₁ tag₂ : String}

theorem agree_declare_gateway (id networkId : String) :
    Agree T (declareGateway id networkId tag₁) (declareGateway id networkId tag₂) Eq := by
  refine agree_bind (agree_declare ?_) ?_
  · simp [Resource.bare, Json.bare_field_eq]
  rintro gateway _ rfl
  exact uniform_declared _ _ _

theorem agree_declare_zones {path : List String} {networkId : String}
    {gateway : Option (String × String)} (group : SubnetGroup) (left : Nat) :
    ∀ (zone : Nat) (blocks : List Cidr),
      Agree T (declareZones ⟨path, networkId, tag₁, gateway⟩ group zone left blocks)
        (declareZones ⟨path, networkId, tag₂, gateway⟩ group zone left blocks) Eq := by
  induction left with
  | zero => intro zone blocks; exact agree_pure rfl
  | succ left ih =>
    intro zone blocks
    cases blocks with
    | nil => exact agree_throw
    | cons block rest =>
      refine agree_bind (Subnet.agree_declare group zone block) ?_
      rintro subnet _ rfl
      refine agree_bind (ih (zone + 1) rest) ?_
      rintro result _ rfl
      exact agree_pure rfl

theorem agree_declare_groups {path : List String} {networkId : String}
    {gateway : Option (String × String)} (zones : Nat) (groups : List SubnetGroup) :
    ∀ blocks : List Cidr,
      Agree T (declareGroups ⟨path, networkId, tag₁, gateway⟩ zones groups blocks)
        (declareGroups ⟨path, networkId, tag₂, gateway⟩ zones groups blocks) Eq := by
  induction groups with
  | nil => intro blocks; exact agree_pure rfl
  | cons group rest ih =>
    intro blocks
    refine agree_bind (agree_declare_zones group zones 0 blocks) ?_
    rintro result _ rfl
    refine agree_bind (ih result.2) ?_
    rintro more _ rfl
    exact agree_pure rfl

theorem agree_declare_nat (subnet : Subnet) :
    Agree T (declareNat tag₁ subnet) (declareNat tag₂ subnet) Eq := by
  unfold declareNat
  extract_lets inner tags₁ tags₂
  have same : tags₁.bare = tags₂.bare := by simp [tags₁, tags₂]
  refine agree_bind (agree_declare ?_) ?_
  · simp [Resource.bare, Json.bare_field_eq, same]
  rintro address _ rfl
  refine agree_lift_same fun association _ => ?_
  dsimp only
  refine agree_declare ?_
  rw [Resource.bare_add_dependencies, Resource.bare_add_dependencies]
  simp [Resource.bare, Json.bare_field_eq, same]

theorem uniform_route_egress (id : String) (gateways : List String) (subnet : Subnet) :
    Uniform T (routeEgress id gateways subnet) := by
  unfold routeEgress
  split
  · split
    · exact uniform_throw
    · exact uniform_declared _ _ _
  · exact uniform_pure _

theorem uniform_add_endpoint (vpc : Vpc) (id : String) (service : GatewayService) :
    Uniform T (vpc.addEndpoint id service) := uniform_declared _ _ _

theorem uniform_declare (id : String) (settings : VpcSettings) :
    Uniform T (Vpc.declare id settings) := by
  unfold Uniform Vpc.declare
  refine agree_lift_same fun cidr _ => agree_lift_same fun _ _ => agree_get fun s₁ s₂ _ => ?_
  refine agree_bind (agree_declare (by simp [vpcResource, Resource.bare, Json.bare_field_eq])) ?_
  rintro networkId _ rfl
  extract_lets finish₁ finish₂
  have finished : ∀ gateway, Agree T (finish₁ gateway) (finish₂ gateway) Eq := by
    intro gateway
    refine agree_lift_same fun blocks _ => ?_
    refine agree_bind (agree_declare_groups _ _ _) ?_
    rintro subnets _ rfl
    refine agree_bind (agree_mapM agree_declare_nat) ?_
    rintro gateways _ rfl
    refine uniform_bind (agree_mapM (uniform_route_egress id gateways)) fun routed => ?_
    exact uniform_foldlM (fun vpc endpoint => vpc.uniform_add_endpoint endpoint.1 endpoint.2) _
  split
  · refine agree_bind (agree_map (R := Eq) (agree_declare_gateway id networkId) ?_) ?_
    · rintro ids _ rfl
      rfl
    rintro gateway _ rfl
    exact finished gateway
  · rw [pure_bind, pure_bind]
    exact finished none

end Vpc

namespace SecurityGroup

theorem agree_declare (scope : List String) (id : String) (vpc : Vpc)
    (description₁ description₂ : Option String) (allowsAllOutbound : Bool) :
    Agree T (SecurityGroup.declare scope id vpc description₁ allowsAllOutbound)
      (SecurityGroup.declare scope id vpc description₂ allowsAllOutbound) Eq := by
  refine agree_get fun s₁ s₂ _ => ?_
  refine agree_declared ?_ fun _ => rfl
  simp [Resource.bare, Json.bare_field_eq]

theorem uniform_allow_from_block (group : SecurityGroup) (block : String) (port : UInt16)
    (description : String) : Uniform T (group.allowFromBlock block port description) :=
  agree_push_property (by decide) rfl

theorem uniform_allow_from (group peer : SecurityGroup) (port : UInt16) (description : String) :
    Uniform T (group.allowFrom peer port description) := by
  refine uniform_bind (uniform_declare _ _) fun _ => ?_
  split
  · exact uniform_declared _ _ _
  · exact uniform_pure _

end SecurityGroup

namespace TaskDefinition

theorem uniform_role_or (given : Option Role) (id roleId : String) :
    Uniform T (roleOr given id roleId) := by
  cases given with
  | some role => exact uniform_pure role
  | none => exact Role.uniform_declare _ _ _

/-- The task needs a name of its own besides that of the stack, which may differ. -/
theorem uniform_declare {id : String} (shown : id ≠ LogicalId.hidden)
    (named : LogicalId.alphanumerics id ≠ []) (settings : TaskSettings) :
    Uniform T (TaskDefinition.declare id settings) := by
  refine uniform_unless ?_
  refine uniform_bind (uniform_role_or _ _ _) fun taskRole => ?_
  refine uniform_bind (uniform_role_or _ _ _) fun executionRole => ?_
  refine agree_get fun s₁ s₂ _ => agree_lift (fun _ _ _ => LogicalId.ofPath_below shown named _)
    fun family₁ family₂ _ _ => ?_
  refine agree_declared ?_ fun _ => rfl
  simp [resourceFor, Resource.bare, Json.bare_field_eq]

end TaskDefinition

namespace Container

variable {s₁ s₂ : Stack}

theorem bare_listed (r : Resource) : listed r.bare = (listed r).map Json.bare :=
  Resource.items_bare (by decide) r

theorem alike_listed {r₁ r₂ : Resource} (alike : r₁.bare = r₂.bare) :
    (listed r₁).map Json.bare = (listed r₂).map Json.bare := by
  rw [← bare_listed, ← bare_listed, alike]

theorem alike_entries (alike : s₁.Alike s₂) (c : Container) :
    (c.entry? s₁).map Json.bare = (c.entry? s₂).map Json.bare := by
  have read : ∀ s, (c.entry? s).map Json.bare =
      ((s.resource? c.taskDefinitionId).map Resource.bare).bind fun r => (listed r)[c.index]? := by
    intro s
    unfold entry?
    simp only [Option.map_bind, Option.bind_map, Function.comp_def, bare_listed,
      List.getElem?_map]
  rw [read, read, alike.resource?]

/-- The list in a field of the entry, without its texts. -/
theorem alike_lists {key : String} (ordinary : key ∉ Json.wholeKeys) (alike : s₁.Alike s₂)
    (c : Container) :
    (((c.entry? s₁).bind (·.field? key)).bind Json.asArr?).map (List.map Json.bare) =
      (((c.entry? s₂).bind (·.field? key)).bind Json.asArr?).map (List.map Json.bare) := by
  have read : ∀ entry : Option Json,
      ((entry.bind (·.field? key)).bind Json.asArr?).map (List.map Json.bare) =
        ((entry.map Json.bare).bind (·.field? key)).bind Json.asArr? := by
    rintro (_ | entry)
    · rfl
    · simp only [Option.bind_some, Option.map_some, Json.field?_bare]
      cases entry.field? key with
      | none => rfl
      | some value =>
        simp only [Option.bind_some, Option.map_some, Json.bare_field_ordinary ordinary,
          Json.asArr?_bare]
  rw [read, read, alike_entries alike]

/-- Names and ports are what a container is read for. -/
theorem field?_read {key : String} (read : key ∈ Json.readKeys) (item : Json) :
    item.bare.field? key = item.field? key := by
  rw [Json.field?_bare]
  cases item.field? key with
  | none => rfl
  | some value => rw [Option.map_some, Json.bare_field_read read]

theorem alike_environment_names (alike : s₁.Alike s₂) (c : Container) :
    c.environmentNames s₁ = c.environmentNames s₂ := by
  have read : ∀ items : Option (List Json),
      ((items.getD []).filterMap fun item => (item.field? "Name").bind Json.asStr?) =
        ((items.map (List.map Json.bare)).getD []).filterMap fun item =>
          (item.field? "Name").bind Json.asStr? := by
    rintro (_ | items)
    · rfl
    · simp [List.filterMap_map, field?_read (by decide : "Name" ∈ Json.readKeys)]
  rw [environmentNames, environmentNames, read, alike_lists (by decide) alike, ← read]

theorem alike_ports (alike : s₁.Alike s₂) (c : Container) : c.port? s₁ = c.port? s₂ := by
  have read : ∀ s, c.port? s =
      (((((c.entry? s).bind (·.field? "PortMappings")).bind Json.asArr?).map
        (List.map Json.bare)).bind List.head?).bind fun mapping =>
          ((mapping.field? "ContainerPort").bind Json.asInt?).bind fun n =>
            if 0 ≤ n ∧ n < 65536 then some (UInt16.ofNat n.toNat) else none := by
    intro s
    simp only [port?, bind, Option.bind_map, Option.bind_assoc, Function.comp_def, List.head?_map,
      field?_read (by decide : "ContainerPort" ∈ Json.readKeys)]
  rw [read, read, alike_lists (by decide) alike]

end Container

namespace Service

theorem uniform_declare (id : String) (cluster : Cluster) (task : TaskDefinition) (vpc : Vpc)
    (settings : ServiceSettings) : Uniform T (Service.declare id cluster task vpc settings) := by
  unfold Service.declare
  split
  · exact uniform_throw
  · refine uniform_bind (SecurityGroup.agree_declare _ _ _ _ _ _) fun group => ?_
    refine uniform_bind (StackSynth.uniform_declare _ _) fun logicalId => ?_
    exact uniform_bind (uniform_wait_for_path _ _) fun _ => uniform_pure _

theorem uniform_register (service : Service) (group : Value) :
    Uniform T (service.register group) := by
  refine agree_get fun s₁ s₂ alike => ?_
  rw [Container.alike_ports alike]
  cases service.defaultContainer.port? s₂ with
  | none => exact agree_throw
  | some port => exact agree_push_property (by decide) rfl

end Service

namespace LoadBalancer

theorem uniform_declare {id : String} (shown : id ≠ LogicalId.hidden)
    (named : LogicalId.alphanumerics id ≠ []) (vpc : Vpc) (internetFacing : Bool) :
    Uniform T (LoadBalancer.declare id vpc internetFacing) := by
  refine agree_get fun s₁ s₂ _ => agree_lift (fun _ _ _ => LogicalId.ofPath_below shown named _)
    fun unique₁ unique₂ _ _ => ?_
  refine agree_bind (SecurityGroup.agree_declare _ _ _ _ _ _) ?_
  rintro group _ rfl
  exact uniform_unless (uniform_declared _ _ _)

end LoadBalancer

namespace Listener

theorem uniform_declare (balancer : LoadBalancer) (id : String) (settings : ListenerSettings) :
    Uniform T (Listener.declare balancer id settings) := by
  refine uniform_bind (uniform_lift _) fun _ => ?_
  refine uniform_bind (StackSynth.uniform_declare _ _) fun logicalId => ?_
  split
  · exact uniform_bind (SecurityGroup.uniform_allow_from_block _ _ _ _) fun _ => uniform_pure _
  · exact uniform_pure _

theorem uniform_attach (listener : Listener) (group : TargetGroup) (target : Target) :
    Uniform T (listener.attach group target) := by
  have registers : Uniform T (target.register group.arn) := by
    cases target with
    | service service => exact service.uniform_register _
    | other => exact uniform_pure _
  refine uniform_bind registers fun _ => uniform_bind (uniform_wait_for_path _ _) fun _ => ?_
  split
  · exact SecurityGroup.uniform_allow_from _ _ _ _
  · exact uniform_pure _

theorem alike_default_actions {s₁ s₂ : Stack} (alike : s₁.Alike s₂) (listener : Listener) :
    listener.hasDefaultAction s₁ = listener.hasDefaultAction s₂ := by
  have read : ∀ s, listener.hasDefaultAction s =
      (((s.resource? listener.logicalId).map Resource.bare).elim false fun r =>
        !(r.items actionsKey).isEmpty) := by
    intro s
    unfold hasDefaultAction
    cases s.resource? listener.logicalId with
    | none => rfl
    | some r =>
      rw [Option.map_some, Option.elim_some, Resource.items_bare (by decide), Resource.items]
      simp only [Option.bind_some]
      cases r.property? actionsKey with
      | none => rfl
      | some value => cases value <;> simp [Json.asArr?]
  rw [read, read, alike.resource?]

theorem uniform_add_targets (listener : Listener) (id : String) (port : UInt16)
    (protocol : ApplicationProtocol) (targets : List Target) :
    Uniform T (listener.addTargets id port protocol targets) := by
  unfold addTargets
  split
  · exact uniform_throw
  · refine uniform_unless (agree_get fun s₁ s₂ alike => ?_)
    rw [listener.alike_default_actions alike]
    refine uniform_unless ?_
    refine uniform_bind (StackSynth.uniform_declare _ _) fun logicalId => ?_
    refine uniform_bind (agree_push_property (by decide) rfl) fun _ => ?_
    exact uniform_bind (uniform_forM fun target _ => listener.uniform_attach _ target)
      fun _ => uniform_pure _

end Listener

namespace AutoDelete

theorem uniform_provider : Uniform T provider := by
  refine uniform_bind (uniform_lift _) fun roleId => uniform_bind (uniform_lift _) fun handlerId =>
    agree_get fun s₁ s₂ alike => ?_
  rw [alike.contains]
  split
  · refine uniform_bind (uniform_declare _ _) fun _ => ?_
    exact uniform_declared _ _ _
  · exact uniform_pure _

end AutoDelete

namespace Bucket

theorem uniform_declare_emptying (bucket : Bucket) : Uniform T bucket.declareEmptying := by
  refine uniform_bind AutoDelete.uniform_provider fun ids => ?_
  exact uniform_bind (uniform_declare _ _) fun policyId => uniform_declared _ _ _

theorem uniform_declare (id : String) (settings : BucketSettings) :
    Uniform T (Bucket.declare id settings) := by
  refine uniform_unless (uniform_bind (StackSynth.uniform_declare _ _) fun logicalId => ?_)
  dsimp only
  split
  · exact uniform_bind (uniform_declare_emptying _) fun _ => uniform_pure _
  · exact uniform_pure _

end Bucket

namespace Table

theorem uniform_declare (id : String) (settings : TableSettings) :
    Uniform T (Table.declare id settings) :=
  uniform_bind (uniform_lift _) fun _ => uniform_declared _ _ _

end Table

end StackSynth
