import StackSynth.Network.LoadBalancer
import StackSynth.Proofs.Constructs.Containers
import StackSynth.Proofs.Constructs.SecurityGroup

/-!
Services, and the load balancers in front of them, as steps of a stack. A service waits for the role
of its tasks from the start, and for the listener that it is a target of.
-/
namespace StackSynth

variable {t : Terms} {s s' : Stack} {id : String}

namespace TargetGroup

def Valid (group : TargetGroup) (s : Stack) : Prop :=
  group.toConstruct.Stands s "Resource" "AWS::ElasticLoadBalancingV2::TargetGroup"

theorem Valid.grows {group : TargetGroup} (valid : group.Valid s) (grows : s.Grows s') :
    group.Valid s' := grows.at_ valid

end TargetGroup

namespace Service

variable {service : Service} {cluster : Cluster} {task : TaskDefinition} {vpc : Vpc}

structure Valid (service : Service) (s : Stack) : Prop where
  itself : service.toConstruct.Stands s "Service" "AWS::ECS::Service"
  group : service.securityGroup.Valid s
  container : service.defaultContainer.Valid s

theorem Valid.grows (valid : service.Valid s) (grows : s.Grows s') : service.Valid s' :=
  ⟨grows.at_ valid.itself, valid.group.grows grows, valid.container.grows grows⟩

/-- The service runs the tasks of a definition and waits for their role. -/
structure Runs (service : Service) (task : TaskDefinition) (s : Stack) : Prop where
  runs : s.HasProperty service.logicalId "TaskDefinition" task.arn.toJson
  waits : ⟨service.logicalId, task.taskRole.path⟩ ∈ s.waits

theorem Runs.grows (runs : service.Runs task s) (grows : s.Grows s') : service.Runs task s' :=
  ⟨grows.hasProperty (by decide) runs.runs, grows.waits runs.waits⟩

structure Allowed (t : Terms) (id : String) (task : TaskDefinition) : Prop where
  itself : t.declares [id, "Service"] "AWS::ECS::Service"
  group : t.declares [id, "SecurityGroup", "Resource"] "AWS::EC2::SecurityGroup"
  awaits : t.awaits "AWS::ECS::Service" task.taskRole.path

theorem resource_for_within {P : String → Prop} {group : SecurityGroup}
    {settings : ServiceSettings} (cluster_member : P cluster.logicalId)
    (task_member : P task.logicalId) (group_member : P group.logicalId)
    (subnets : ∀ subnet ∈ vpc.subnets, P subnet.logicalId) :
    (resourceFor cluster task vpc group settings).Within P := by
  have chosen : ∀ subnet ∈ vpc.workloadSubnets, P subnet.logicalId := fun subnet member =>
    subnets subnet (Vpc.workload_subnets_mem member)
  have places : ∀ subnet ∈ vpc.workloadSubnets, Json.Within P subnet.subnetId.toJson := by
    intro subnet member
    rw [Subnet.subnetId, Value.within_ref]
    exact .inr (chosen subnet member)
  simpa [Resource.within_iff, resourceFor, Cluster.name, TaskDefinition.arn,
    SecurityGroup.groupId, cluster_member, task_member, group_member] using places

theorem declare_obeys {settings : ServiceSettings} (allowed : Allowed t id task)
    (cluster_valid : cluster.Valid s) (task_valid : task.Valid s) (vpc_valid : vpc.Valid s) :
    Obeys t s (declare id cluster task vpc settings) fun service s' =>
      service.Valid s' ∧ service.Runs task s' ∧ service.path = [id] ∧
        service.securityGroup.path = [id, "SecurityGroup"] := by
  unfold declare
  split
  · exact obeys_throw
  · next container found =>
    have essential : container ∈ task.essentials := by
      unfold TaskDefinition.defaultContainer? at found
      exact List.mem_of_mem_head? found
    have container_valid := task_valid.essentials container essential
    refine obeys_bind (SecurityGroup.declare_obeys ⟨_, vpc_valid.itself⟩ allowed.group)
      fun group s₁ first ⟨group_valid, group_path, _⟩ => ?_
    have fits : Fits t s₁ [id, "Service"] (resourceFor cluster task vpc group settings) := by
      refine fits_plain "AWS::ECS::Service" rfl allowed.itself ?_ (absurd rfl) (by simp) (by decide)
      refine resource_for_within (.below (first.at_ cluster_valid) (by decide))
        (.below (first.at_ task_valid.itself) (by decide)) (.below group_valid (by decide))
        fun subnet member => ?_
      exact .below (first.at_ (vpc_valid.subnets subnet member).itself) (by decide)
    refine obeys_bind (obeys_declare fits) fun logicalId s₂ second declared => ?_
    have itself : s₂.At logicalId [id, "Service"] "AWS::ECS::Service" := declared.there
    have role_there := task_valid.taskRole.grows first
    have resolves : s₂.Resolves ⟨logicalId, task.taskRole.path⟩ :=
      resolves_of_at (second.at_ role_there) (declared.other role_there)
        (List.prefix_append _ _) itself.contains
    have runs : s₂.HasProperty logicalId "TaskDefinition" task.arn.toJson :=
      declared.hasProperty (by simp [resourceFor, Resource.property?, Fields.get?])
    refine obeys_bind (obeys_wait_for_path itself allowed.awaits resolves)
      fun _ s₃ third waits => obeys_pure ?_
    exact ⟨⟨third.at_ itself, (group_valid.grows second).grows third,
      ((container_valid.grows first).grows second).grows third⟩,
      ⟨third.hasProperty (by decide) runs, waits⟩, rfl, group_path⟩

theorem register_obeys {group : TargetGroup} (valid : service.Valid s)
    (group_valid : group.Valid s) :
    Obeys t s (service.register group.arn) fun _ _ => True := by
  unfold register
  refine obeys_get ?_
  split
  · exact obeys_throw
  · next port _ =>
    have admitted : Admits t s "AWS::ECS::Service" group.logicalId := .below group_valid (by decide)
    have late : 0 < layer "AWS::ECS::Service" := by decide
    refine obeys_forget (obeys_push valid.itself (by decide) ?_ fun r type tidy => ?_)
    · simp [TargetGroup.arn, admitted, late]
    · exact tidy_push tidy (by decide) (by rw [type]; decide)

end Service

namespace LoadBalancer

variable {balancer : LoadBalancer} {vpc : Vpc}

structure Valid (balancer : LoadBalancer) (s : Stack) : Prop where
  itself : balancer.toConstruct.Stands s "Resource" "AWS::ElasticLoadBalancingV2::LoadBalancer"
  group : balancer.securityGroup.Valid s
  /-- What it sends has to be let out on each port by a rule. -/
  closed : balancer.securityGroup.allowsAllOutbound = false
  network : ∃ id path, balancer.vpcId = .ref id ∧ s.At id path "AWS::EC2::VPC"

theorem Valid.grows (valid : balancer.Valid s) (grows : s.Grows s') : balancer.Valid s' := by
  obtain ⟨itself, group, closed, ⟨id, path, same, network⟩⟩ := valid
  exact ⟨grows.at_ itself, group.grows grows, closed, ⟨id, path, same, grows.at_ network⟩⟩

structure Allowed (t : Terms) (id : String) : Prop where
  itself : t.declares [id, "Resource"] "AWS::ElasticLoadBalancingV2::LoadBalancer"
  group : t.declares [id, "SecurityGroup", "Resource"] "AWS::EC2::SecurityGroup"

theorem resource_for_eq (internetFacing : Bool) (group : SecurityGroup) (subnets : List Value)
    (routes : List String) : resourceFor internetFacing group subnets routes =
      { resourceFor internetFacing group subnets [] with
        dependsOn := (resourceFor internetFacing group subnets routes).dependsOn } := by
  unfold resourceFor
  exact Resource.add_dependencies_eq routes _

theorem resource_for_within {P : String → Prop} {internetFacing : Bool} {group : SecurityGroup}
    {kind : SubnetKind} {routes : List String} (group_member : P group.logicalId)
    (subnets : ∀ subnet ∈ vpc.subnets, P subnet.logicalId) (routes_member : ∀ r ∈ routes, P r) :
    (resourceFor internetFacing group (vpc.subnetIds kind) routes).Within P := by
  rw [Resource.within_iff]
  constructor
  · intro target needed
    rw [resourceFor, Resource.mem_add_dependencies] at needed
    rcases needed with none | route
    · simp at none
    · exact routes_member target route
  · have places : ∀ subnet ∈ vpc.subnetsOf kind, Json.Within P subnet.subnetId.toJson := by
      intro subnet member
      rw [Subnet.subnetId, Value.within_ref]
      exact .inr (subnets subnet (List.mem_of_mem_filter member))
    rw [resource_for_eq]
    simpa [resourceFor, tagJson, SecurityGroup.groupId, group_member, Vpc.subnetIds] using places

theorem internet_routes_known (valid : vpc.Valid s) :
    ∀ route ∈ vpc.internetRoutes, ∃ path, s.At route path "AWS::EC2::Route" := by
  intro route listed
  obtain ⟨subnet, chosen, same⟩ := List.mem_filterMap.mp listed
  exact (valid.subnets subnet (List.mem_of_mem_filter chosen)).route route
    (Option.mem_toList.mpr same)

theorem declare_obeys {internetFacing : Bool} (allowed : Allowed t id) (valid : vpc.Valid s) :
    Obeys t s (declare id vpc internetFacing) fun balancer s' =>
      balancer.Valid s' ∧ balancer.path = [id] ∧
        balancer.securityGroup.path = [id, "SecurityGroup"] := by
  unfold declare
  refine obeys_get (obeys_lift fun unique _ => ?_)
  refine obeys_bind (SecurityGroup.declare_obeys ⟨_, valid.itself⟩ allowed.group)
    fun group s₁ first ⟨group_valid, group_path, closed⟩ => ?_
  extract_lets kind subnets routes
  refine obeys_unless fun _ => ?_
  have known := valid.grows first
  have type : (resourceFor internetFacing group subnets routes).type =
      "AWS::ElasticLoadBalancingV2::LoadBalancer" := by
    rw [resource_for_eq]
    rfl
  have fits : Fits t s₁ [id, "Resource"] (resourceFor internetFacing group subnets routes) := by
    refine fits_plain "AWS::ElasticLoadBalancingV2::LoadBalancer" type allowed.itself ?_
      (absurd (by rw [resource_for_eq]; rfl)) (by simp) (by decide)
    refine resource_for_within (.below group_valid (by decide)) (fun subnet member => ?_)
      fun route listed => ?_
    · exact .below (known.subnets subnet member).itself (by decide)
    · have public_ : route ∈ vpc.internetRoutes := by
        simp only [routes] at listed
        split at listed
        · exact listed
        · simp at listed
      obtain ⟨_, there⟩ := internet_routes_known known route public_
      exact .below there (by decide)
  refine obeys_bind (obeys_declare fits) fun logicalId s₂ second declared => obeys_pure ?_
  exact ⟨⟨declared.at_ type, group_valid.grows second, closed,
    ⟨_, _, rfl, second.at_ known.itself⟩⟩, rfl, group_path⟩

end LoadBalancer

namespace Target

def Valid (target : Target) (s : Stack) : Prop :=
  match target with
  | .service inner => inner.Valid s
  | .other _ id group => s.contains id = true ∧ ∀ g ∈ group, g.Valid s

theorem Valid.grows {target : Target} (valid : target.Valid s) (grows : s.Grows s') :
    target.Valid s' := by
  cases target with
  | service service => exact Service.Valid.grows valid grows
  | other type id group =>
    exact ⟨grows.contains valid.1, fun g member => (valid.2 g member).grows grows⟩

theorem Valid.known {target : Target} (valid : target.Valid s) :
    ∃ path type, s.At target.logicalId path type := by
  cases target with
  | service service => exact ⟨_, _, Service.Valid.itself valid⟩
  | other type id group => exact (Stack.contains_iff_at s id).mp valid.1

theorem Valid.group {target : Target} {group : SecurityGroup} (valid : target.Valid s)
    (given : target.securityGroup? = some group) : group.Valid s := by
  cases target with
  | service service => cases given; exact Service.Valid.group valid
  | other type id other => exact valid.2 group given

end Target

namespace Listener

variable {listener : Listener} {balancer : LoadBalancer}

structure Valid (listener : Listener) (s : Stack) : Prop where
  itself : listener.toConstruct.Stands s "Resource" "AWS::ElasticLoadBalancingV2::Listener"
  balancer : listener.loadBalancer.Valid s

theorem Valid.grows (valid : listener.Valid s) (grows : s.Grows s') : listener.Valid s' :=
  ⟨grows.at_ valid.itself, valid.balancer.grows grows⟩

theorem resource_for_within {P : String → Prop} {settings : ListenerSettings}
    (itself : P balancer.logicalId)
    (certificates : ∀ arn ∈ settings.certificates, Json.Within P arn.toJson) :
    (resourceFor balancer settings).Within P := by
  rw [Resource.within_iff]
  refine ⟨by simp [resourceFor], ?_⟩
  simp only [resourceFor, List.forall_mem_append]
  constructor
  · split
    · simp
    · simpa using certificates
  · simp [LoadBalancer.arn, itself]

/-- A listener starts with nothing to do. -/
theorem resource_for_actions (balancer : LoadBalancer) (settings : ListenerSettings) :
    (resourceFor balancer settings).property? actionsKey = some (.arr []) := by
  unfold resourceFor Resource.property?
  cases settings.certificates.isEmpty <;> simp [Fields.get?, actionsKey]

theorem declare_obeys {settings : ListenerSettings} (valid : balancer.Valid s)
    (declares : t.declares (balancer.path ++ [id] ++ ["Resource"])
      "AWS::ElasticLoadBalancingV2::Listener")
    (opens : settings.isOpen = true → t.opens settings.port)
    (certificates : ∀ arn ∈ settings.certificates, Json.Within (AdmitsLate t s) arn.toJson) :
    Obeys t s (declare balancer id settings) fun listener s' => listener.Valid s' ∧
      listener.path = balancer.path ++ [id] ∧ listener.loadBalancer = balancer := by
  unfold declare
  refine obeys_lift fun _ _ => ?_
  extract_lets path
  have within : (resourceFor balancer settings).Within
      (Admits t s "AWS::ElasticLoadBalancingV2::Listener") := by
    refine resource_for_within (.below valid.itself (by decide)) fun arn member => ?_
    exact (certificates arn member).imp fun _ late => late _ (by decide)
  have tidy : Tidy t (resourceFor balancer settings) :=
    tidy_listener rfl ⟨[], resource_for_actions balancer settings, Nat.zero_le 1⟩
  have fits : Fits t s (path ++ ["Resource"]) (resourceFor balancer settings) :=
    fits_tidy "AWS::ElasticLoadBalancingV2::Listener" rfl declares within tidy (by simp) (by decide)
  refine obeys_bind (obeys_declare fits) fun logicalId s₁ first declared => ?_
  extract_lets finish
  have finished : ∀ s₂ : Stack, s₁.Grows s₂ → Obeys t s₂ (finish ()) fun listener s' =>
      listener.Valid s' ∧ listener.path = balancer.path ++ [id] ∧
        listener.loadBalancer = balancer := fun s₂ second =>
    obeys_pure ⟨⟨second.at_ declared.there, (valid.grows first).grows second⟩, rfl, rfl⟩
  split
  · next everyone =>
    exact obeys_bind (SecurityGroup.allow_from_block_obeys (valid.group.grows first)
      fun _ => opens everyone) fun _ s₂ second _ => finished s₂ second
  · exact finished s₁ (Stack.grows_refl s₁)

theorem acts_push {path : List String} {type : String} (there : s.At id path type) (action : Json) :
    (s.modify id (·.pushProperty actionsKey action)).Acts id := by
  obtain ⟨d, found, _, _⟩ := there
  obtain ⟨items, same, _⟩ := d.resource.push_property_eq actionsKey action
  have now : (s.modify id (·.pushProperty actionsKey action)).declared.get? id =
      some { d with resource := d.resource.withProperty actionsKey (.arr (items ++ [action])) } := by
    rw [Stack.get?_modify, found, Option.map_some, if_pos rfl, same]
  cases items with
  | nil => exact ⟨_, action, [], now, by rw [Resource.property_with_property, if_pos rfl]; rfl⟩
  | cons first rest =>
    exact ⟨_, first, rest ++ [action], now, by
      rw [Resource.property_with_property, if_pos rfl]; rfl⟩

/-- The listener has nothing to do by default. -/
def Idle (listener : Listener) (s : Stack) : Prop :=
  ∀ items, s.HasProperty listener.logicalId actionsKey (.arr items) → items = []

theorem idle_of_no_action (none : ¬ listener.hasDefaultAction s = true) : listener.Idle s := by
  rintro items ⟨d, found, has⟩
  have listed : (s.resource? listener.logicalId).bind (·.property? actionsKey) =
      some (.arr items) := by
    rw [Stack.resource?, found]
    exact has
  cases items with
  | nil => rfl
  | cons first rest =>
    rw [hasDefaultAction, listed] at none
    exact absurd rfl none

/-- What is declared besides it gives a listener nothing to do. -/
theorem Idle.declared {path : List String} {r : Resource} (idle : listener.Idle s)
    (valid : listener.Valid s) (declared : Declared s path r id s') : listener.Idle s' := by
  rintro items ⟨d, found, has⟩
  have other : id ≠ listener.logicalId := by
    rintro rfl
    have known := valid.itself.contains
    rw [declared.free] at known
    cases known
  rw [declared.same, Stack.get?_insert, if_neg other] at found
  exact idle items ⟨d, found, has⟩

theorem tidy_push_first {r : Resource} {action : Json}
    (type : r.type = "AWS::ElasticLoadBalancingV2::Listener")
    (idle : ∀ items, r.property? actionsKey = some (.arr items) → items = []) :
    Tidy t (r.pushProperty actionsKey action) := by
  obtain ⟨items, same, old⟩ := r.push_property_eq actionsKey action
  have none : items = [] := old.elim (idle items) fun empty => empty
  rw [same, none]
  refine tidy_listener type ⟨[action], ?_, Nat.le_refl 1⟩
  rw [Resource.property_with_property, if_pos rfl]
  rfl

/-- A listener that forwards to a group has something to do, and nothing else. -/
theorem forward_obeys {group : TargetGroup} (valid : listener.Valid s)
    (group_valid : group.Valid s) (idle : listener.Idle s) :
    Obeys t s (Stack.pushProperty listener.logicalId actionsKey (.obj [
      ("TargetGroupArn", group.arn.toJson),
      ("Type", .str "forward")])) fun _ s' => s'.Acts listener.logicalId := by
  have admitted : Admits t s "AWS::ElasticLoadBalancingV2::Listener" group.logicalId :=
    .below group_valid (by decide)
  have late : 0 < layer "AWS::ElasticLoadBalancingV2::Listener" := by decide
  refine obeys_imp (obeys_edit fun d found => ?_) fun _ _ _ _ same => ?_
  · have type := (Stack.At.unique valid.itself ⟨d, found, rfl, rfl⟩).2.symm
    refine grows_to_push (by decide) ?_ fun _ => ?_
    · simp [TargetGroup.arn, type, admitted, late]
    · exact tidy_push_first type fun items has => idle items ⟨d, found, has⟩
  · rw [same]
    exact acts_push valid.itself _

/-- What a target brings with it when it is attached. -/
structure Admitted (t : Terms) (s : Stack) (listener : Listener) (port : UInt16)
    (target : Target) : Prop where
  valid : target.Valid s
  awaits : ∃ path type, s.At target.logicalId path type ∧ t.awaits type listener.path
  connected : ∀ group, target.securityGroup? = some group →
    SecurityGroup.Connected t group listener.loadBalancer.securityGroup port

theorem Admitted.grows {port : UInt16} {target : Target}
    (admitted : Admitted t s listener port target) (grows : s.Grows s') :
    Admitted t s' listener port target := by
  obtain ⟨valid, ⟨path, type, there, awaits⟩, connected⟩ := admitted
  exact ⟨valid.grows grows, ⟨path, type, grows.at_ there, awaits⟩, connected⟩

theorem attach_obeys {group : TargetGroup} {target : Target} (valid : listener.Valid s)
    (group_valid : group.Valid s) (below : listener.path <+: group.path)
    (admitted : Admitted t s listener group.port target) :
    Obeys t s (listener.attach group target) fun _ _ => True := by
  unfold attach
  have registered : Obeys t s (target.register group.arn) fun _ _ => True := by
    cases target with
    | service service => exact Service.register_obeys admitted.valid group_valid
    | other type id given => exact obeys_pure trivial
  refine obeys_bind registered fun _ s₁ first _ => ?_
  obtain ⟨target_valid, ⟨path, type, there, awaits⟩, connected⟩ := admitted.grows first
  have resolves : s₁.Resolves ⟨target.logicalId, listener.path⟩ := by
    -- the listener itself answers the wait, or the group if it is the listener that waits
    by_cases same : listener.logicalId = target.logicalId
    · have apart : group.logicalId ≠ target.logicalId := by
        intro equal
        have types := Stack.At.unique (first.at_ valid.itself)
          (same.trans equal.symm ▸ first.at_ group_valid)
        exact absurd types.2 (by decide)
      exact resolves_of_at (first.at_ group_valid) apart (below.trans (List.prefix_append _ _))
        there.contains
    · exact resolves_of_at (first.at_ valid.itself) same (List.prefix_append _ _) there.contains
  refine obeys_bind (obeys_wait_for_path there awaits resolves) fun _ s₂ second _ => ?_
  split
  · next given asked =>
    exact SecurityGroup.allow_from_obeys ((target_valid.group asked).grows second)
      ((valid.balancer.group.grows first).grows second) (connected given asked)
  · exact obeys_pure trivial

theorem add_targets_obeys {port : UInt16} {protocol : ApplicationProtocol}
    {targets : List Target} (valid : listener.Valid s)
    (declares : t.declares (listener.path ++ [s!"{id}Group"] ++ ["Resource"])
      "AWS::ElasticLoadBalancingV2::TargetGroup")
    (admitted : ∀ target ∈ targets, Admitted t s listener port target) :
    Obeys t s (listener.addTargets id port protocol targets) fun group s' =>
      group.Valid s' ∧ s'.Acts listener.logicalId := by
  unfold addTargets
  split
  · exact obeys_throw
  · next first rest =>
    refine obeys_unless fun _ => obeys_get (obeys_unless fun none => ?_)
    extract_lets path
    have fits : Fits t s (path ++ ["Resource"])
        (listener.groupResource port protocol first.type) := by
      obtain ⟨network, _, same, there⟩ := valid.balancer.network
      have admitted : Admits t s "AWS::ElasticLoadBalancingV2::TargetGroup" network :=
        .below there (by decide)
      refine fits_plain "AWS::ElasticLoadBalancingV2::TargetGroup" rfl declares ?_ (absurd rfl)
        (by simp) (by decide)
      rw [Resource.within_iff]
      simp [groupResource, tagJson, same, admitted]
    refine obeys_bind (obeys_declare fits) fun logicalId s₁ grown declared => ?_
    extract_lets group
    have group_valid : group.Valid s₁ := declared.there
    have listener_valid := valid.grows grown
    have idle := (idle_of_no_action none).declared valid declared
    refine obeys_bind (forward_obeys listener_valid group_valid idle) fun _ s₂ second acts => ?_
    have attached : Obeys t s₂ ((first :: rest).forM (listener.attach group)) fun _ _ => True := by
      refine obeys_forM trivial fun s₃ third _ target member => ?_
      have all := Stack.grows_trans second third
      exact attach_obeys (listener_valid.grows all) (group_valid.grows all)
        (List.prefix_append _ _) ((admitted target member).grows (Stack.grows_trans grown all))
    exact obeys_bind attached fun _ s₃ third _ =>
      obeys_pure ⟨(group_valid.grows second).grows third, third.acts _ acts⟩

end Listener

end StackSynth
