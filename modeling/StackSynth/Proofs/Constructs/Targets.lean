import StackSynth.Network.LoadBalancer
import StackSynth.Proofs.Constructs.ContainerLists
import StackSynth.Proofs.Stack.Runs

/-!
Targets of a listener. Adding targets enters each service in a list of its own, lets it wait for the
listener, and opens it to the load balancer on one port; nothing else changes on the way.
-/
namespace StackSynth

variable {s s' s'' : Stack} {port : UInt16}

/-! What changes on the way. -/

/-- The lists that are appended to when targets are added. -/
def enteredKeys : List String := [Listener.actionsKey, "LoadBalancers"]

/-- These lists, the lists of containers, and the lists of rules. -/
def watchedKeys : List String := enteredKeys ++ [Container.listKey, "SecurityGroupIngress"]

/-- A resource is as it was, but for what was entered in its lists. -/
structure Resource.SameButEntries (r r' : Resource) : Prop where
  type : r'.type = r.type
  properties : ∀ key ∉ enteredKeys, r'.property? key = r.property? key

namespace Resource

variable {r r' r'' : Resource}

theorem same_but_entries_refl (r : Resource) : r.SameButEntries r := ⟨rfl, fun _ _ => rfl⟩

theorem same_but_entries_trans (first : r.SameButEntries r') (second : r'.SameButEntries r'') :
    r.SameButEntries r'' :=
  ⟨second.type.trans first.type, fun key other =>
    (second.properties key other).trans (first.properties key other)⟩

theorem same_but_entries_push {key : String} (entered : key ∈ enteredKeys) (value : Json) :
    r.SameButEntries (r.pushProperty key value) := by
  refine ⟨r.type_push_property key value, fun k other => ?_⟩
  exact property_push_property fun same => other (same ▸ entered)

/-- A rule between groups is for the one port. -/
def OpensOnly (port : UInt16) (r : Resource) : Prop :=
  r.type = "AWS::EC2::SecurityGroupIngress" →
    r.property? "FromPort" = some (.nat port.toUInt64) ∧
    r.property? "ToPort" = some (.nat port.toUInt64)

theorem OpensOnly.entered (opens : r.OpensOnly port) (same : r.SameButEntries r') :
    r'.OpensOnly port := by
  intro type
  rw [same.properties "FromPort" (by decide), same.properties "ToPort" (by decide)]
  exact opens (same.type ▸ type)

end Resource

/-- Lists have gained values at their ends, and resources have been added that open no port but one;
nothing else has changed. -/
structure Stack.Enters (s : Stack) (port : UInt16) (gained : String → String → List Json)
    (s' : Stack) : Prop where
  keeps : s.Amends Resource.SameButEntries s'
  news : ∀ id r', s'.resource? id = some r' →
    (∃ r, s.resource? id = some r ∧ r.SameButEntries r') ∨ r'.OpensOnly port
  lists : ∀ id, ∀ key ∈ watchedKeys, s'.listAt id key = s.listAt id key ++ gained id key
  waits : s.waits ⊆ s'.waits

namespace Stack

variable {id key : String} {r : Resource} {gained gained' : String → String → List Json}

/-- Nothing is gained. -/
def nothing : String → String → List Json := fun _ _ => []

theorem enters_of_declared (same : s'.declared = s.declared) (waits : s.waits ⊆ s'.waits) :
    s.Enters port nothing s' := by
  have resources (id : String) : s'.resource? id = s.resource? id := by
    rw [resource?, same, resource?]
  refine ⟨fun id r there => ⟨r, (resources id).trans there, r.same_but_entries_refl⟩,
    fun id r there => .inl ⟨r, (resources id).symm.trans there, r.same_but_entries_refl⟩,
    fun id key _ => ?_, waits⟩
  rw [listAt, resources, nothing, List.append_nil, listAt]

theorem enters_refl (s : Stack) : s.Enters port nothing s :=
  enters_of_declared rfl (List.Subset.refl _)

theorem Enters.trans (first : s.Enters port gained s') (second : s'.Enters port gained' s'') :
    s.Enters port (fun id key => gained id key ++ gained' id key) s'' := by
  constructor
  · exact amends_trans (fun _ _ _ => Resource.same_but_entries_trans) first.keeps second.keeps
  · intro id r'' there
    rcases second.news id r'' there with ⟨r', there', same'⟩ | new
    · rcases first.news id r' there' with ⟨r, old, same⟩ | new
      · exact .inl ⟨r, old, Resource.same_but_entries_trans same same'⟩
      · exact .inr (new.entered same')
    · exact .inr new
  · intro id key watched
    rw [second.lists id key watched, first.lists id key watched, List.append_assoc]
  · exact List.Subset.trans first.waits second.waits

/-- Before a step that gains nothing. -/
theorem Enters.before (second : s'.Enters port gained s'') (first : s.Enters port nothing s') :
    s.Enters port gained s'' := first.trans second

/-- After a step that gains nothing. -/
theorem Enters.then (first : s.Enters port gained s') (second : s'.Enters port nothing s'') :
    s.Enters port gained s'' := by
  have both := first.trans second
  simpa only [nothing, List.append_nil] using both

theorem enters_insert (free : s.contains id = false) (path : List String)
    (opens : r.OpensOnly port) (empty : ∀ key ∈ watchedKeys, r.listAt key = []) :
    s.Enters port nothing (s.insert id path r) := by
  constructor
  · exact amends_insert Resource.same_but_entries_refl free path r
  · intro k r' there
    rw [resource_insert] at there
    split at there
    · cases there
      exact .inr opens
    · exact .inl ⟨r', there, r'.same_but_entries_refl⟩
  · intro k key watched
    rw [list_at_insert free path (empty key watched), nothing, List.append_nil]
  · exact List.Subset.refl _

theorem enters_push (port : UInt16) {value : Json} (entered : key ∈ enteredKeys)
    (pushed : s.run (pushProperty id key value) = (.ok (), s')) :
    s.Enters port (fun k key' => if id = k ∧ key = key' then [value] else []) s' := by
  rw [pushProperty, run_edit] at pushed
  split at pushed
  · next there =>
    cases pushed
    have same (r : Resource) := Resource.same_but_entries_push (r := r) entered value
    constructor
    · exact amends_modify Resource.same_but_entries_refl fun r _ => same r
    · intro k r' found
      rw [resource_modify, Option.map_eq_some_iff] at found
      obtain ⟨r, old, rfl⟩ := found
      refine .inl ⟨r, old, ?_⟩
      split
      · exact same r
      · exact r.same_but_entries_refl
    · exact fun k key' _ => list_at_push there key value k key'
    · exact List.Subset.refl _
  · cases pushed

end Stack

/-! Rules between groups. -/

namespace SecurityGroup

/-- What a rule says that lets the members of another group in on a port. -/
def ingress (g peer : SecurityGroup) (port : UInt16) : Fields := [
  ("FromPort", .nat port.toUInt64),
  ("GroupId", g.groupId.toJson),
  ("IpProtocol", .str "tcp"),
  ("SourceSecurityGroupId", peer.groupId.toJson),
  ("ToPort", .nat port.toUInt64)]

/-- What a rule says that lets the members of the other group out to these. -/
def egress (g peer : SecurityGroup) (port : UInt16) : Fields := [
  ("DestinationSecurityGroupId", g.groupId.toJson),
  ("FromPort", .nat port.toUInt64),
  ("GroupId", peer.groupId.toJson),
  ("IpProtocol", .str "tcp"),
  ("ToPort", .nat port.toUInt64)]

end SecurityGroup

namespace Stack

variable {type : String} {said : Fields} {gained : String → String → List Json}

/-- A resource of a type is declared that has all of these properties. -/
def HasRule (s : Stack) (type : String) (said : Fields) : Prop :=
  ∃ id r, s.resource? id = some r ∧ r.type = type ∧
    ∀ entry ∈ said, r.property? entry.1 = some entry.2

theorem HasRule.entered (rule : s.HasRule type said) (enters : s.Enters port gained s')
    (kept : ∀ entry ∈ said, entry.1 ∉ enteredKeys) : s'.HasRule type said := by
  obtain ⟨id, r, there, same, properties⟩ := rule
  obtain ⟨r', there', entered⟩ := enters.keeps id r there
  refine ⟨id, r', there', entered.type.trans same, fun entry member => ?_⟩
  rw [entered.properties entry.1 (kept entry member)]
  exact properties entry member

/-- Declaring a resource that opens no other port gains nothing. -/
theorem enters_declare (port : UInt16) {path : List String} {r : Resource} {id : String}
    (declared : s.run (declare path r) = (.ok id, s')) (opens : r.OpensOnly port)
    (other : ∀ entry ∈ r.properties, entry.1 ∉ watchedKeys) :
    s.Enters port nothing s' ∧ s'.resource? id = some r := by
  obtain ⟨-, free, rfl⟩ := run_declare_ok declared
  have empty : ∀ key ∈ watchedKeys, r.listAt key = [] := by
    intro key watched
    have absent : r.property? key = none := by
      rw [Resource.property?, Fields.get?_eq_none_iff]
      rintro entry member rfl
      exact other entry member watched
    rw [Resource.listAt, absent]
    rfl
  refine ⟨enters_insert (free_iff.mp free).1 path opens empty, ?_⟩
  rw [resource_insert, if_pos rfl]

end Stack

namespace SecurityGroup

variable {g peer : SecurityGroup} {description : String}

/-- What letting one group in at another leaves, where it succeeds. -/
theorem run_allow_from (allowed : s.run (g.allowFrom peer port description) = (.ok (), s')) :
    s.Enters port Stack.nothing s' ∧
      s'.HasRule "AWS::EC2::SecurityGroupIngress" (g.ingress peer port) ∧
      (peer.allowsAllOutbound = false →
        s'.HasRule "AWS::EC2::SecurityGroupEgress" (g.egress peer port)) := by
  obtain ⟨inId, s₁, declared, allowed⟩ := run_bind_ok allowed
  obtain ⟨first, there⟩ := Stack.enters_declare port declared
    (fun _ => ⟨rfl, rfl⟩)
    (by simp [watchedKeys, enteredKeys, Listener.actionsKey, Container.listKey])
  have ingress : s₁.HasRule "AWS::EC2::SecurityGroupIngress" (g.ingress peer port) := by
    refine ⟨inId, _, there, rfl, ?_⟩
    simp only [SecurityGroup.ingress, List.forall_mem_cons]
    exact ⟨rfl, rfl, rfl, rfl, rfl, List.forall_mem_nil _⟩
  cases outbound : peer.allowsAllOutbound with
  | true =>
    rw [outbound] at allowed
    cases allowed
    refine ⟨first, ingress, fun closed => ?_⟩
    cases closed
  | false =>
    rw [outbound, if_pos (by rfl)] at allowed
    obtain ⟨outId, s₂, declared, done⟩ := run_bind_ok allowed
    cases done
    obtain ⟨second, there⟩ := Stack.enters_declare port declared
      (fun type => absurd type (by simp))
      (by simp [watchedKeys, enteredKeys, Listener.actionsKey, Container.listKey])
    have egress : s'.HasRule "AWS::EC2::SecurityGroupEgress" (g.egress peer port) := by
      refine ⟨outId, _, there, rfl, ?_⟩
      simp only [SecurityGroup.egress, List.forall_mem_cons]
      exact ⟨rfl, rfl, rfl, rfl, rfl, List.forall_mem_nil _⟩
    have kept : ∀ entry ∈ g.ingress peer port, entry.1 ∉ enteredKeys := by
      simp [SecurityGroup.ingress, enteredKeys, Listener.actionsKey]
    exact ⟨first.then second, ingress.entered second kept, fun _ => egress⟩

end SecurityGroup

/-! Entering services. -/

variable {group : TargetGroup} {l : Listener}

namespace Service

variable {service : Service}

/-- The entry of a service at a group of targets. -/
def entryAt (inner : Service) (group : TargetGroup) (port : UInt16) : Json := .obj [
  ("ContainerName", .str inner.defaultContainer.name),
  ("ContainerPort", .nat port.toUInt64),
  ("TargetGroupArn", group.arn.toJson)]

/-- A service that is registered has a container with a port, and is entered with it. -/
theorem run_register (port : UInt16)
    (registered : s.run (service.register group.arn) = (.ok (), s')) :
    ∃ first, service.defaultContainer.port? s = some first ∧
      s.Enters port (fun id key => if service.logicalId = id ∧ "LoadBalancers" = key then
        [service.entryAt group first] else []) s' := by
  unfold register at registered
  obtain ⟨_, _, got, registered⟩ := run_bind_ok registered
  cases got
  split at registered
  · cases registered
  · next first found => exact ⟨first, found, Stack.enters_push port (by decide) registered⟩

end Service

namespace Target

variable {target : Target} {id key : String}

/-- What a target is entered with in a list of a resource. -/
def entries (target : Target) (group : TargetGroup) (s : Stack) (id key : String) : List Json :=
  match target with
  | .service inner =>
    if inner.logicalId = id ∧ "LoadBalancers" = key then
      ((inner.defaultContainer.port? s).map (inner.entryAt group)).toList
    else []
  | .other .. => []

theorem entries_other_key (other : "LoadBalancers" ≠ key) (targets : List Target) :
    (targets.flatMap fun target => target.entries group s id key) = [] := by
  rw [List.flatMap_eq_nil_iff]
  intro target _
  cases target with
  | service inner => exact if_neg fun both => other both.2
  | other => rfl

/-- What targets are entered with is told by the lists of containers. -/
theorem entries_of_lists
    (same : ∀ id, s'.listAt id Container.listKey = s.listAt id Container.listKey)
    (target : Target) : target.entries group s' id key = target.entries group s id key := by
  cases target with
  | service inner => rw [entries, entries, Container.port_of_lists same]
  | other => rfl

theorem run_register (port : UInt16)
    (registered : s.run (target.register group.arn) = (.ok (), s')) :
    (∀ inner, target = .service inner → ∃ first, inner.defaultContainer.port? s = some first) ∧
      s.Enters port (target.entries group s) s' := by
  cases target with
  | service inner =>
    obtain ⟨first, found, enters⟩ := Service.run_register port registered
    have same : (Target.service inner).entries group s = fun id key =>
        if inner.logicalId = id ∧ "LoadBalancers" = key then [inner.entryAt group first]
        else [] := by
      funext id key
      rw [entries, found]
      rfl
    rw [same]
    refine ⟨fun other equal => ?_, enters⟩
    cases equal
    exact ⟨first, found⟩
  | other =>
    cases registered
    exact ⟨(fun _ equal => nomatch equal), Stack.enters_refl s⟩

end Target

namespace Listener

/-- What attaching targets leaves: each of them is entered, waits for the listener, and is open to
the load balancer on the port of the group. -/
structure Serves (l : Listener) (group : TargetGroup) (targets : List Target) (s s' : Stack) :
    Prop where
  enters : s.Enters group.port
    (fun id key => targets.flatMap fun target => target.entries group s id key) s'
  ports : ∀ service, .service service ∈ targets →
    ∃ first, service.defaultContainer.port? s = some first
  waits : ∀ target ∈ targets, ⟨target.logicalId, l.path⟩ ∈ s'.waits
  ingress : ∀ target ∈ targets, ∀ g, target.securityGroup? = some g →
    s'.HasRule "AWS::EC2::SecurityGroupIngress" (g.ingress l.loadBalancer.securityGroup group.port)
  egress : ∀ target ∈ targets, ∀ g, target.securityGroup? = some g →
    l.loadBalancer.securityGroup.allowsAllOutbound = false →
    s'.HasRule "AWS::EC2::SecurityGroupEgress" (g.egress l.loadBalancer.securityGroup group.port)

variable {target : Target} {targets : List Target}

theorem serves_none (l : Listener) (group : TargetGroup) (s : Stack) : l.Serves group [] s s where
  enters := Stack.enters_refl s
  ports := fun _ member => nomatch member
  waits := List.forall_mem_nil _
  ingress := List.forall_mem_nil _
  egress := List.forall_mem_nil _

/-- What targets are entered with changes no list of containers. -/
theorem Serves.containers (serves : l.Serves group targets s s') (id : String) :
    s'.listAt id Container.listKey = s.listAt id Container.listKey := by
  rw [serves.enters.lists id Container.listKey (by decide),
    Target.entries_other_key (by decide), List.append_nil]

theorem Serves.cons (first : l.Serves group [target] s s') (rest : l.Serves group targets s' s'') :
    l.Serves group (target :: targets) s s'' where
  enters := by
    have both := first.enters.trans rest.enters
    simpa only [List.flatMap_cons, List.flatMap_nil, List.append_nil,
      Target.entries_of_lists first.containers] using both
  ports := by
    intro inner member
    rcases List.mem_cons.mp member with rfl | later
    · exact first.ports inner (List.mem_singleton_self _)
    · obtain ⟨port, found⟩ := rest.ports inner later
      exact ⟨port, (Container.port_of_lists first.containers _).symm.trans found⟩
  waits := List.forall_mem_cons.mpr
    ⟨rest.enters.waits (first.waits target (List.mem_singleton_self _)), rest.waits⟩
  ingress := by
    refine List.forall_mem_cons.mpr ⟨fun g given => ?_, rest.ingress⟩
    have rule := first.ingress target (List.mem_singleton_self _) g given
    exact rule.entered rest.enters (by
      simp [SecurityGroup.ingress, enteredKeys, actionsKey])
  egress := by
    refine List.forall_mem_cons.mpr ⟨fun g given closed => ?_, rest.egress⟩
    have rule := first.egress target (List.mem_singleton_self _) g given closed
    exact rule.entered rest.enters (by
      simp [SecurityGroup.egress, enteredKeys, actionsKey])

theorem run_attach (attached : s.run (l.attach group target) = (.ok (), s')) :
    l.Serves group [target] s s' := by
  obtain ⟨_, s₁, registered, attached⟩ := run_bind_ok attached
  obtain ⟨_, s₂, waited, attached⟩ := run_bind_ok attached
  obtain ⟨ports, first⟩ := Target.run_register group.port registered
  obtain ⟨waits, ran, more, waiting⟩ := run_wait_for_path s₁ target.logicalId l.path
  rw [ran] at waited
  cases waited
  have second : s₁.Enters group.port Stack.nothing { s₁ with waits } :=
    Stack.enters_of_declared rfl more
  have entered : s.Enters group.port
      (fun id key => [target].flatMap fun target => target.entries group s id key)
      { s₁ with waits } := by
    simpa only [List.flatMap_cons, List.flatMap_nil, List.append_nil] using first.then second
  have known : ∀ inner, .service inner ∈ [target] →
      ∃ first, inner.defaultContainer.port? s = some first := by
    intro inner member
    exact ports inner (List.mem_singleton.mp member).symm
  split at attached
  · next g given =>
    obtain ⟨third, ingress, egress⟩ := SecurityGroup.run_allow_from attached
    have sole : ∀ other ∈ [target], ∀ g', other.securityGroup? = some g' → g' = g := by
      rw [List.forall_mem_singleton]
      intro g' given'
      exact Option.some.inj (given'.symm.trans given)
    refine ⟨entered.then third, known, ?_, ?_, ?_⟩
    · exact List.forall_mem_singleton.mpr (third.waits waiting)
    · rintro other member g' given'
      rw [sole other member g' given']
      exact ingress
    · rintro other member g' given'
      rw [sole other member g' given']
      exact egress
  · next none =>
    cases attached
    have nobody : ∀ other ∈ [target], ∀ g', other.securityGroup? ≠ some g' := by
      rw [List.forall_mem_singleton]
      intro g' given
      rw [none] at given
      cases given
    refine ⟨entered, known, List.forall_mem_singleton.mpr waiting, ?_, ?_⟩
    · exact fun other member g given => absurd given (nobody other member g)
    · exact fun other member g given => absurd given (nobody other member g)

/-- By induction on the targets. -/
theorem run_attach_all (attached : s.run (targets.forM (l.attach group)) = (.ok (), s')) :
    l.Serves group targets s s' := by
  induction targets generalizing s with
  | nil =>
    cases attached
    exact serves_none l group _
  | cons target rest ih =>
    obtain ⟨_, s₁, first, later⟩ := run_bind_ok attached
    exact (run_attach first).cons (ih later)

/-- The action that sends everything to a group. -/
def forward (group : TargetGroup) : Json :=
  .obj [("TargetGroupArn", group.arn.toJson), ("Type", .str "forward")]

theorem no_actions (none : ¬ l.hasDefaultAction s = true) :
    s.listAt l.logicalId actionsKey = [] := by
  by_contra listed
  obtain ⟨r, there, found⟩ := Stack.resource_of_list_at listed
  apply none
  rw [hasDefaultAction, there, Option.bind_some, found]
  dsimp only
  rwa [Bool.not_eq_true', List.isEmpty_eq_false_iff]

/-- What is entered when targets are added: the action of the listener, and the targets. -/
def gains (l : Listener) (group : TargetGroup) (targets : List Target) (s : Stack)
    (id key : String) : List Json :=
  (if l.logicalId = id ∧ actionsKey = key then [forward group] else []) ++
    targets.flatMap fun target => target.entries group s id key

theorem gains_other_key {id key : String} (other : actionsKey ≠ key) :
    l.gains group targets s id key =
      targets.flatMap fun target => target.entries group s id key := by
  rw [gains, if_neg fun both => other both.2, List.nil_append]

/-- What adding targets leaves. The listener had nothing to do before, and now it has one action. -/
structure Takes (l : Listener) (group : TargetGroup) (port : UInt16) (targets : List Target)
    (s s' : Stack) : Prop where
  below : l.path <+: group.path
  idle : s.listAt l.logicalId actionsKey = []
  enters : s.Enters port (l.gains group targets s) s'
  ports : ∀ inner, .service inner ∈ targets → ∃ first, inner.defaultContainer.port? s = some first
  waits : ∀ target ∈ targets, ⟨target.logicalId, l.path⟩ ∈ s'.waits
  ingress : ∀ target ∈ targets, ∀ g, target.securityGroup? = some g →
    s'.HasRule "AWS::EC2::SecurityGroupIngress" (g.ingress l.loadBalancer.securityGroup port)
  egress : ∀ target ∈ targets, ∀ g, target.securityGroup? = some g →
    l.loadBalancer.securityGroup.allowsAllOutbound = false →
    s'.HasRule "AWS::EC2::SecurityGroupEgress" (g.egress l.loadBalancer.securityGroup port)

theorem run_add_targets {id : String} {protocol : ApplicationProtocol}
    (added : s.run (l.addTargets id port protocol targets) = (.ok group, s')) :
    l.Takes group port targets s s' := by
  unfold addTargets at added
  split at added
  · cases added
  · next target rest =>
    obtain ⟨-, added⟩ := run_unless_ok added
    obtain ⟨_, _, got, added⟩ := run_bind_ok added
    cases got
    obtain ⟨none, added⟩ := run_unless_ok added
    obtain ⟨logicalId, s₁, declared, added⟩ := run_bind_ok added
    obtain ⟨_, s₂, pushed, added⟩ := run_bind_ok added
    obtain ⟨_, s₃, attached, given⟩ := run_bind_ok added
    cases given
    obtain ⟨first, -⟩ := Stack.enters_declare port declared
      (fun type => absurd type (by simp [groupResource]))
      (by simp [groupResource, watchedKeys, enteredKeys, actionsKey, Container.listKey])
    have second := (Stack.enters_push port List.mem_cons_self pushed).before first
    have serves := run_attach_all attached
    have containers (id : String) :
        s₂.listAt id Container.listKey = s.listAt id Container.listKey := by
      rw [second.lists id Container.listKey (by decide),
        if_neg fun both => absurd both.2 (by decide), List.append_nil]
    refine ⟨List.prefix_append _ _, no_actions none, ?_, ?_, serves.waits, serves.ingress,
      serves.egress⟩
    · have both := second.trans serves.enters
      simp only [Target.entries_of_lists containers] at both
      exact both
    · intro inner member
      obtain ⟨first, found⟩ := serves.ports inner member
      exact ⟨first, (Container.port_of_lists containers _).symm.trans found⟩

end Listener

end StackSynth
