import StackSynth.Proofs.Constructs.Forwarding

/-!
On which ports the members of one group are let in at another. Adding targets opens the services
among them to the load balancer on the port that the caller tells, and on no other. They are
registered with the port of their container, which may be a different one.
-/
namespace StackSynth

variable {s s' : Stack} {g peer : SecurityGroup} {l : Listener} {group : TargetGroup} {id : String}
  {port q : UInt16} {protocol : ApplicationProtocol} {targets : List Target}
  {gained : String → String → List Json} {said said' : String → Option Json}

/-- What a rule says lets the members of a group in on a port. -/
def SecurityGroup.LetIn (peer : SecurityGroup) (port : UInt16) (said : String → Option Json) :
    Prop :=
  said "IpProtocol" = some (.str "tcp") ∧
  said "SourceSecurityGroupId" = some peer.groupId.toJson ∧
  ∃ first last : Int, (said "FromPort").bind Json.asInt? = some first ∧
    (said "ToPort").bind Json.asInt? = some last ∧ first ≤ port.toNat ∧ (port.toNat : Int) ≤ last

/-- A rule lets the members of the peer in at the group on the port. The rule is a resource of its
own or stands in the list of the group. -/
def Stack.IsOpen (s : Stack) (g peer : SecurityGroup) (port : UInt16) : Prop :=
  (∃ id r, s.resource? id = some r ∧ r.type = "AWS::EC2::SecurityGroupIngress" ∧
    r.property? "GroupId" = some g.groupId.toJson ∧ peer.LetIn port r.property?) ∨
  ∃ rule ∈ s.listAt g.logicalId "SecurityGroupIngress", peer.LetIn port rule.field?

namespace SecurityGroup

theorem let_in_of_same (same : ∀ key ∉ enteredKeys, said' key = said key) :
    peer.LetIn port said' ↔ peer.LetIn port said := by
  rw [LetIn, LetIn, same "IpProtocol" (by decide), same "SourceSecurityGroupId" (by decide),
    same "FromPort" (by decide), same "ToPort" (by decide)]

/-- A rule for one port lets nobody in on another. -/
theorem LetIn.port_eq (lets : peer.LetIn q said)
    (first : said "FromPort" = some (.nat port.toUInt64))
    (last : said "ToPort" = some (.nat port.toUInt64)) : q = port := by
  obtain ⟨-, -, lower, upper, from_, to_, above, below⟩ := lets
  rw [first] at from_
  rw [last] at to_
  cases from_
  cases to_
  have same : q.toNat = port.toNat := le_antisymm (Int.ofNat_le.mp below) (Int.ofNat_le.mp above)
  exact UInt16.toNat_inj.mp same

end SecurityGroup

namespace Stack

theorem HasRule.isOpen
    (rule : s.HasRule "AWS::EC2::SecurityGroupIngress" (g.ingress peer port)) :
    s.IsOpen g peer port := by
  obtain ⟨id, r, there, type, properties⟩ := rule
  simp only [SecurityGroup.ingress, List.forall_mem_cons] at properties
  obtain ⟨first, at_, protocol, source, last, -⟩ := properties
  refine .inl ⟨id, r, there, type, at_, protocol, source, port.toNat, port.toNat, ?_, ?_, ?_⟩
  · rw [first]
    rfl
  · rw [last]
    rfl
  · exact ⟨le_refl _, le_refl _⟩

/-- What was open stays open. -/
theorem IsOpen.entered (was : s.IsOpen g peer q) (enters : s.Enters port gained s') :
    s'.IsOpen g peer q := by
  rcases was with ⟨id, r, there, type, at_, lets⟩ | ⟨rule, member, lets⟩
  · obtain ⟨r', there', same⟩ := enters.keeps id r there
    refine .inl ⟨id, r', there', same.type.trans type, ?_, ?_⟩
    · rw [same.properties "GroupId" (by decide), at_]
    · exact (SecurityGroup.let_in_of_same same.properties).mpr lets
  · refine .inr ⟨rule, ?_, lets⟩
    rw [enters.lists _ _ (by decide)]
    exact List.mem_append_left _ member

/-- Where no list of rules gains any, no port is opened but the one. -/
theorem IsOpen.before (now : s'.IsOpen g peer q) (enters : s.Enters port gained s')
    (none : ∀ id, gained id "SecurityGroupIngress" = []) : q = port ∨ s.IsOpen g peer q := by
  rcases now with ⟨id, r', there', type, at_, lets⟩ | ⟨rule, member, lets⟩
  · rcases enters.news id r' there' with ⟨r, there, same⟩ | opens
    · refine .inr (.inl ⟨id, r, there, same.type.symm.trans type, ?_, ?_⟩)
      · rw [← same.properties "GroupId" (by decide), at_]
      · exact (SecurityGroup.let_in_of_same same.properties).mp lets
    · exact .inl (lets.port_eq (opens type).1 (opens type).2)
  · rw [enters.lists _ _ (by decide), none, List.append_nil] at member
    exact .inr (.inr ⟨rule, member, lets⟩)

/-- No rule at all, no port. -/
theorem shut_of_no_rules
    (none : s.declared.entries.all (·.2.resource.type != "AWS::EC2::SecurityGroupIngress") = true)
    (empty : (s.listAt g.logicalId "SecurityGroupIngress").isEmpty = true) :
    ¬ s.IsOpen g peer port := by
  rintro (⟨id, r, there, type, -⟩ | ⟨rule, member, -⟩)
  · obtain ⟨d, found, rfl⟩ := Option.map_eq_some_iff.mp there
    have other := List.all_eq_true.mp none (id, d) ((OrderedMap.get?_eq_some_iff _ _ _).mp found)
    exact bne_iff_ne.mp other type
  · rw [List.isEmpty_iff.mp empty] at member
    cases member

end Stack

namespace Listener

theorem Takes.registered (takes : l.Takes group port targets s s') {inner : Service}
    (member : .service inner ∈ targets) {first : UInt16}
    (found : inner.defaultContainer.port? s = some first) :
    inner.entryAt group first ∈ s'.listAt inner.logicalId "LoadBalancers" := by
  rw [takes.entered]
  refine List.mem_append_right _ (List.mem_flatMap.mpr ⟨_, member, ?_⟩)
  rw [Target.entries, if_pos ⟨rfl, rfl⟩, found]
  exact List.mem_singleton_self _

theorem no_rules_gained (id : String) :
    l.gains group targets s id "SecurityGroupIngress" = [] := by
  rw [gains_other_key (by decide), Target.entries_other_key (by decide)]

/-- Each service among the targets is registered with the first port of its container. The load
balancer is let in at it on the port that the caller tells, and else where it was let in before. -/
theorem open_on_port_told
    (added : s.run (l.addTargets id port protocol targets) = (.ok group, s')) :
    ∀ inner, .service inner ∈ targets → ∃ first, inner.defaultContainer.port? s = some first ∧
      inner.entryAt group first ∈ s'.listAt inner.logicalId "LoadBalancers" ∧
      ∀ q, s'.IsOpen inner.securityGroup l.loadBalancer.securityGroup q ↔
        q = port ∨ s.IsOpen inner.securityGroup l.loadBalancer.securityGroup q := by
  intro inner member
  have takes := run_add_targets added
  obtain ⟨first, found⟩ := takes.ports inner member
  refine ⟨first, found, takes.registered member found, fun q => ?_⟩
  constructor
  · intro now
    exact now.before takes.enters no_rules_gained
  · rintro (rfl | was)
    · exact (takes.ingress _ member inner.securityGroup rfl).isOpen
    · exact was.entered takes.enters

end Listener

theorem web_service_open_on_its_port : ∃ (s s' : Stack) (l : Listener) (inner : Service)
    (group : TargetGroup), s.run (webTarget l inner 3000) = (.ok group, s') ∧
    inner.entryAt group 3000 ∈ s'.listAt inner.logicalId "LoadBalancers" ∧
    s'.IsOpen inner.securityGroup l.loadBalancer.securityGroup 3000 := by
  obtain ⟨s, l, inner, -, known, -, -, targeted⟩ := web_service_made
  obtain ⟨s', group, -, added, -⟩ := targeted 3000 (by simp)
  obtain ⟨first, found, entered, opened⟩ :=
    Listener.open_on_port_told added inner (List.mem_singleton_self _)
  cases found.symm.trans known
  exact ⟨s, s', l, inner, group, added, entered, (opened 3000).mpr (.inl rfl)⟩

/-- The service is registered with a port on which the load balancer is not let in at it. -/
theorem web_service_shut_on_its_port : ∃ (s s' : Stack) (known : List Handle) (l : Listener)
    (inner : Service) (group : TargetGroup),
    blank.run webService = (.ok (l, inner), s) ∧ Ran s known ∧
    (Operation.addTargets l "Web" 80 .http [.service inner]).Possible s known ∧
    s.run (l.addTargets "Web" 80 .http [.service inner]) = (.ok group, s') ∧
    inner.entryAt group 3000 ∈ s'.listAt inner.logicalId "LoadBalancers" ∧
    ¬ s'.IsOpen inner.securityGroup l.loadBalancer.securityGroup 3000 := by
  obtain ⟨s, l, inner, made, port, others, empty, targeted⟩ := web_service_made
  obtain ⟨s', group, -, added, -⟩ := targeted 80 (by simp)
  obtain ⟨known, ran, possible⟩ := web_service_ran made
  have takes := Listener.run_add_targets added
  refine ⟨s, s', known, l, inner, group, made, ran, possible 80, added,
    takes.registered (List.mem_singleton_self _) port, fun now => ?_⟩
  rcases now.before takes.enters Listener.no_rules_gained with same | was
  · exact absurd same (by decide)
  · exact Stack.shut_of_no_rules others empty was

end StackSynth
