import StackSynth.Network.SecurityGroup
import StackSynth.Proofs.Constructs.Network

/-!
Security groups, as steps of a stack. What may reach a group is told by a list that grows and by
resources of their own; only ports that the terms open are open to everyone.
-/
namespace StackSynth

variable {t : Terms} {s s' : Stack} {id : String}

namespace SecurityGroup

variable {group peer : SecurityGroup} {vpc : Vpc}

def Valid (group : SecurityGroup) (s : Stack) : Prop :=
  group.toConstruct.Stands s "Resource" "AWS::EC2::SecurityGroup"

theorem Valid.grows (valid : group.Valid s) (grows : s.Grows s') : group.Valid s' :=
  grows.at_ valid

theorem within_egress_rule (P : String → Prop) (allowsAllOutbound : Bool) :
    Json.Within P (egressRule allowsAllOutbound) := by
  unfold egressRule
  split <;> simp

theorem declare_obeys {scope : List String} {description : Option String}
    {allowsAllOutbound : Bool}
    (network : ∃ path, s.At vpc.logicalId path "AWS::EC2::VPC")
    (declares : t.declares (scope ++ [id] ++ ["Resource"]) "AWS::EC2::SecurityGroup") :
    Obeys t s (declare scope id vpc description allowsAllOutbound) fun group s' =>
      group.Valid s' ∧ group.path = scope ++ [id] ∧
        group.allowsAllOutbound = allowsAllOutbound := by
  unfold declare
  extract_lets path
  refine obeys_get ?_
  extract_lets text
  obtain ⟨_, network⟩ := network
  have admitted : Admits t s "AWS::EC2::SecurityGroup" vpc.logicalId :=
    .below network (by decide)
  have fits : Fits t s (path ++ ["Resource"]) {
      type := "AWS::EC2::SecurityGroup"
      properties := [
        ("GroupDescription", .str text),
        ("SecurityGroupEgress", .arr [egressRule allowsAllOutbound]),
        ("VpcId", vpc.vpcId.toJson)] } := by
    refine fits_tidy "AWS::EC2::SecurityGroup" rfl declares ?_ ?_ (by simp) (by decide)
    · simp [Resource.within_iff, within_egress_rule, Vpc.vpcId, admitted]
    · refine tidy_group rfl rfl fun items found => ?_
      simp [Resource.property?, Fields.get?] at found
  exact obeys_bind (obeys_declare fits) fun logicalId s₁ _ declared =>
    obeys_pure ⟨declared.there, rfl, rfl⟩

theorem first_port_nat {rule : Json} {port : UInt16}
    (found : rule.field? "FromPort" = some (.nat port.toUInt64)) :
    Audit.firstPort rule = some port.toNat := by
  simp [Audit.firstPort, found, Json.nat, Json.asInt?, JsonInt.ofUInt64]

theorem tidy_push_rule {r : Resource} {rule : Json} (type : r.type = "AWS::EC2::SecurityGroup")
    (tidy : Tidy t r) (guarded : Guarded t rule) :
    Tidy t (r.pushProperty "SecurityGroupIngress" rule) := by
  obtain ⟨items, same, old⟩ := r.push_property_eq "SecurityGroupIngress" rule
  have document : r.property? "PolicyDocument" = none := by
    by_contra present
    have late := tidy.document present
    rw [type] at late
    exact absurd late (by decide)
  rw [same]
  refine tidy_group type ?_ fun rules found => ?_
  · rw [Resource.property_with_property, if_neg (by decide), document]
  · rw [Resource.property_with_property, if_pos rfl] at found
    cases found
    intro other member
    rcases List.mem_append.mp member with before | last
    · rcases old with present | rfl
      · exact tidy.rules type items present other before
      · simp at before
    · cases List.mem_singleton.mp last
      exact guarded

/-- What is let in from a block may be let in from everywhere only where the terms say so. -/
theorem allow_from_block_obeys {block description : String} {port : UInt16} (valid : group.Valid s)
    (opens : block = anyAddress → t.opens port) :
    Obeys t s (group.allowFromBlock block port description) fun _ _ => True := by
  refine obeys_forget (obeys_push valid (by decide) (by simp) fun r type tidy =>
    tidy_push_rule type tidy fun everyone => ⟨port, opens ?_, first_port_nat rfl⟩)
  simpa [Audit.isOpenToAll, Json.field?, Fields.get?, Json.asStr?, anyAddress] using everyone

/-- The paths that the two halves of a rule between groups are declared under. -/
structure Connected (t : Terms) (group peer : SecurityGroup) (port : UInt16) : Prop where
  ingress : t.declares (group.path ++ [s!"from {peer.logicalId}:{port}"])
    "AWS::EC2::SecurityGroupIngress"
  egress : peer.allowsAllOutbound = false →
    t.declares (peer.path ++ [s!"to {group.logicalId}:{port}"]) "AWS::EC2::SecurityGroupEgress"

theorem leaf_ne_handler {leaf : String} {c : Char} {rest : List Char}
    (starts : leaf.toList = c :: rest) (other : c ≠ 'H') (path : List String) :
    (path ++ [leaf]).getLast? ≠ some "Handler" := by
  intro same
  rw [List.getLast?_append, List.getLast?_singleton] at same
  cases same
  exact other (List.cons.inj starts).1.symm

theorem allow_from_obeys {port : UInt16} {description : String} (valid : group.Valid s)
    (peer_valid : peer.Valid s) (connected : Connected t group peer port) :
    Obeys t s (group.allowFrom peer port description) fun _ _ => True := by
  unfold allowFrom
  have ingress_fits : Fits t s (group.path ++ [s!"from {peer.logicalId}:{port}"]) {
      type := "AWS::EC2::SecurityGroupIngress"
      properties := [
        ("Description", .str description),
        ("FromPort", .nat port.toUInt64),
        ("GroupId", group.groupId.toJson),
        ("IpProtocol", .str "tcp"),
        ("SourceSecurityGroupId", peer.groupId.toJson),
        ("ToPort", .nat port.toUInt64)] } := by
    refine fits_tidy "AWS::EC2::SecurityGroupIngress" rfl connected.ingress ?_ ?_
      (leaf_ne_handler (by simp; rfl) (by decide) _) (by decide)
    · have admitted : Admits t s "AWS::EC2::SecurityGroupIngress" group.logicalId :=
        .below valid (by decide)
      have admitted_peer : Admits t s "AWS::EC2::SecurityGroupIngress" peer.logicalId :=
        .below peer_valid (by decide)
      simp [Resource.within_iff, groupId, admitted, admitted_peer]
    · refine ⟨absurd rfl, fun same => ?_, fun same => ?_, fun same => ?_, fun _ everyone => ?_,
        fun same => ?_⟩
      · simp at same
      · simp at same
      · simp at same
      · simp [Audit.isOpenToAll, Json.field?, Fields.get?] at everyone
      · simp at same
  refine obeys_bind (obeys_declare ingress_fits) fun _ s₁ first _ => ?_
  split
  · next closed =>
    have egress_fits : Fits t s₁ (peer.path ++ [s!"to {group.logicalId}:{port}"]) {
        type := "AWS::EC2::SecurityGroupEgress"
        properties := [
          ("Description", .str description),
          ("DestinationSecurityGroupId", group.groupId.toJson),
          ("FromPort", .nat port.toUInt64),
          ("GroupId", peer.groupId.toJson),
          ("IpProtocol", .str "tcp"),
          ("ToPort", .nat port.toUInt64)] } := by
      refine fits_plain "AWS::EC2::SecurityGroupEgress" rfl
        (connected.egress (by simpa using closed)) ?_ (absurd rfl) (leaf_ne_handler (by simp; rfl) (by decide) _) (by decide)
      have admitted : Admits t s₁ "AWS::EC2::SecurityGroupEgress" group.logicalId :=
        .below (first.at_ valid) (by decide)
      have admitted_peer : Admits t s₁ "AWS::EC2::SecurityGroupEgress" peer.logicalId :=
        .below (first.at_ peer_valid) (by decide)
      simp [Resource.within_iff, groupId, admitted, admitted_peer]
    exact obeys_bind (obeys_declare egress_fits) fun _ _ _ _ => obeys_pure trivial
  · exact obeys_pure trivial

end SecurityGroup

end StackSynth
