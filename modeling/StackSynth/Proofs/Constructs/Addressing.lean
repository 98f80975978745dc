import StackSynth.Proofs.Constructs.Routing
import StackSynth.Proofs.Network.Texts
import StackSynth.Proofs.Stack.Names

/-!
How a network gives addresses to its subnets. The blocks of its split are handed out in order, zone
by zone within each group. Each subnet tells the block and the zone that it is kept with, and unless
the number of subnets has no room in its word there is a block for each of them.
-/
namespace StackSynth

namespace Subnet

/-- What a declared subnet tells of its addresses: its id, its block and its zone. -/
def telling (entry : Declaration) : String × Option Json × Option Json :=
  (entry.1, entry.2.resource.property? "CidrBlock", entry.2.resource.property? "AvailabilityZone")

/-- What is told of a subnet with its id, its block and its zone. -/
def told (subnet : Subnet) : String × Option Json × Option Json :=
  (subnet.logicalId, some (.str subnet.cidr.text), some subnet.zoneJson)

end Subnet

/-- What the subnets among the declared resources tell. -/
def tellings (added : List Declaration) : List (String × Option Json × Option Json) :=
  (Layout.ofType "AWS::EC2::Subnet" added).map Subnet.telling

theorem tellings_append (a b : List Declaration) : tellings (a ++ b) = tellings a ++ tellings b := by
  simp only [tellings, Layout.ofType, List.filter_append, List.map_append]

namespace Subnet

variable {around : Surroundings} {group : SubnetGroup} {zone : Nat} {block : Cidr}

theorem declare_tells : Adds (declare around group zone block) fun subnet added =>
    tellings added = [subnet.told] ∧ subnet.cidr = block := by
  unfold declare
  extract_lets name path tag
  refine adds_bind (adds_declare _ _) fun logicalId _ same => ?_
  subst same
  refine adds_bind (adds_declare _ _) fun tableId _ same => ?_
  subst same
  refine adds_bind (adds_declare _ _) fun associationId _ same => ?_
  subst same
  extract_lets finish
  split
  · refine adds_bind (adds_declare _ _) fun route _ same => ?_
    subst same
    rw [pure_bind]
    exact adds_pure ⟨rfl, rfl⟩
  · rw [pure_bind]
    exact adds_pure ⟨rfl, rfl⟩

end Subnet

namespace Vpc

variable {around : Subnet.Surroundings}

/-- The blocks are taken from the front, and those that are left come back. -/
theorem declare_zones_tell {group : SubnetGroup} (left : Nat) :
    ∀ (zone : Nat) (blocks : List Cidr), Adds (declareZones around group zone left blocks)
      fun result added => tellings added = result.1.map Subnet.told ∧
        result.1.map (·.cidr) ++ result.2 = blocks ∧ result.1.length = left := by
  induction left with
  | zero =>
    intro zone blocks
    exact adds_pure ⟨rfl, rfl, rfl⟩
  | succ left ih =>
    intro zone blocks
    cases blocks with
    | nil => exact adds_throw
    | cons block rest =>
      refine adds_bind Subnet.declare_tells fun subnet first ⟨tells, own⟩ => ?_
      refine adds_bind (ih (zone + 1) rest) fun result more ⟨others, blocks, length⟩ =>
        adds_pure ⟨?_, ?_, ?_⟩
      · rw [List.append_nil, tellings_append, tells, others, List.map_cons, List.singleton_append]
      · rw [List.map_cons, own, List.cons_append, blocks]
      · rw [List.length_cons, length]

theorem declare_groups_tell (zones : Nat) (groups : List SubnetGroup) :
    ∀ blocks : List Cidr, Adds (declareGroups around zones groups blocks) fun subnets added =>
      tellings added = subnets.map Subnet.told ∧ subnets.map (·.cidr) <+: blocks := by
  induction groups with
  | nil =>
    intro blocks
    exact adds_pure ⟨rfl, List.nil_prefix⟩
  | cons group rest ih =>
    intro blocks
    refine adds_bind (declare_zones_tell zones 0 blocks) fun result first ⟨here, taken, _⟩ => ?_
    refine adds_bind (ih result.2) fun subnets more ⟨others, later⟩ => adds_pure ⟨?_, ?_⟩
    · rw [List.append_nil, tellings_append, here, others, List.map_append]
    · rw [List.map_append, ← taken]
      exact (List.prefix_append_right_inj _).mpr later

/-- The number of blocks that a network is split into, as a word. -/
def blockCount (settings : VpcSettings) : UInt64 :=
  UInt64.ofNat settings.groups.length * settings.zones

theorem places_length (zones : Nat) (groups : List SubnetGroup) :
    (places zones groups).length = groups.length * zones := by
  induction groups with
  | nil => rw [places, List.flatMap_nil, List.length_nil, List.length_nil, Nat.zero_mul]
  | cons group rest ih =>
    rw [← List.singleton_append, places_append, List.length_append, ih, List.length_append,
      Nat.add_mul]
    simp [places]

section Plan

variable {settings : VpcSettings} {vpc : Vpc} {added : List Declaration} {id : String}

theorem block_count_eq (settings : VpcSettings) : (blockCount settings).toNat =
    settings.groups.length * settings.zones.toNat % 2 ^ 64 := by
  rw [blockCount, UInt64.toNat_mul, UInt64.toNat_ofNat', Nat.mod_mul_mod]

theorem split_into {c : Cidr} {count : UInt64} {blocks : List Cidr}
    (split : c.split count = .ok blocks) : ∃ bits, c.SplitsInto bits count.toNat blocks := by
  rcases c.split_cases count with ⟨none, made⟩ | ⟨_, ⟨_, refused⟩ | ⟨_, fits, made⟩⟩
  · cases made.symm.trans split
    exact ⟨c.bits, by constructor <;> simp [none]⟩
  · cases refused.symm.trans split
  · cases made.symm.trans split
    exact ⟨_, Cidr.parts_split fits (Nat.le_pow_clog Nat.one_lt_two _)⟩

end Plan

end Vpc

/-! There is always a block. -/

/-- The failure where no address block is left for a subnet. -/
def outOfBlocks : Failure := .internal "ran out of address blocks while allocating subnets"

theorem LogicalId.enough_blocks (path : List String) : ofPath path ≠ .error outOfBlocks := by
  intro failed
  unfold ofPath at failed
  split at failed
  · simp [outOfBlocks] at failed
  · next only _ =>
    by_cases none : alphanumerics only = []
    · simp [none, outOfBlocks] at failed
    · by_cases short : (alphanumerics only).length ≤ readableLimit
      · simp [none, short] at failed
      · simp [none, short] at failed
  · cases failed

theorem Cidr.enough_blocks (c : Cidr) (count : UInt64) : c.split count ≠ .error outOfBlocks := by
  intro failed
  rcases c.split_cases count with ⟨_, made⟩ | ⟨_, ⟨_, refused⟩ | ⟨_, _, made⟩⟩
  · cases made.symm.trans failed
  · cases refused.symm.trans failed
  · cases made.symm.trans failed

theorem Cidr.parse_refusal {s : String} {e : Failure} (refused : parse s = .error e) :
    ∃ construct message, e = .invalidProps construct message := by
  unfold parse at refused
  split at refused
  · cases refused
    exact ⟨_, _, rfl⟩
  · split at refused
    · unfold make at refused
      split at refused
      · split at refused
        · cases refused
        · cases refused
          exact ⟨_, _, rfl⟩
      · cases refused
        exact ⟨_, _, rfl⟩
    · cases refused
      exact ⟨_, _, rfl⟩

theorem VpcSettings.check_refusal {settings : VpcSettings} {id : String} {e : Failure}
    (refused : settings.check id = .error e) : ∃ message, e = .invalidProps id message := by
  unfold check at refused
  by_cases no_zones : settings.zones = 0
  · rw [if_pos no_zones] at refused
    cases refused
    exact ⟨_, rfl⟩
  rw [if_neg no_zones] at refused
  by_cases no_groups : settings.groups.isEmpty = true
  · rw [if_pos no_groups] at refused
    cases refused
    exact ⟨_, rfl⟩
  rw [if_neg no_groups] at refused
  rcases bad : badName? [] settings.groups with _ | name
  · rw [bad] at refused
    by_cases many : settings.zones < settings.natCount
    · rw [if_pos many] at refused
      cases refused
      exact ⟨_, rfl⟩
    rw [if_neg many] at refused
    by_cases egress : settings.hasKind .withEgress = true
    · rw [if_pos egress] at refused
      by_cases none : settings.natCount = 0
      · rw [if_pos none] at refused
        cases refused
        exact ⟨_, rfl⟩
      rw [if_neg none] at refused
      by_cases closed : (!settings.hasKind .isPublic) = true
      · rw [if_pos closed] at refused
        cases refused
        exact ⟨_, rfl⟩
      · rw [if_neg closed] at refused
        cases refused
    · rw [if_neg egress] at refused
      cases refused
  · rw [bad] at refused
    cases refused
    exact ⟨_, rfl⟩

theorem declare_enough (path : List String) (r : Resource) :
    Avoids outOfBlocks (Stack.declare path r) :=
  avoids_declare (LogicalId.enough_blocks path) (by simp [outOfBlocks])

namespace Subnet

variable {around : Surroundings} {group : SubnetGroup} {zone : Nat} {block : Cidr} {e : Failure}

/-- The name of a subnet always leaves a trace in the ids below it. -/
theorem name_shown (group : String) (zone : Nat) :
    s!"{group}Subnet{zone + 1}" ≠ LogicalId.hidden := by
  intro same
  have inside : "Subnet".toList <:+: s!"{group}Subnet{zone + 1}".toList := by
    refine ⟨group.toList, (toString (zone + 1)).toList, ?_⟩
    simp [toString]
  rw [same] at inside
  exact absurd inside (by decide)

theorem part_avoids (part : String) (seen : part ≠ LogicalId.hidden) (r : Resource)
    (other : ∀ id, e ≠ .duplicateLogicalId id) :
    Avoids e (Stack.declare (around.path ++ [s!"{group.name}Subnet{zone + 1}"] ++ [part]) r) := by
  obtain ⟨id, named⟩ := LogicalId.ofPath_inside around.path (name_shown group.name zone) seen
  exact avoids_declare (by rw [named]; exact fun same => by cases same) other

/-- A subnet fails only where an id is taken. -/
theorem declare_avoids (other : ∀ id, e ≠ .duplicateLogicalId id) :
    Avoids e (declare around group zone block) := by
  unfold declare
  extract_lets name path tag
  apply avoids_bind (part_avoids "Subnet" (by decide) _ other)
  intro logicalId _ _ _
  apply avoids_bind (part_avoids "RouteTable" (by decide) _ other)
  intro tableId _ _ _
  apply avoids_bind (part_avoids "RouteTableAssociation" (by decide) _ other)
  intro associationId _ _ _
  extract_lets finish
  split
  · apply avoids_bind (part_avoids "DefaultRoute" (by decide) _ other)
    intro route _ _ _
    rw [pure_bind]
    exact avoids_pure _
  · rw [pure_bind]
    exact avoids_pure _

end Subnet

namespace Vpc

variable {around : Subnet.Surroundings}

theorem declare_zones_enough {group : SubnetGroup} {left zone : Nat} {blocks : List Cidr}
    (enough : left ≤ blocks.length) :
    Avoids outOfBlocks (declareZones around group zone left blocks) := by
  induction left generalizing zone blocks with
  | zero => exact avoids_pure _
  | succ left ih =>
    cases blocks with
    | nil => cases enough
    | cons block rest =>
      apply avoids_bind (Subnet.declare_avoids (by simp [outOfBlocks]))
      intro subnet _ _ _
      apply avoids_bind (ih (Nat.le_of_succ_le_succ enough))
      intro result _ _ _
      exact avoids_pure _

theorem declare_groups_enough {zones : Nat} {groups : List SubnetGroup} {blocks : List Cidr}
    (enough : groups.length * zones ≤ blocks.length) :
    Avoids outOfBlocks (declareGroups around zones groups blocks) := by
  induction groups generalizing blocks with
  | nil => exact avoids_pure _
  | cons group rest ih =>
    rw [List.length_cons, Nat.succ_mul] at enough
    apply avoids_bind (declare_zones_enough (Nat.le_of_add_left_le enough))
    intro result s s' made
    obtain ⟨added, -, -, -, taken, length⟩ := adds_run (declare_zones_tell zones 0 blocks) made
    -- the zones of this group have taken as many blocks as there are zones
    have left : blocks.length = zones + result.2.length := by
      rw [← taken, List.length_append, List.length_map, length]
    apply avoids_bind (ih (by omega))
    intro more _ _ _
    exact avoids_pure _

theorem declare_nat_enough {tagPath : String} (subnet : Subnet) :
    Avoids outOfBlocks (declareNat tagPath subnet) := by
  unfold declareNat
  extract_lets inner tags
  apply avoids_bind (declare_enough _ _)
  intro address _ _ _
  apply avoids_bind (avoids_lift (LogicalId.enough_blocks _))
  intro association _ _ _
  exact declare_enough _ _

theorem route_egress_enough {id : String} {nats : List String} (subnet : Subnet) :
    Avoids outOfBlocks (routeEgress id nats subnet) := by
  unfold routeEgress
  split
  · split
    · exact avoids_throw (by simp [outOfBlocks])
    · apply avoids_bind (declare_enough _ _)
      intro route _ _ _
      exact avoids_pure _
  · exact avoids_pure _

theorem declare_gateway_enough {id networkId tagPath : String} :
    Avoids outOfBlocks (declareGateway id networkId tagPath) := by
  unfold declareGateway
  apply avoids_bind (declare_enough _ _)
  intro gateway _ _ _
  apply avoids_bind (declare_enough _ _)
  intro attachment _ _ _
  exact avoids_pure _

theorem add_endpoint_enough (vpc : Vpc) (id : String) (service : GatewayService) :
    Avoids outOfBlocks (vpc.addEndpoint id service) := by
  unfold addEndpoint
  extract_lets path
  apply avoids_bind (declare_enough _ _)
  intro logicalId _ _ _
  exact avoids_pure _

/-- There is a block for each subnet, if a word can count the subnets. -/
theorem declare_enough {id : String} {settings : VpcSettings}
    (countable : settings.groups.length * settings.zones.toNat < 2 ^ 64) :
    Avoids outOfBlocks (declare id settings) := by
  unfold declare
  apply avoids_bind
  · apply avoids_lift
    intro refused
    obtain ⟨_, _, other⟩ := Cidr.parse_refusal refused
    cases other
  intro cidr _ _ _
  apply avoids_bind
  · apply avoids_lift
    intro refused
    obtain ⟨_, other⟩ := VpcSettings.check_refusal refused
    cases other
  intro _ _ _ _
  apply avoids_get
  intro s
  extract_lets tagPath
  apply avoids_bind (StackSynth.declare_enough _ _)
  intro logicalId _ _ _
  extract_lets finish
  have finished : ∀ gateway, Avoids outOfBlocks (finish gateway) := by
    intro gateway
    apply avoids_bind (avoids_lift (Cidr.enough_blocks _ _))
    intro blocks s s' made
    have split : cidr.split (blockCount settings) = .ok blocks := congrArg Prod.fst made
    obtain ⟨bits, parts⟩ := split_into split
    have number : blocks.length = settings.groups.length * settings.zones.toNat := by
      rw [parts.length_eq, block_count_eq, Nat.mod_eq_of_lt countable]
    extract_lets around
    apply avoids_bind (declare_groups_enough (Nat.le_of_eq number.symm))
    intro subnets _ _ _
    extract_lets hosts
    apply avoids_bind (avoids_mapM declare_nat_enough _)
    intro nats _ _ _
    apply avoids_bind (avoids_mapM route_egress_enough _)
    intro routed _ _ _
    extract_lets bare
    apply avoids_foldlM
    intro vpc endpoint
    exact add_endpoint_enough vpc endpoint.1 endpoint.2
  split
  · apply avoids_bind (avoids_map declare_gateway_enough)
    intro gateway _ _ _
    exact finished gateway
  · rw [pure_bind]
    exact finished none

end Vpc

end StackSynth
