import StackSynth.Proofs.Constructs.Addressing
import StackSynth.Proofs.Stack.Calls
import StackSynth.Proofs.Stack.Reached

/-!
Networks that are asked for more subnets than they have blocks for. None is declared. Where a word
can count the subnets, or what is left of their number in a word is still too large, the settings
are refused for it; where that word is small enough, the blocks run out.
-/
namespace StackSynth

namespace Cidr

/-- A network falls into as many blocks of one size, none of them smaller than is allowed. -/
def HasRoom (c : Cidr) (count : Nat) : Prop :=
  count = 0 ∨ ∃ k, c.bits + k ≤ smallestBits ∧ count ≤ 2 ^ k

variable {c : Cidr} {count : Nat}

theorem has_room_iff :
    c.HasRoom count ↔ count = 0 ∨ c.bits + Nat.clog 2 count ≤ smallestBits := by
  refine or_congr_right ⟨fun ⟨k, fits, enough⟩ => ?_, fun fits => ?_⟩
  · have least := (Nat.clog_le_iff_le_pow Nat.one_lt_two).mpr enough
    omega
  · exact ⟨_, fits, Nat.le_pow_clog Nat.one_lt_two count⟩

theorem HasRoom.fewer {less : Nat} (room : c.HasRoom count) (fewer : less ≤ count) :
    c.HasRoom less := by
  rcases room with rfl | ⟨k, fits, enough⟩
  · exact .inl (Nat.le_zero.mp fewer)
  · exact .inr ⟨k, fits, Nat.le_trans fewer enough⟩

/-- A split is refused for want of room and for nothing else. -/
theorem split_by_room (c : Cidr) (count : UInt64) :
    (¬ c.HasRoom count.toNat ∧ c.split count =
      .error (.invalidProps "Vpc" s!"{c.text} is too small to hold {count.toNat} subnets")) ∨
    (c.HasRoom count.toNat ∧ ∃ blocks, c.split count = .ok blocks ∧
      blocks.length = count.toNat) := by
  have zero : count = 0 ↔ count.toNat = 0 := by
    rw [← UInt64.toNat_inj]
    rfl
  rw [has_room_iff]
  rcases c.split_cases count with ⟨none, made⟩ | ⟨some, ⟨small, refused⟩ | ⟨large, _, made⟩⟩
  · exact .inr ⟨.inl (zero.mp none), [], made, (zero.mp none).symm⟩
  · refine .inl ⟨?_, refused⟩
    rintro (none | fits)
    · exact some (zero.mpr none)
    · exact Nat.not_le.mpr small fits
  · exact .inr ⟨.inr large, _, made, by rw [List.length_map, List.length_range]⟩

end Cidr

/-! Actions that fail. -/

section EndsIn

variable {α β : Type} {s s' : Stack} {m : Declaring α} {f : α → Declaring β} {P : Failure → Prop}

/-- On this stack the action ends in a failure of some kind. -/
def EndsIn (P : Failure → Prop) (s : Stack) (m : Declaring α) : Prop :=
  ∃ e, (s.run m).1 = .error e ∧ P e

theorem ends_in_first (first : EndsIn P s m) : EndsIn P s (m >>= f) := by
  obtain ⟨e, failed, kind⟩ := first
  refine ⟨e, ?_, kind⟩
  rw [Stack.run_bind]
  rcases outcome : s.run m with ⟨_ | a, s₁⟩
  · rw [outcome] at failed
    cases failed
    rfl
  · rw [outcome] at failed
    cases failed

theorem ends_in_rest {a : α} (made : s.run m = (.ok a, s')) (rest : EndsIn P s' (f a)) :
    EndsIn P s (m >>= f) := by
  obtain ⟨e, failed, kind⟩ := rest
  exact ⟨e, (Stack.run_after made f).symm ▸ failed, kind⟩

/-- An action that cannot succeed ends in one of the failures that it does not avoid. -/
theorem ends_in_of_avoids (never : ∀ a, (s.run m).1 ≠ .ok a)
    (avoids : ∀ e, ¬ P e → Avoids e m) : EndsIn P s m := by
  rcases outcome : (s.run m).1 with e | a
  · refine ⟨e, outcome, ?_⟩
    by_contra other
    exact avoids e other s outcome
  · exact absurd outcome (never a)

end EndsIn

namespace Vpc

variable {around : Subnet.Surroundings} {s : Stack} {id : String} {settings : VpcSettings}
  {cidr : Cidr} {P : Failure → Prop}

/-- The number of subnets that are asked for. -/
def subnetCount (settings : VpcSettings) : Nat := settings.groups.length * settings.zones.toNat

/-- What a network declares in front of its subnets. -/
def frontPaths (id : String) (settings : VpcSettings) : List (List String) :=
  [id, "Resource"] :: if settings.hasKind .isPublic then [[id, "IGW"], [id, "VPCGW"]] else []

/-- No block is left, or the id of something inside is taken. -/
def Lacks (e : Failure) : Prop := e = outOfBlocks ∨ ∃ taken, e = .duplicateLogicalId taken

theorem declare_zones_avoid {group : SubnetGroup} {e : Failure} (other : ¬ Lacks e) (left : Nat) :
    ∀ (zone : Nat) (blocks : List Cidr), Avoids e (declareZones around group zone left blocks) := by
  have free : ∀ taken, e ≠ .duplicateLogicalId taken := fun taken same => other (.inr ⟨taken, same⟩)
  induction left with
  | zero => exact fun zone blocks => avoids_pure _
  | succ left ih =>
    intro zone blocks
    cases blocks with
    | nil => exact avoids_throw fun same => other (.inl same.symm)
    | cons block rest =>
      apply avoids_bind (Subnet.declare_avoids free)
      intro subnet _ _ _
      apply avoids_bind (ih (zone + 1) rest)
      intro result _ _ _
      exact avoids_pure _

theorem declare_groups_avoid {zones : Nat} {e : Failure} (other : ¬ Lacks e)
    (groups : List SubnetGroup) :
    ∀ blocks : List Cidr, Avoids e (declareGroups around zones groups blocks) := by
  induction groups with
  | nil => exact fun blocks => avoids_pure _
  | cons group rest ih =>
    intro blocks
    apply avoids_bind (declare_zones_avoid other zones 0 blocks)
    intro result _ _ _
    apply avoids_bind (ih result.2)
    intro more _ _ _
    exact avoids_pure _

theorem declare_zones_none {group : SubnetGroup} {zones zone : Nat} (some : 0 < zones) :
    declareZones around group zone zones [] = throw outOfBlocks := by
  cases zones with
  | zero => cases some
  | succ left => rfl

/-- Each subnet takes a block, so that fewer blocks are not enough. -/
theorem declare_groups_never {zones : Nat} {groups : List SubnetGroup} {blocks : List Cidr}
    (fewer : blocks.length < groups.length * zones) (subnets : List Subnet) :
    (s.run (declareGroups around zones groups blocks)).1 ≠ .ok subnets := by
  rcases outcome : s.run (declareGroups around zones groups blocks) with ⟨o, s'⟩
  rintro rfl
  obtain ⟨_, _, _, ⟨_, placed⟩, _, taken⟩ := adds_run
    (adds_and (declare_groups_adds zones groups blocks) (declare_groups_tell zones groups blocks))
    outcome
  have all : subnets.length = groups.length * zones := by
    rw [← places_length, ← placed, List.length_map]
  have within := taken.length_le
  rw [List.length_map] at within
  omega

theorem declare_gateway_made {networkId : String} (tagPath : String)
    (vacant : s.Vacant [[id, "IGW"], [id, "VPCGW"]]) :
    ∃ ids s', s.run (some <$> declareGateway id networkId tagPath) = (.ok (some ids), s') := by
  obtain ⟨gateway, first, vacant⟩ := vacant.declare {
    type := "AWS::EC2::InternetGateway"
    properties := [("Tags", .arr [nameTag tagPath])] }
  obtain ⟨attachment, second, -⟩ := vacant.declare {
    type := "AWS::EC2::VPCGatewayAttachment"
    properties := [
      ("InternetGatewayId", (Value.ref gateway).toJson),
      ("VpcId", (Value.ref networkId).toJson)] }
  have both : s.run (declareGateway id networkId tagPath) = _ :=
    (Stack.run_after first _).trans (Stack.run_after second _)
  exact ⟨(gateway, attachment), _, by rw [Stack.run_map, both]; rfl⟩

/-- What a network ends in is what its split and its subnets end in, if there is nothing in the way
of what is declared in front of them. -/
theorem declare_ends_in (read : Cidr.parse settings.cidr = .ok cidr)
    (allowed : settings.check id = .ok ()) (vacant : s.Vacant (frontPaths id settings))
    (inside : ∀ around s', EndsIn P s' (Stack.lift (cidr.split (blockCount settings)) >>=
      declareGroups around settings.zones.toNat settings.groups)) :
    EndsIn P s (declare id settings) := by
  unfold declare
  refine ends_in_rest (Stack.run_lift s _ |>.trans (by rw [read])) ?_
  refine ends_in_rest (Stack.run_lift s _ |>.trans (by rw [allowed])) ?_
  refine ends_in_rest (Stack.run_get s) ?_
  extract_lets tagPath
  obtain ⟨logicalId, declared, vacant⟩ := vacant.declare (vpcResource cidr tagPath)
  refine ends_in_rest declared ?_
  extract_lets finish
  have finished : ∀ gateway s', EndsIn P s' (finish gateway) := by
    intro gateway s'
    show EndsIn P s' (Stack.lift _ >>= fun blocks => declareGroups _ _ _ blocks >>= _)
    rw [← bind_assoc]
    exact ends_in_first (inside ⟨[id], logicalId, tagPath, gateway⟩ s')
  split
  · next opened =>
    rw [if_pos opened] at vacant
    obtain ⟨gateway, s', made⟩ := declare_gateway_made tagPath vacant
    exact ends_in_rest made (finished _ s')
  · rw [pure_bind]
    exact finished none _

/-- The split is refused, and no subnet is declared. -/
theorem split_ends_in (none : ¬ cidr.HasRoom (subnetCount settings % 2 ^ 64))
    (around : Subnet.Surroundings) (s : Stack) :
    EndsIn (· = .invalidProps "Vpc"
        s!"{cidr.text} is too small to hold {subnetCount settings % 2 ^ 64} subnets") s
      (Stack.lift (cidr.split (blockCount settings)) >>=
        declareGroups around settings.zones.toNat settings.groups) := by
  rw [subnetCount, ← block_count_eq] at none ⊢
  rcases cidr.split_by_room (blockCount settings) with ⟨_, refused⟩ | ⟨room, _⟩
  · exact ends_in_first ⟨_, by rw [Stack.run_lift, refused], rfl⟩
  · exact absurd room none

/-- The split gives blocks, but too few of them. -/
theorem subnets_end_in (room : cidr.HasRoom (subnetCount settings % 2 ^ 64))
    (crowded : ¬ cidr.HasRoom (subnetCount settings)) (around : Subnet.Surroundings) (s : Stack) :
    EndsIn Lacks s (Stack.lift (cidr.split (blockCount settings)) >>=
      declareGroups around settings.zones.toNat settings.groups) := by
  have fewer : subnetCount settings % 2 ^ 64 < subnetCount settings :=
    Nat.lt_of_not_le fun most => crowded (room.fewer most)
  rw [subnetCount, ← block_count_eq] at room fewer
  rcases cidr.split_by_room (blockCount settings) with ⟨none, _⟩ | ⟨_, blocks, split, length⟩
  · exact absurd room none
  · rw [← length] at fewer
    refine ends_in_rest (by rw [Stack.run_lift, split]) ?_
    exact ends_in_of_avoids (declare_groups_never fewer)
      fun e other => declare_groups_avoid other settings.groups blocks

/-- No network is declared that asks for more subnets than it has room for. It is refused for that
where a word can count them, and also where what a word keeps of their number is still too large.
Else the blocks run out, unless an id inside is found taken before they do. -/
theorem overcommitted_told (s : Stack) (id : String) (settings : VpcSettings) (cidr : Cidr)
    (read : Cidr.parse settings.cidr = .ok cidr) (allowed : settings.check id = .ok ())
    (vacant : s.Vacant (frontPaths id settings)) (crowded : ¬ cidr.HasRoom (subnetCount settings)) :
    (subnetCount settings < 2 ^ 64 → (s.run (declare id settings)).1 = .error (.invalidProps "Vpc"
      s!"{cidr.text} is too small to hold {subnetCount settings} subnets")) ∧
    (¬ cidr.HasRoom (subnetCount settings % 2 ^ 64) →
      (s.run (declare id settings)).1 = .error (.invalidProps "Vpc"
        s!"{cidr.text} is too small to hold {subnetCount settings % 2 ^ 64} subnets")) ∧
    (cidr.HasRoom (subnetCount settings % 2 ^ 64) →
      ∃ e, (s.run (declare id settings)).1 = .error e ∧ Lacks e) := by
  have refused : ¬ cidr.HasRoom (subnetCount settings % 2 ^ 64) →
      (s.run (declare id settings)).1 = .error (.invalidProps "Vpc"
        s!"{cidr.text} is too small to hold {subnetCount settings % 2 ^ 64} subnets") := by
    intro none
    obtain ⟨_, failed, rfl⟩ := declare_ends_in read allowed vacant (split_ends_in none)
    exact failed
  refine ⟨fun countable => ?_, refused, fun room => ?_⟩
  · rw [← Nat.mod_eq_of_lt countable] at crowded
    have told := refused crowded
    rwa [Nat.mod_eq_of_lt countable] at told
  · exact declare_ends_in read allowed vacant (subnets_end_in room crowded)

/-! Networks on the default block, with the two default groups, in too many zones. -/

def defaultBlock : Cidr := ⟨167772160, 16, by decide, by decide, by decide⟩

theorem default_block_read : Cidr.parse ({} : VpcSettings).cidr = .ok defaultBlock ∧
    blank.Vacant (frontPaths "Vpc" {}) :=
  ⟨by decide, Stack.vacant_of_readable rfl (by decide) fun _ => rfl⟩

/-- Two subnets more than there are blocks for. -/
def tightSettings : VpcSettings := { zones := 2049 }

theorem tight_network_refused :
    (blank.run (declare "Vpc" tightSettings)).1 = .error (.invalidProps "Vpc"
      "10.0.0.0/16 is too small to hold 4098 subnets") := by
  have crowded : ¬ defaultBlock.HasRoom (subnetCount tightSettings) := by
    rw [Cidr.has_room_iff]
    decide
  exact (overcommitted_told blank "Vpc" tightSettings defaultBlock default_block_read.1 (by decide)
    default_block_read.2 crowded).1 (by decide)

/-- So many zones that a word keeps nothing of the number of subnets. -/
def endlessSettings : VpcSettings := { zones := 9223372036854775808 }

theorem endless_network_lacks_blocks : ∃ cidr,
    Cidr.parse endlessSettings.cidr = .ok cidr ∧ endlessSettings.check "Vpc" = .ok () ∧
    blank.Vacant (frontPaths "Vpc" endlessSettings) ∧
    ¬ cidr.HasRoom (subnetCount endlessSettings) ∧
    (blank.run (declare "Vpc" endlessSettings)).1 = .error outOfBlocks ∧
    ∀ construct message, outOfBlocks ≠ .invalidProps construct message := by
  have read : Cidr.parse endlessSettings.cidr = .ok defaultBlock := default_block_read.1
  have vacant : blank.Vacant (frontPaths "Vpc" endlessSettings) := default_block_read.2
  refine ⟨defaultBlock, read, by decide, vacant, ?_, ?_, ?_⟩
  · rw [Cidr.has_room_iff]
    decide
  · -- the word is zero, so that the split succeeds without a block
    have inside : ∀ around s, EndsIn (· = outOfBlocks) s
        (Stack.lift (defaultBlock.split (blockCount endlessSettings)) >>=
          declareGroups around endlessSettings.zones.toNat endlessSettings.groups) := by
      intro around s
      refine ends_in_rest (Stack.run_lift s (.ok [])) (ends_in_first ?_)
      rw [declare_zones_none (by decide)]
      exact ⟨_, rfl, rfl⟩
    obtain ⟨_, failed, rfl⟩ := declare_ends_in read (by decide) vacant inside
    exact failed
  · intro construct message same
    cases same

end Vpc

end StackSynth
