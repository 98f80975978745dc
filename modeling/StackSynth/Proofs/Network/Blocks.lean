import Mathlib
import StackSynth.Network.Cidr
import StackSynth.Proofs.Outcome

/-!
The blocks that a network is split into: of one size, one after the other from the start of the
network, and all of them inside.
-/
namespace StackSynth.Cidr

theorem size_pos (bits : Nat) : 0 < sizeOf bits := Nat.two_pow_pos (32 - bits)

/-- A block has as many times the addresses of its parts as there are parts. -/
theorem size_of_parts {bits k : Nat} (fits : bits + k ≤ 32) :
    sizeOf bits = 2 ^ k * sizeOf (bits + k) := by
  have exponent : 32 - bits = k + (32 - (bits + k)) := by omega
  calc 2 ^ (32 - bits) = 2 ^ (k + (32 - (bits + k))) := by rw [← exponent]
    _ = 2 ^ k * 2 ^ (32 - (bits + k)) := Nat.pow_add 2 k _

/-- A block ends where the addresses end, or before. -/
theorem end_le (c : Cidr) : c.network + c.size ≤ 4294967296 := by
  have whole : 4294967296 = 2 ^ c.bits * c.size := by
    have all : sizeOf 0 = 2 ^ c.bits * sizeOf (0 + c.bits) :=
      size_of_parts (by rw [Nat.zero_add]; exact c.bits_le)
    rw [Nat.zero_add] at all
    exact all
  obtain ⟨q, start⟩ : c.size ∣ c.network := Nat.dvd_of_mod_eq_zero c.aligned
  have before : c.size * q < c.size * 2 ^ c.bits := by
    rw [← start, Nat.mul_comm, ← whole]
    exact c.network_lt
  have room : q + 1 ≤ 2 ^ c.bits := Nat.lt_of_mul_lt_mul_left before
  calc c.network + c.size = (q + 1) * c.size := by rw [start, Nat.succ_mul, Nat.mul_comm]
    _ ≤ 2 ^ c.bits * c.size := Nat.mul_le_mul_right c.size room
    _ = 4294967296 := whole.symm

section Parts

variable {c : Cidr} {k : Nat}

theorem part_end_le (fits : c.bits + k ≤ 32) {i : Nat} (member : i < 2 ^ k) :
    i * sizeOf (c.bits + k) + sizeOf (c.bits + k) ≤ c.size := by
  calc i * sizeOf (c.bits + k) + sizeOf (c.bits + k)
      = (i + 1) * sizeOf (c.bits + k) := (Nat.succ_mul i _).symm
    _ ≤ 2 ^ k * sizeOf (c.bits + k) := Nat.mul_le_mul_right _ member
    _ = c.size := (size_of_parts fits).symm

/-- One of the blocks of equal size that a network falls into, counted from its start; after the last
the count begins again. -/
def part (c : Cidr) (k : Nat) (fits : c.bits + k ≤ 32) (i : Nat) : Cidr where
  network := c.network + i % 2 ^ k * sizeOf (c.bits + k)
  bits := c.bits + k
  network_lt := by
    have inside := part_end_le fits (Nat.mod_lt i (Nat.two_pow_pos k))
    have := c.end_le
    have := size_pos (c.bits + k)
    omega
  bits_le := fits
  aligned := by
    have start : sizeOf (c.bits + k) ∣ c.network :=
      Nat.dvd_trans ⟨2 ^ k, (size_of_parts fits).trans (Nat.mul_comm _ _)⟩
        (Nat.dvd_of_mod_eq_zero c.aligned)
    exact Nat.mod_eq_zero_of_dvd (Nat.dvd_add start (Nat.dvd_mul_left _ _))

variable (fits : c.bits + k ≤ 32)

theorem part_network {i : Nat} (member : i < 2 ^ k) :
    (c.part k fits i).network = c.network + i * sizeOf (c.bits + k) := by
  simp only [part, Nat.mod_eq_of_lt member]

theorem part_bits (i : Nat) : (c.part k fits i).bits = c.bits + k := rfl

theorem part_inside {i : Nat} (member : i < 2 ^ k) :
    c.network ≤ (c.part k fits i).network ∧
      (c.part k fits i).network + (c.part k fits i).size ≤ c.network + c.size := by
  have room := part_end_le fits member
  have size : (c.part k fits i).size = sizeOf (c.bits + k) := rfl
  rw [part_network fits member, size]
  omega

theorem part_before {i j : Nat} (order : i < j) (member : j < 2 ^ k) :
    (c.part k fits i).network + (c.part k fits i).size ≤ (c.part k fits j).network := by
  have size : (c.part k fits i).size = sizeOf (c.bits + k) := rfl
  have steps := Nat.mul_le_mul_right (sizeOf (c.bits + k)) (Nat.succ_le_of_lt order)
  rw [part_network fits (Nat.lt_trans order member), part_network fits member, size]
  rw [Nat.succ_mul] at steps
  omega

/-- A block is made from its own address and number of bits. -/
theorem make_self (c : Cidr) : make (UInt32.ofNat c.network) (UInt8.ofNat c.bits) = .ok c := by
  have address : (UInt32.ofNat c.network).toNat = c.network :=
    UInt32.toNat_ofNat_of_lt' c.network_lt
  have bits : (UInt8.ofNat c.bits).toNat = c.bits :=
    UInt8.toNat_ofNat_of_lt' (Nat.lt_of_le_of_lt c.bits_le (by decide))
  simp only [make, address, bits, dif_pos c.bits_le, dif_pos c.aligned]

theorem block_at_part {i : Nat} (member : i < 2 ^ k) :
    blockAt c (c.bits + k) (c.network + i * sizeOf (c.bits + k)) = .ok (c.part k fits i) := by
  rw [← part_network fits member, blockAt, if_pos (c.part k fits i).network_lt]
  exact make_self (c.part k fits i)

end Parts

/-- The number of bits that tell apart as many blocks as are asked for. -/
theorem extra_bits_eq (count : Nat) : extraBits count = Nat.clog 2 count := by
  rw [extraBits]
  split
  · next small => rw [Nat.clog_of_right_le_one small]
  · next large =>
    apply Nat.le_antisymm
    · have room := Nat.le_pow_clog Nat.one_lt_two count
      exact (Nat.log2_lt (by omega)).mpr (by omega)
    · rw [Nat.clog_le_iff_le_pow Nat.one_lt_two]
      have := Nat.lt_log2_self (n := count - 1)
      omega

/-- What a network gives when it is split: nothing for no block, a refusal where the blocks would be
too small, and else the first of its parts. -/
theorem split_cases (c : Cidr) (count : UInt64) :
    let k := Nat.clog 2 count.toNat
    (count = 0 ∧ c.split count = .ok []) ∨
    (count ≠ 0 ∧
      ((28 < c.bits + k ∧ c.split count =
        .error (.invalidProps "Vpc" s!"{c.text} is too small to hold {count.toNat} subnets")) ∨
      (c.bits + k ≤ 28 ∧ ∃ fits : c.bits + k ≤ 32,
        c.split count = .ok ((List.range count.toNat).map (c.part k fits))))) := by
  intro k
  by_cases none : count = 0
  · exact .inl ⟨none, by rw [split, if_pos none]⟩
  · refine .inr ⟨none, ?_⟩
    have bits : extraBits count.toNat = k := extra_bits_eq count.toNat
    by_cases small : 28 < c.bits + k
    · refine .inl ⟨small, ?_⟩
      rw [split, if_neg none, bits]
      exact if_pos small
    · have fits : c.bits + k ≤ 32 := by omega
      refine .inr ⟨Nat.le_of_not_lt small, fits, ?_⟩
      rw [split, if_neg none, bits]
      refine (if_neg small).trans (Outcome.mapM_ok fun i member => block_at_part fits ?_)
      exact Nat.lt_of_lt_of_le (List.mem_range.mp member)
        (Nat.le_pow_clog Nat.one_lt_two count.toNat)

/-- The blocks that a network is split into, each of the given number of bits. That none of them has
further bits set is in their type. -/
structure SplitsInto (c : Cidr) (bits count : Nat) (blocks : List Cidr) : Prop where
  length_eq : blocks.length = count
  bits_eq : ∀ b ∈ blocks, b.bits = bits
  starts : ∀ i (h : i < blocks.length), blocks[i].network = c.network + i * 2 ^ (32 - bits)
  adjacent : ∀ i (h : i + 1 < blocks.length),
    blocks[i].network + blocks[i].size = blocks[i + 1].network
  disjoint : blocks.Pairwise fun a b => a.network + a.size ≤ b.network
  inside : ∀ b ∈ blocks, c.network ≤ b.network ∧ b.network + b.size ≤ c.network + c.size

theorem parts_split {c : Cidr} {k count : Nat} (fits : c.bits + k ≤ 32) (enough : count ≤ 2 ^ k) :
    c.SplitsInto (c.bits + k) count ((List.range count).map (c.part k fits)) := by
  have among : ∀ {i}, i ∈ List.range count → i < 2 ^ k := fun member =>
    Nat.lt_of_lt_of_le (List.mem_range.mp member) enough
  constructor
  case length_eq => simp
  case bits_eq => simp [part_bits]
  case starts =>
    intro i h
    have member : i < 2 ^ k := by simp at h; omega
    rw [List.getElem_map, List.getElem_range]
    exact part_network fits member
  case adjacent =>
    intro i h
    have member : i + 1 < 2 ^ k := by simp at h; omega
    have size : (c.part k fits i).size = sizeOf (c.bits + k) := rfl
    simp only [List.getElem_map, List.getElem_range, size]
    rw [part_network fits (Nat.lt_of_succ_lt member), part_network fits member]
    rw [Nat.succ_mul, Nat.add_assoc]
  case disjoint =>
    refine List.pairwise_map.mpr (List.pairwise_lt_range.imp_of_mem fun _ later order => ?_)
    exact part_before fits order (among later)
  case inside =>
    intro b member
    obtain ⟨i, listed, rfl⟩ := List.mem_map.mp member
    exact part_inside fits (among listed)

end StackSynth.Cidr
