import StackSynth.Proofs.Network.Words

/-!
Blocks inside each other. A block contains another one exactly if it has all of its addresses, and two
blocks either lie one in the other or have no address in common. What decides it is the number of the
stretch that an address is in, when all addresses are cut into stretches of the size of a block.
-/
namespace StackSynth.Cidr

/-- The addresses of a block, from the first to the last. -/
def addresses (c : Cidr) : Set Nat := Set.Icc c.network (c.network + c.size - 1)

/-- How a block lies to another one. -/
inductive Position
  | around
  | inside
  | apart

def Position.Holds : Position → Cidr → Cidr → Prop
  | .around, a, b => a.contains b = true
  | .inside, a, b => b.contains a = true ∧ a ≠ b
  | .apart, a, b => Disjoint a.addresses b.addresses

variable {a b c : Cidr} {x : Nat}

theorem mem_addresses : x ∈ c.addresses ↔ c.network ≤ x ∧ x < c.network + c.size := by
  have positive : 0 < c.size := size_pos c.bits
  rw [addresses, Set.mem_Icc]
  omega

theorem network_mem (c : Cidr) : c.network ∈ c.addresses :=
  mem_addresses.mpr ⟨Nat.le_refl _, Nat.lt_add_of_pos_right (size_pos c.bits)⟩

theorem network_eq (c : Cidr) : c.network = c.network / c.size * c.size :=
  (Nat.div_mul_cancel (Nat.dvd_of_mod_eq_zero c.aligned)).symm

/-- The addresses of a block are those of one stretch. -/
theorem mem_addresses_iff : x ∈ c.addresses ↔ x / c.size = c.network / c.size := by
  have positive : 0 < c.size := size_pos c.bits
  rw [mem_addresses, Nat.div_eq_iff positive, ← c.network_eq]
  omega

theorem size_dvd_of_bits (shared : a.bits ≤ b.bits) : b.size ∣ a.size :=
  Nat.pow_dvd_pow 2 (Nat.sub_le_sub_left shared 32)

theorem bits_le_of_size (small : b.size ≤ a.size) : a.bits ≤ b.bits := by
  have exponents : 32 - b.bits ≤ 32 - a.bits := (Nat.pow_le_pow_iff_right Nat.one_lt_two).mp small
  have := a.bits_le
  omega

/-- All addresses of a block are in the same stretch of a size that is no smaller. -/
theorem stretch_of_mem (shared : a.bits ≤ b.bits) (member : x ∈ b.addresses) :
    x / a.size = b.network / a.size := by
  obtain ⟨k, parts⟩ := size_dvd_of_bits shared
  rw [parts, ← Nat.div_div_eq_div_mul, ← Nat.div_div_eq_div_mul, mem_addresses_iff.mp member]

theorem contains_iff_network : a.contains b = true ↔ a.bits ≤ b.bits ∧ b.network ∈ a.addresses := by
  have positive : 0 < a.size := size_pos a.bits
  have start : b.network - b.network % a.size = b.network / a.size * a.size := by
    rw [← Nat.div_mul_self_eq_mod_sub_self]
  rw [contains, Bool.and_eq_true, decide_eq_true_iff, beq_iff_eq, mem_addresses_iff, start]
  refine and_congr_right fun _ => ?_
  conv_lhs => rw [a.network_eq]
  exact Nat.mul_left_inj positive.ne'

theorem contains_iff_subset : a.contains b = true ↔ b.addresses ⊆ a.addresses := by
  rw [contains_iff_network]
  constructor
  · rintro ⟨shared, first⟩ x member
    rw [mem_addresses_iff] at first ⊢
    rw [stretch_of_mem shared member, first]
  · intro within
    have positive : 0 < b.size := size_pos b.bits
    have first := within b.network_mem
    have last : b.network + b.size - 1 ∈ a.addresses :=
      within (Set.right_mem_Icc.mpr (by omega))
    refine ⟨bits_le_of_size ?_, first⟩
    rw [mem_addresses] at first last
    omega

theorem eq_of_contains (first : a.contains b = true) (second : b.contains a = true) : a = b := by
  obtain ⟨shared, inside⟩ := contains_iff_network.mp first
  obtain ⟨shared', inside'⟩ := contains_iff_network.mp second
  rw [mem_addresses] at inside inside'
  have bits : a.bits = b.bits := Nat.le_antisymm shared shared'
  have network : a.network = b.network := Nat.le_antisymm inside.1 inside'.1
  cases a
  cases b
  cases bits
  cases network
  rfl

/-- The larger of two blocks contains the other one as soon as they have an address in common. -/
theorem contains_of_common (shared : a.bits ≤ b.bits) (first : x ∈ a.addresses)
    (second : x ∈ b.addresses) : a.contains b = true := by
  refine contains_iff_network.mpr ⟨shared, mem_addresses_iff.mpr ?_⟩
  rw [← stretch_of_mem shared second, mem_addresses_iff.mp first]

theorem not_disjoint_of_contains (inside : a.contains b = true) :
    ¬ Disjoint a.addresses b.addresses := fun apart =>
  Set.disjoint_left.mp apart (contains_iff_network.mp inside).2 b.network_mem

theorem some_position (a b : Cidr) : ∃ position : Position, position.Holds a b := by
  by_cases apart : Disjoint a.addresses b.addresses
  · exact ⟨.apart, apart⟩
  obtain ⟨x, first, second⟩ := Set.not_disjoint_iff.mp apart
  rcases Nat.le_total a.bits b.bits with shared | shared
  · exact ⟨.around, contains_of_common shared first second⟩
  · have inside : b.contains a = true := contains_of_common shared second first
    by_cases same : a = b
    · subst same
      exact ⟨.around, inside⟩
    · exact ⟨.inside, inside, same⟩

theorem position_unique {p q : Position} (first : p.Holds a b) (second : q.Holds a b) : p = q := by
  cases p <;> cases q
  case around.around | inside.inside | apart.apart => rfl
  case around.inside => exact absurd (eq_of_contains first second.1) second.2
  case inside.around => exact absurd (eq_of_contains second first.1) first.2
  case around.apart => exact absurd second (not_disjoint_of_contains first)
  case apart.around => exact absurd first (not_disjoint_of_contains second)
  case inside.apart => exact absurd (Disjoint.symm second) (not_disjoint_of_contains first.1)
  case apart.inside => exact absurd (Disjoint.symm first) (not_disjoint_of_contains second.1)

/-! The same in the arithmetic of machine words. -/

def sizeWords (bits : UInt8) : Exact UInt64 := do
  Word.shiftLeft64 1 (← Word.sub32 32 bits.toUInt32)

/-- The second block shares as many bits as the first one or more, and agrees with it in those. -/
def containsWords (a b : UInt32 × UInt8) : Exact Bool :=
  if a.2 ≤ b.2 then do return b.1 &&& (← mask a.2) == a.1 else pure false

/-- A mask takes away the last bits of an address. -/
theorem and_mask {m : UInt32} {k : Nat} (short : k ≤ 32) (complement : (~~~m).toNat = 2 ^ k - 1)
    (address : UInt32) : (address &&& m).toNat = address.toNat - address.toNat % 2 ^ k := by
  have positive : 0 < 2 ^ k := Nat.two_pow_pos k
  have kept : m.toNat = 2 ^ 32 - (2 ^ k - 1 + 1) := by
    rw [UInt32.toNat_not] at complement
    have := m.toNat_lt
    have : UInt32.size = 2 ^ 32 := rfl
    omega
  have below : 2 ^ k - 1 < 2 ^ 32 :=
    Nat.lt_of_lt_of_le (Nat.sub_one_lt positive.ne') (Nat.pow_le_pow_right Nat.two_pos short)
  have start : address.toNat - address.toNat % 2 ^ k = 2 ^ k * (address.toNat / 2 ^ k) := by
    have := Nat.div_add_mod address.toNat (2 ^ k)
    omega
  rw [UInt32.toNat_and, kept, start]
  refine Nat.eq_of_testBit_eq fun i => ?_
  rw [Nat.testBit_and, Nat.testBit_two_pow_sub_succ below, Nat.testBit_two_pow_sub_one,
    Nat.testBit_two_pow_mul, Nat.testBit_div_two_pow]
  by_cases last : i < k
  · simp [last]
  · have place : i - k + k = i := by omega
    by_cases wide : i < 32
    · simp [last, wide, place, Nat.not_lt.mp last]
    · have none : address.toNat.testBit i = false :=
        Nat.testBit_lt_two_pow (Nat.lt_of_lt_of_le address.toNat_lt
          (Nat.pow_le_pow_right Nat.two_pos (Nat.not_lt.mp wide)))
      simp [none, place]

theorem words_network (c : Cidr) : c.words.1.toNat = c.network :=
  UInt32.toNat_ofNat_of_lt' c.network_lt

theorem words_bits (c : Cidr) : c.words.2.toNat = c.bits :=
  UInt8.toNat_ofNat_of_lt' (Nat.lt_of_le_of_lt c.bits_le (by decide))

theorem size_words (c : Cidr) : ∃ w, sizeWords c.words.2 = pure w ∧ w.toNat = c.size := by
  have wide : c.words.2.toUInt32.toNat = c.bits := (UInt8.toNat_toUInt32 _).trans c.words_bits
  obtain ⟨shift, shifted, left⟩ := Word.sub32_exact (a := 32) (wide ▸ c.bits_le)
  have left : shift.toNat = 32 - c.bits := by rw [left, wide]; rfl
  obtain ⟨w, one, size⟩ := Word.shift_left64_one (n := shift) (by omega)
  refine ⟨w, ?_, by rw [size, left]; rfl⟩
  rw [sizeWords, shifted]
  exact one

theorem contains_words (a b : Cidr) :
    containsWords a.words b.words = pure (a.contains b) := by
  have order : a.words.2 ≤ b.words.2 ↔ a.bits ≤ b.bits := by
    rw [UInt8.le_iff_toNat_le, words_bits, words_bits]
  have fits : a.words.2.toNat ≤ 32 := words_bits a ▸ a.bits_le
  obtain ⟨m, masked, complement⟩ := mask_eq fits
  rw [words_bits] at complement
  have agree : (b.words.1 &&& m == a.words.1) = (b.network - b.network % a.size == a.network) := by
    rw [Bool.eq_iff_iff, beq_iff_eq, beq_iff_eq, ← UInt32.toNat_inj,
      and_mask (Nat.sub_le 32 _) complement, words_network, words_network]
    rfl
  by_cases shared : a.bits ≤ b.bits
  · rw [containsWords, if_pos (order.mpr shared), masked, pure_bind, agree, contains,
      decide_eq_true shared, Bool.true_and]
  · rw [containsWords, if_neg (mt order.mp shared), contains, decide_eq_false shared,
      Bool.false_and]

/-- The pairs of an address and a number of bits that are accepted are the words of blocks. -/
theorem accepted_iff (address : UInt32) (bits : UInt8) :
    makeWords address bits = pure (address, bits) ↔ ∃ c : Cidr, c.words = (address, bits) := by
  constructor
  · intro accepted
    have made := make_words address bits
    rw [accepted] at made
    cases block : make address bits with
    | error failure => rw [block] at made; cases made
    | ok c => rw [block] at made; exact ⟨c, (Except.ok.inj (Option.some.inj made)).symm⟩
  · rintro ⟨c, same⟩
    have made := make_words_self c
    rwa [same] at made

/-- Containment of accepted blocks is inclusion of their addresses, and words decide it without losing
a bit. Of the three positions of two blocks exactly one holds. -/
theorem contains_is_inclusion :
    (∀ address bits, makeWords address bits = pure (address, bits) ↔
      ∃ c : Cidr, c.words = (address, bits)) ∧
    ∀ a b : Cidr,
      (a.contains b = true ↔ ∀ x, b.network ≤ x → x ≤ b.network + b.size - 1 →
        a.network ≤ x ∧ x ≤ a.network + a.size - 1) ∧
      (∃! position : Position, position.Holds a b) ∧
      (∃ w, sizeWords a.words.2 = pure w ∧ w.toNat = a.size) ∧
      containsWords a.words b.words = pure (a.contains b) := by
  refine ⟨accepted_iff, fun a b => ⟨?_, ?_, size_words a, contains_words a b⟩⟩
  · rw [contains_iff_subset]
    exact ⟨fun within x low high => within ⟨low, high⟩, fun all x ⟨low, high⟩ => all x low high⟩
  · obtain ⟨position, holds⟩ := some_position a b
    exact ⟨position, holds, fun other also => position_unique also holds⟩

end StackSynth.Cidr
