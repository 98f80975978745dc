import Mathlib
import StackSynth.Proofs.Network.Blocks

/-!
Blocks of addresses in the arithmetic of machine words. Where a result has no room in its word, or a
word is shifted by its width or more, there is no result at all; splitting a network never comes to
such a step, and gives the blocks that it gives in unbounded arithmetic.
-/
namespace StackSynth

/-- A computation on words, which stops where a result would not be exact. -/
abbrev Exact := ExceptT Failure Option

namespace Word

variable {α : Type}

def inexact : Exact α := ExceptT.mk none

def add32 (a b : UInt32) : Exact UInt32 :=
  if a.toNat + b.toNat < 2 ^ 32 then pure (a + b) else inexact

def sub32 (a b : UInt32) : Exact UInt32 := if b ≤ a then pure (a - b) else inexact

def sub64 (a b : UInt64) : Exact UInt64 := if b ≤ a then pure (a - b) else inexact

def add64 (a b : UInt64) : Exact UInt64 :=
  if a.toNat + b.toNat < 2 ^ 64 then pure (a + b) else inexact

def mul64 (a b : UInt64) : Exact UInt64 :=
  if a.toNat * b.toNat < 2 ^ 64 then pure (a * b) else inexact

def shiftLeft32 (a n : UInt32) : Exact UInt32 := if n < 32 then pure (a <<< n) else inexact

def shiftLeft64 (a : UInt64) (n : UInt32) : Exact UInt64 :=
  if n < 64 then pure (a <<< n.toUInt64) else inexact

def leadingZeros (a : UInt64) : UInt32 := UInt32.ofNat a.toBitVec.clz.toNat

/-- The bits of a word from the first to the last that is set, as many as tell apart the numbers up
to its own. -/
theorem leading_zeros_eq {a : UInt64} {k : Nat} (least : ∀ j, a.toNat < 2 ^ j ↔ k ≤ j) :
    (leadingZeros a).toNat = 64 - k ∧ k ≤ 64 := by
  have fits : k ≤ 64 := (least 64).mp a.toNat_lt
  have counted : a.toBitVec.clz.toNat ≤ 64 := BitVec.le_def.mp BitVec.clz_le
  have exact_count : a.toBitVec.clz.toNat = 64 - k := by
    have above : k ≤ 64 - a.toBitVec.clz.toNat :=
      (least _).mp BitVec.toNat_lt_two_pow_sub_clz
    by_cases zero : a.toBitVec = 0#64
    · have none_set : a.toNat < 2 ^ 0 := by simp [← UInt64.toNat_toBitVec, zero]
      have := (least 0).mp none_set
      rw [BitVec.clz_eq_iff_eq_zero.mpr zero]
      simp only [BitVec.natCast_eq_ofNat, BitVec.toNat_ofNat]
      omega
    · have first_set := BitVec.two_pow_sub_clz_le_toNat_of_ne_zero (by decide) zero
      have below : ¬ k ≤ 64 - 1 - a.toBitVec.clz.toNat := fun within =>
        absurd ((least _).mpr within) (Nat.not_lt.mpr first_set)
      omega
  refine ⟨?_, fits⟩
  rw [leadingZeros, UInt32.toNat_ofNat', exact_count]
  omega

/-! Each operation gives the exact result where there is room for it. -/

theorem add32_exact {a b : UInt32} (room : a.toNat + b.toNat < 2 ^ 32) :
    ∃ w, add32 a b = pure w ∧ w.toNat = a.toNat + b.toNat :=
  ⟨a + b, if_pos room, by rw [UInt32.toNat_add, Nat.mod_eq_of_lt room]⟩

theorem sub32_exact {a b : UInt32} (le : b.toNat ≤ a.toNat) :
    ∃ w, sub32 a b = pure w ∧ w.toNat = a.toNat - b.toNat :=
  have le := UInt32.le_iff_toNat_le.mpr le
  ⟨a - b, if_pos le, UInt32.toNat_sub_of_le a b le⟩

theorem sub64_exact {a b : UInt64} (le : b.toNat ≤ a.toNat) :
    ∃ w, sub64 a b = pure w ∧ w.toNat = a.toNat - b.toNat :=
  have le := UInt64.le_iff_toNat_le.mpr le
  ⟨a - b, if_pos le, UInt64.toNat_sub_of_le a b le⟩

theorem add64_exact {a b : UInt64} (room : a.toNat + b.toNat < 2 ^ 64) :
    ∃ w, add64 a b = pure w ∧ w.toNat = a.toNat + b.toNat :=
  ⟨a + b, if_pos room, by rw [UInt64.toNat_add, Nat.mod_eq_of_lt room]⟩

theorem mul64_exact {a b : UInt64} (room : a.toNat * b.toNat < 2 ^ 64) :
    ∃ w, mul64 a b = pure w ∧ w.toNat = a.toNat * b.toNat :=
  ⟨a * b, if_pos room, by rw [UInt64.toNat_mul, Nat.mod_eq_of_lt room]⟩

theorem shift_left64_one {n : UInt32} (short : n.toNat < 64) :
    ∃ w, shiftLeft64 1 n = pure w ∧ w.toNat = 2 ^ n.toNat := by
  refine ⟨1 <<< n.toUInt64, if_pos (UInt32.lt_iff_toNat_lt.mpr short), ?_⟩
  have room : 2 ^ n.toNat < 2 ^ 64 := Nat.pow_lt_pow_right (by decide) short
  rw [UInt64.toNat_shiftLeft, UInt32.toNat_toUInt64, Nat.mod_eq_of_lt short]
  simpa [Nat.shiftLeft_eq] using Nat.mod_eq_of_lt room

/-- The last bits of a word, as many as the shift leaves free. -/
theorem shift_left32_ones {n : UInt32} (short : n.toNat < 32) :
    ∃ w, shiftLeft32 0xFFFFFFFF n = pure w ∧ (~~~w).toNat = 2 ^ n.toNat - 1 := by
  have each : ∀ i : Fin 32,
      (~~~((0xFFFFFFFF : UInt32) <<< UInt32.ofNat i)).toNat = 2 ^ i.val - 1 := by decide
  refine ⟨0xFFFFFFFF <<< n, if_pos (UInt32.lt_iff_toNat_lt.mpr short), ?_⟩
  have here := each ⟨n.toNat, short⟩
  rwa [UInt32.ofNat_toNat] at here

end Word

namespace Cidr

/-- The leading bits that the addresses of a block share. -/
def mask (bits : UInt8) : Exact UInt32 :=
  if bits = 0 then pure 0
  else do Word.shiftLeft32 0xFFFFFFFF (← Word.sub32 32 bits.toUInt32)

/-- An address and a number of shared bits, if they make a block. -/
def makeWords (address : UInt32) (bits : UInt8) : Exact (UInt32 × UInt8) :=
  if 32 < bits then
    throw (.invalidProps "Vpc" s!"prefix length /{bits.toNat} is out of range")
  else do
    let mask ← mask bits
    if address &&& ~~~mask ≠ 0 then
      throw (.invalidProps "Vpc" s!"{dotted address.toNat}/{bits.toNat} has host bits set")
    else pure (address, bits)

/-- The block with the given number, among those that are `step` addresses apart. -/
def blockWords (whole : Cidr) (bits : UInt32) (step i : UInt64) : Exact (UInt32 × UInt8) := do
  let address ← Word.add64 (UInt64.ofNat whole.network) (← Word.mul64 i step)
  if address < 2 ^ 32 then makeWords address.toUInt32 bits.toUInt8
  else throw (.internal s!"address overflow splitting {whole.text}")

def splitWords (c : Cidr) (count : UInt64) : Exact (List (UInt32 × UInt8)) :=
  if count = 0 then pure []
  else do
    let extra ← Word.sub32 64 (Word.leadingZeros (← Word.sub64 count 1))
    let bits ← Word.add32 (UInt32.ofNat c.bits) extra
    if UInt32.ofNat smallestBits < bits then
      throw (.invalidProps "Vpc" s!"{c.text} is too small to hold {count.toNat} subnets")
    else
      let step ← Word.shiftLeft64 1 (← Word.sub32 32 bits)
      (List.range count.toNat).mapM fun i => blockWords c bits step (UInt64.ofNat i)

/-- A block as the words it is kept in. -/
def words (c : Cidr) : UInt32 × UInt8 := (UInt32.ofNat c.network, UInt8.ofNat c.bits)

theorem mask_eq {bits : UInt8} (fits : bits.toNat ≤ 32) :
    ∃ m, mask bits = pure m ∧ (~~~m).toNat = 2 ^ (32 - bits.toNat) - 1 := by
  by_cases zero : bits = 0
  · exact ⟨0, by rw [mask, if_pos zero], by rw [zero]; decide⟩
  · have positive : 0 < bits.toNat := Nat.pos_of_ne_zero fun none => zero (UInt8.toNat_inj.mp none)
    have wide : bits.toUInt32.toNat = bits.toNat := UInt8.toNat_toUInt32 bits
    obtain ⟨shift, shifted, left⟩ := Word.sub32_exact (a := 32) (wide ▸ fits)
    have left : shift.toNat = 32 - bits.toNat := by rw [left, wide]; rfl
    obtain ⟨m, masked, complement⟩ := Word.shift_left32_ones (n := shift) (by omega)
    refine ⟨m, ?_, left ▸ complement⟩
    rw [mask, if_neg zero, shifted]
    exact masked

theorem make_words (address : UInt32) (bits : UInt8) :
    (makeWords address bits).run = some ((make address bits).map words) := by
  have limit : 32 < bits ↔ ¬ bits.toNat ≤ 32 := by
    rw [UInt8.lt_iff_toNat_lt, Nat.not_le]; rfl
  by_cases fits : bits.toNat ≤ 32
  · obtain ⟨m, masked, complement⟩ := mask_eq fits
    have aligned : address &&& ~~~m = 0 ↔ address.toNat % Nat.pow 2 (32 - bits.toNat) = 0 := by
      rw [← UInt32.toNat_inj, UInt32.toNat_and, complement, Nat.and_two_pow_sub_one_eq_mod]
      rfl
    rw [makeWords, if_neg (by rw [limit]; exact not_not.mpr fits), masked, make, dif_pos fits]
    by_cases whole : address.toNat % Nat.pow 2 (32 - bits.toNat) = 0
    · rw [dif_pos whole]
      simp [aligned.mpr whole, words, Except.map]
    · rw [dif_neg whole]
      simp [mt aligned.mp whole, Except.map]
  · rw [makeWords, if_pos (limit.mpr fits), make, dif_neg fits]
    rfl

theorem mapM_exact {α β : Type} {act : α → Exact β} {value : α → β} {items : List α}
    (each : ∀ item ∈ items, act item = pure (value item)) :
    items.mapM act = pure (items.map value) := by
  induction items with
  | nil => rfl
  | cons item rest ih =>
    rw [List.forall_mem_cons] at each
    rw [List.mapM_cons, each.1, ih each.2]
    rfl

theorem make_words_self (c : Cidr) : makeWords c.words.1 c.words.2 = pure c.words := by
  have made := make_words c.words.1 c.words.2
  rw [show make c.words.1 c.words.2 = .ok c from make_self c] at made
  exact made

section Split

variable {c : Cidr} {k : Nat}

/-- No address leaves its word, since all are below the end of the network. -/
theorem block_words (fits : c.bits + k ≤ 32) {i : Nat} (member : i < 2 ^ k) {bits : UInt32}
    (total : bits.toNat = c.bits + k) {step : UInt64} (size : step.toNat = sizeOf (c.bits + k)) :
    blockWords c bits step (UInt64.ofNat i) = pure (c.part k fits i).words := by
  have room := part_end_le fits member
  have whole := c.end_le
  have many : i ≤ i * sizeOf (c.bits + k) := Nat.le_mul_of_pos_right i (size_pos (c.bits + k))
  have number : (UInt64.ofNat i).toNat = i := by
    rw [UInt64.toNat_ofNat', Nat.mod_eq_of_lt (by omega)]
  have start : (UInt64.ofNat c.network).toNat = c.network := by
    rw [UInt64.toNat_ofNat', Nat.mod_eq_of_lt (by omega)]
  obtain ⟨offset, multiplied, product⟩ :=
    Word.mul64_exact (a := UInt64.ofNat i) (b := step) (by rw [number, size]; omega)
  rw [number, size] at product
  obtain ⟨address, added, sum⟩ :=
    Word.add64_exact (a := UInt64.ofNat c.network) (b := offset) (by rw [start, product]; omega)
  rw [start, product, ← part_network fits member] at sum
  have below : address < 2 ^ 32 :=
    UInt64.lt_iff_toNat_lt.mpr (sum ▸ (c.part k fits i).network_lt)
  have word : address.toUInt32 = (c.part k fits i).words.1 := by
    rw [words, ← sum, UInt32.ofNat_uInt64ToNat]
  have short : bits.toUInt8 = (c.part k fits i).words.2 := by
    rw [words, part_bits, ← total, UInt8.ofNat_uInt32ToNat]
  rw [blockWords, multiplied, pure_bind, added, pure_bind, if_pos below, word, short]
  exact make_words_self _

/-- The words that tell how many bits are needed to number the blocks. -/
theorem extra_words {count : UInt64} (some : count ≠ 0) :
    ∃ less extra, Word.sub64 count 1 = pure less ∧
      Word.sub32 64 (Word.leadingZeros less) = pure extra ∧
      extra.toNat = Nat.clog 2 count.toNat := by
  have positive : 1 ≤ count.toNat :=
    Nat.pos_of_ne_zero fun none => some (UInt64.toNat_inj.mp none)
  obtain ⟨less, lessened, number⟩ := Word.sub64_exact (a := count) (b := 1) positive
  have number : less.toNat = count.toNat - 1 := number
  have least : ∀ j, less.toNat < 2 ^ j ↔ Nat.clog 2 count.toNat ≤ j := by
    intro j
    rw [Nat.clog_le_iff_le_pow Nat.one_lt_two]
    omega
  obtain ⟨zeros, fits⟩ := Word.leading_zeros_eq least
  obtain ⟨extra, taken, left⟩ := Word.sub32_exact (a := 64) (b := Word.leadingZeros less)
    (by rw [zeros]; exact Nat.sub_le 64 _)
  refine ⟨less, extra, lessened, taken, ?_⟩
  rw [left, zeros]
  exact Nat.sub_sub_self fits

/-- By the cases of the split: the words have room for all that each of them computes. -/
theorem split_words (c : Cidr) (count : UInt64) :
    (splitWords c count).run = some ((c.split count).map (List.map words)) := by
  rcases c.split_cases count with ⟨none, made⟩ | ⟨some, rest⟩
  · rw [made, splitWords, if_pos none]; rfl
  · obtain ⟨less, extra, lessened, taken, needed⟩ := extra_words some
    have most : Nat.clog 2 count.toNat ≤ 64 :=
      Nat.clog_le_of_le_pow (Nat.le_of_lt count.toNat_lt)
    have own := c.bits_le
    have start : (UInt32.ofNat c.bits).toNat = c.bits := by
      rw [UInt32.toNat_ofNat', Nat.mod_eq_of_lt (by omega)]
    obtain ⟨bits, added, total⟩ := Word.add32_exact (a := UInt32.ofNat c.bits) (b := extra)
      (by rw [start, needed]; omega)
    rw [start, needed] at total
    have small : UInt32.ofNat smallestBits < bits ↔ 28 < c.bits + Nat.clog 2 count.toNat := by
      rw [UInt32.lt_iff_toNat_lt, total]; rfl
    rw [splitWords, if_neg some, lessened, pure_bind, taken, pure_bind, added, pure_bind]
    rcases rest with ⟨few, refused⟩ | ⟨room, fits, made⟩
    · rw [if_pos (small.mpr few), refused]; rfl
    · obtain ⟨shift, shifted, left⟩ := Word.sub32_exact (a := 32) (b := bits)
        (by rw [total]; exact fits)
      have left : shift.toNat = 32 - (c.bits + Nat.clog 2 count.toNat) := total ▸ left
      obtain ⟨step, stepped, size⟩ := Word.shift_left64_one (n := shift) (by omega)
      rw [if_neg (mt small.mp (Nat.not_lt.mpr room)), shifted, pure_bind, stepped, pure_bind, made]
      rw [left] at size
      rw [mapM_exact fun i member => block_words fits (Nat.lt_of_lt_of_le (List.mem_range.mp member)
        (Nat.le_pow_clog Nat.one_lt_two _)) total size]
      rw [Except.map, List.map_map]
      rfl

end Split

theorem split_into_blocks (c : Cidr) (count : UInt64) :
    c.split 0 = .ok [] ∧
    (count ≠ 0 → ∃ k, IsLeast {k | count.toNat ≤ 2 ^ k} k ∧
      (28 < c.bits + k → c.split count =
        .error (.invalidProps "Vpc" s!"{c.text} is too small to hold {count.toNat} subnets")) ∧
      (c.bits + k ≤ 28 → ∃ blocks, c.split count = .ok blocks ∧
        c.SplitsInto (c.bits + k) count.toNat blocks)) ∧
    (splitWords c count).run = some ((c.split count).map (List.map words)) ∧
    ∀ message, c.split count ≠ .error (.internal message) := by
  refine ⟨rfl, fun some => ?_, split_words c count, fun message => ?_⟩
  · refine ⟨Nat.clog 2 count.toNat, ⟨Nat.le_pow_clog Nat.one_lt_two _, ?_⟩, ?_⟩
    · exact fun k enough => Nat.clog_le_of_le_pow enough
    · rcases c.split_cases count with ⟨none, _⟩ | ⟨_, ⟨small, refused⟩ | ⟨room, fits, made⟩⟩
      · exact absurd none some
      · exact ⟨fun _ => refused, fun room => absurd small (Nat.not_lt.mpr room)⟩
      · exact ⟨fun small => absurd small (Nat.not_lt.mpr room), fun _ =>
          ⟨_, made, parts_split fits (Nat.le_pow_clog Nat.one_lt_two _)⟩⟩
  · rcases c.split_cases count with ⟨_, made⟩ | ⟨_, ⟨_, refused⟩ | ⟨_, _, made⟩⟩
    · rw [made]; simp
    · rw [refused]; simp
    · rw [made]; simp

end Cidr

end StackSynth
