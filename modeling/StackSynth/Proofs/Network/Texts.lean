import StackSynth.Proofs.Network.Blocks
import StackSynth.Proofs.Text.Numeral
import StackSynth.Proofs.Text.Split

/-!
The texts of address blocks. What is read as a block is an address of four numbers, a slash and a number
of bits, with no bits set that the block does not share. The text that a block is written as is one of
these, so the block is read back from it.
-/
namespace StackSynth.Cidr

/-- A number of one byte, with no zero in front of other digits. -/
structure Octet (text : List Char) (n : Nat) : Prop where
  numeral : Text.Numeral text n
  byte : n < 256
  plain : text.head? = some '0' → text = ['0']

/-- Four numbers of one byte with points between them; the first one counts for most. -/
inductive Dotted : List Char → Nat → Prop
  | octets {p q r s : List Char} {w x y z : Nat} (first : Octet p w) (second : Octet q x)
      (third : Octet r y) (fourth : Octet s z) :
      Dotted (p ++ '.' :: (q ++ '.' :: (r ++ '.' :: s))) (((w * 256 + x) * 256 + y) * 256 + z)

/-- A number of one byte, with zeros in front or not, possibly after one plus sign. -/
inductive ByteText : List Char → Nat → Prop
  | plain {text : List Char} {n : Nat} (numeral : Text.Numeral text n) (byte : n < 256) :
      ByteText text n
  | signed {text : List Char} {n : Nat} (numeral : Text.Numeral text n) (byte : n < 256) :
      ByteText ('+' :: text) n

inductive BlockText : List Char → Nat → Nat → Prop
  | slash {front back : List Char} {address bits : Nat} (dotted : Dotted front address)
      (byte : ByteText back bits) : BlockText (front ++ '/' :: back) address bits

section Grammar

variable {text : List Char} {n address bits : Nat} {c : Cidr}

theorem byte_eq_some_iff :
    (Text.decimal? text).filter (· < 256) = some n ↔ Text.Numeral text n ∧ n < 256 := by
  rw [Option.filter_eq_some_iff, Text.decimal_eq_some_iff, decide_eq_true_iff]

/-- Four digits with no zero in front stand for a thousand or more. -/
theorem Octet.length_le (octet : Octet text n) : text.length ≤ 3 := by
  by_cases zero : text.head? = some '0'
  · rw [octet.plain zero]
    decide
  · have most := octet.numeral.pow_le zero
    have below : 10 ^ (text.length - 1) < 10 ^ 3 :=
      Nat.lt_of_le_of_lt most (Nat.lt_trans octet.byte (by decide))
    have digits := (Nat.pow_lt_pow_iff_right (by decide)).mp below
    omega

theorem octet_eq_some_iff : octet? text = some n ↔ Octet text n := by
  have refused : 3 < text.length ∨ (text.head? = some '0' ∧ 1 < text.length) → ¬ Octet text n := by
    rintro (long | ⟨zero, more⟩) octet
    · exact absurd octet.length_le (Nat.not_le.mpr long)
    · rw [octet.plain zero] at more
      exact absurd more (by decide)
  rw [octet?]
  split
  · next fails => exact iff_of_false nofun (refused fails)
  · next fits =>
    rw [byte_eq_some_iff]
    refine ⟨fun ⟨numeral, byte⟩ => ⟨numeral, byte, fun zero => ?_⟩,
      fun octet => ⟨octet.numeral, octet.byte⟩⟩
    obtain ⟨rest, same⟩ := List.head?_eq_some_iff.mp zero
    have alone : ¬ 1 < text.length := fun more => fits (.inr ⟨zero, more⟩)
    rw [same, List.length_cons] at alone
    rw [same, List.length_eq_zero_iff.mp (by omega : rest.length = 0)]

theorem Octet.no_point (octet : Octet text n) : '.' ∉ text := octet.numeral.not_mem rfl

theorem Dotted.no_slash (dotted : Dotted text address) : '/' ∉ text := by
  cases dotted with
  | octets first second third fourth =>
    have digits {text : List Char} {n : Nat} (octet : Octet text n) : '/' ∉ text :=
      octet.numeral.not_mem rfl
    simp [digits first, digits second, digits third, digits fourth]

theorem Dotted.fits (dotted : Dotted text address) : address < 4294967296 := by
  cases dotted with
  | octets first second third fourth =>
    have := first.byte
    have := second.byte
    have := third.byte
    have := fourth.byte
    omega

theorem BlockText.fits (block : BlockText text address bits) : address < 4294967296 := by
  cases block with
  | slash dotted byte => exact dotted.fits

theorem Dotted.pieces {p q r s : List Char} {w x y z : Nat} (first : Octet p w)
    (second : Octet q x) (third : Octet r y) (fourth : Octet s z) :
    Text.splitAll '.' (p ++ '.' :: (q ++ '.' :: (r ++ '.' :: s))) = [p, q, r, s] := by
  rw [Text.split_all_append, Text.split_all_append, Text.split_all_append,
    Text.split_all_whole first.no_point, Text.split_all_whole second.no_point,
    Text.split_all_whole third.no_point, Text.split_all_whole fourth.no_point]
  rfl

theorem address_eq_some_iff {a : UInt32} : address? text = some a ↔ Dotted text a.toNat := by
  constructor
  · intro read
    rw [address?] at read
    split at read
    · next p q r s pieces =>
      simp only [Option.bind_eq_bind, Option.bind_eq_some_iff, octet_eq_some_iff] at read
      obtain ⟨w, first, x, second, y, third, z, fourth, same⟩ := read
      have dotted := Dotted.octets first second third fourth
      have whole := Text.intercalate_split_all '.' text
      rw [pieces] at whole
      have cut : text = p ++ '.' :: (q ++ '.' :: (r ++ '.' :: s)) := by
        rw [← whole]
        simp [List.intercalate_cons_cons]
      rw [← Option.some.inj same, cut, UInt32.toNat_ofNat_of_lt' dotted.fits]
      exact dotted
    · cases read
  · intro dotted
    generalize value : a.toNat = address at dotted
    cases dotted with
    | octets first second third fourth =>
      rw [address?, Dotted.pieces first second third fourth]
      simp only [octet_eq_some_iff.mpr first, octet_eq_some_iff.mpr second,
        octet_eq_some_iff.mpr third, octet_eq_some_iff.mpr fourth, Option.bind_eq_bind,
        Option.bind_some, ← value]
      exact congrArg some UInt32.ofNat_toNat

theorem bits_eq_some_iff {b : UInt8} : bits? text = some b ↔ ByteText text b.toNat := by
  have byte (digits : List Char) :
      ((Text.decimal? digits).filter (· < 256)).map UInt8.ofNat = some b ↔
        Text.Numeral digits b.toNat ∧ b.toNat < 256 := by
    rw [Option.map_eq_some_iff]
    constructor
    · rintro ⟨n, read, rfl⟩
      obtain ⟨numeral, small⟩ := byte_eq_some_iff.mp read
      rw [UInt8.toNat_ofNat_of_lt' small]
      exact ⟨numeral, small⟩
    · intro numeral
      exact ⟨b.toNat, byte_eq_some_iff.mpr numeral, UInt8.ofNat_toNat⟩
  unfold bits?
  split
  · next rest =>
    rw [byte]
    refine ⟨fun ⟨numeral, small⟩ => .signed numeral small, fun own => ?_⟩
    generalize value : b.toNat = n at own ⊢
    cases own with
    | plain numeral _ => exact absurd List.mem_cons_self (numeral.not_mem rfl)
    | signed numeral small => exact ⟨numeral, small⟩
  · next other =>
    rw [byte]
    refine ⟨fun ⟨numeral, small⟩ => .plain numeral small, fun own => ?_⟩
    generalize value : b.toNat = n at own ⊢
    cases own with
    | plain numeral small => exact ⟨numeral, small⟩
    | signed numeral small => exact absurd rfl (other _)

theorem aligned_iff (address k : Nat) :
    address % 2 ^ k = 0 ↔ ∀ i < k, address.testBit i = false := by
  constructor
  · intro aligned i last
    have bit := Nat.testBit_mod_two_pow address k i
    rwa [aligned, Nat.zero_testBit, decide_eq_true last, Bool.true_and, eq_comm] at bit
  · intro clear
    refine Nat.eq_of_testBit_eq fun i => ?_
    rw [Nat.testBit_mod_two_pow, Nat.zero_testBit]
    by_cases last : i < k
    · rw [clear i last, Bool.and_false]
    · rw [decide_eq_false last, Bool.false_and]

theorem make_eq_ok_iff {address : UInt32} {bits : UInt8} :
    make address bits = .ok c ↔ address.toNat = c.network ∧ bits.toNat = c.bits := by
  constructor
  · intro made
    rw [make] at made
    split at made
    · split at made
      · cases made
        exact ⟨rfl, rfl⟩
      · cases made
    · cases made
  · rintro ⟨network, shared⟩
    have own := make_self c
    rwa [← network, ← shared, UInt32.ofNat_toNat, UInt8.ofNat_toNat] at own

theorem parse_eq_ok_iff {s : String} :
    parse s = .ok c ↔ BlockText s.toList c.network c.bits := by
  have small : c.bits < 256 := Nat.lt_of_le_of_lt c.bits_le (by decide)
  constructor
  · intro read
    rw [parse] at read
    split at read
    · cases read
    · next front back cut =>
      split at read
      · next address bits first second =>
        obtain ⟨network, shared⟩ := make_eq_ok_iff.mp read
        rw [(Text.split_once_eq_some_iff.mp cut).1, ← network, ← shared]
        exact .slash (address_eq_some_iff.mp first) (bits_eq_some_iff.mp second)
      · cases read
  · intro own
    generalize whole : s.toList = text at own
    cases own with
    | slash dotted byte =>
      rw [← UInt32.toNat_ofNat_of_lt' c.network_lt] at dotted
      rw [← UInt8.toNat_ofNat_of_lt' small] at byte
      rw [parse, whole, Text.split_once_first dotted.no_slash]
      simp only [address_eq_some_iff.mpr dotted, bits_eq_some_iff.mpr byte]
      exact make_self c

/-! What blocks are written as. -/

theorem to_list_of_number (n : Nat) : (toString n).toList = Nat.toDigits 10 n := by
  rw [Nat.toString_eq_repr, Nat.toList_repr]

theorem octet_of_digits (byte : n < 256) : Octet (Nat.toDigits 10 n) n where
  numeral := Text.numeral_of_digits n
  byte
  plain lead := by
    rw [Text.eq_zero_of_digits lead]
    exact Nat.toDigits_zero 10

theorem dotted_to_list (address : Nat) :
    (dotted address).toList =
      Nat.toDigits 10 (address / 16777216 % 256) ++
        '.' :: (Nat.toDigits 10 (address / 65536 % 256) ++
          '.' :: (Nat.toDigits 10 (address / 256 % 256) ++
            '.' :: Nat.toDigits 10 (address % 256))) := by
  simp only [dotted, String.toList_append, to_list_of_number, List.append_assoc]
  rfl

theorem octet_text (n : Nat) : Octet (Nat.toDigits 10 (n % 256)) (n % 256) :=
  octet_of_digits (Nat.mod_lt n (by decide))

theorem dotted_text (fits : address < 4294967296) : Dotted (dotted address).toList address := by
  have sum : ((address / 16777216 % 256 * 256 + address / 65536 % 256) * 256 +
      address / 256 % 256) * 256 + address % 256 = address := by omega
  have whole := Dotted.octets (octet_text (address / 16777216)) (octet_text (address / 65536))
    (octet_text (address / 256)) (octet_text address)
  rwa [sum, ← dotted_to_list] at whole

/-- A block is written as the grammar has it, with no sign. -/
theorem block_text (c : Cidr) : BlockText c.text.toList c.network c.bits := by
  have cut : c.text.toList = (dotted c.network).toList ++ '/' :: Nat.toDigits 10 c.bits := by
    simp only [text, String.toList_append, to_list_of_number, List.append_assoc]
    rfl
  have small : c.bits < 256 := Nat.lt_of_le_of_lt c.bits_le (by decide)
  rw [cut]
  exact .slash (dotted_text c.network_lt) (.plain (Text.numeral_of_digits c.bits) small)

theorem parse_text (c : Cidr) : parse c.text = .ok c := parse_eq_ok_iff.mpr c.block_text

/-- A block is read back from its own text, and what is read is exactly what the grammar allows. -/
theorem parse_reads_grammar :
    (∀ c : Cidr, parse c.text = .ok c) ∧
    ∀ s : String,
      ((∃ c, parse s = .ok c) ↔ ∃ address bits, BlockText s.toList address bits ∧ bits ≤ 32 ∧
        ∀ i < 32 - bits, address.testBit i = false) ∧
      ∀ c, parse s = .ok c ↔ BlockText s.toList c.network c.bits := by
  refine ⟨parse_text, fun s => ⟨?_, fun c => parse_eq_ok_iff⟩⟩
  constructor
  · rintro ⟨c, read⟩
    exact ⟨c.network, c.bits, parse_eq_ok_iff.mp read, c.bits_le,
      (aligned_iff c.network (32 - c.bits)).mp c.aligned⟩
  · rintro ⟨address, bits, own, fits, clear⟩
    exact ⟨⟨address, bits, own.fits, fits, (aligned_iff address (32 - bits)).mpr clear⟩,
      parse_eq_ok_iff.mpr own⟩

end Grammar

end StackSynth.Cidr
