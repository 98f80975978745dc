import StackSynth.Failure
import StackSynth.Text.Split

/-!
Blocks of IPv4 addresses: a network address and the number of leading bits that all addresses of the
block share. The address has no other bits set.
-/
namespace StackSynth

structure Cidr where
  network : Nat
  bits : Nat
  network_lt : network < 4294967296
  bits_le : bits ≤ 32
  aligned : network % Nat.pow 2 (32 - bits) = 0
  deriving DecidableEq, Repr

namespace Cidr

/-- The number of addresses in a block that shares the given number of bits. -/
def sizeOf (bits : Nat) : Nat := Nat.pow 2 (32 - bits)

def size (c : Cidr) : Nat := sizeOf c.bits

def dotted (address : Nat) : String :=
  s!"{address / 16777216 % 256}.{address / 65536 % 256}.{address / 256 % 256}.{address % 256}"

def text (c : Cidr) : String := s!"{dotted c.network}/{c.bits}"

instance : Inhabited Cidr := ⟨⟨0, 0, by decide, by decide, by decide⟩⟩

def make (address : UInt32) (bits : UInt8) : Outcome Cidr :=
  if fits : bits.toNat ≤ 32 then
    if aligned : address.toNat % Nat.pow 2 (32 - bits.toNat) = 0 then
      .ok ⟨address.toNat, bits.toNat, address.toNat_lt, fits, aligned⟩
    else .error (.invalidProps "Vpc" s!"{dotted address.toNat}/{bits.toNat} has host bits set")
  else .error (.invalidProps "Vpc" s!"prefix length /{bits.toNat} is out of range")

/-- Whether every address of `b` is one of `a`. -/
def contains (a b : Cidr) : Bool :=
  decide (a.bits ≤ b.bits) && (b.network - b.network % a.size == a.network)

/-- The smallest blocks that a network may be split into share this many bits. -/
def smallestBits : Nat := 28

/-- The least number of bits that can tell `count` blocks apart. -/
def extraBits (count : Nat) : Nat := if count ≤ 1 then 0 else Nat.log2 (count - 1) + 1

/-- The block that starts at `address`, which has to be an address at all. -/
def blockAt (whole : Cidr) (bits address : Nat) : Outcome Cidr :=
  if address < 4294967296 then make (UInt32.ofNat address) (UInt8.ofNat bits)
  else .error (.internal s!"address overflow splitting {whole.text}")

/-- The first `count` of the blocks that a network falls into, all of one size. -/
def split (c : Cidr) (count : UInt64) : Outcome (List Cidr) :=
  if count = 0 then .ok []
  else
    let bits := c.bits + extraBits count.toNat
    if smallestBits < bits then
      .error (.invalidProps "Vpc" s!"{c.text} is too small to hold {count.toNat} subnets")
    else (List.range count.toNat).mapM fun i => blockAt c bits (c.network + i * sizeOf bits)

/-- One to three digits, with no zero in front of others, up to 255. -/
def octet? (digits : List Char) : Option Nat :=
  if 3 < digits.length ∨ (digits.head? = some '0' ∧ 1 < digits.length) then none
  else (Text.decimal? digits).filter (· < 256)

def address? (cs : List Char) : Option UInt32 :=
  match Text.splitAll '.' cs with
  | [a, b, c, d] => do
    let a ← octet? a
    let b ← octet? b
    let c ← octet? c
    let d ← octet? d
    return UInt32.ofNat (((a * 256 + b) * 256 + c) * 256 + d)
  | _ => none

/-- A number up to 255, possibly after a plus sign. -/
def bits? (cs : List Char) : Option UInt8 :=
  let digits := match cs with
    | '+' :: rest => rest
    | cs => cs
  ((Text.decimal? digits).filter (· < 256)).map UInt8.ofNat

/-- Reads an address, a slash and the number of shared bits. -/
def parse (s : String) : Outcome Cidr :=
  let invalid : Failure := .invalidProps "Vpc" s!"'{s}' is not an IPv4 CIDR block"
  match Text.splitOnce '/' s.toList with
  | none => .error invalid
  | some (address, bits) =>
    match address? address, bits? bits with
    | some address, some bits => make address bits
    | _, _ => .error invalid

end Cidr

end StackSynth
