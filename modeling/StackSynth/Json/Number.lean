import StackSynth.Json.Basic
import StackSynth.Decimal.Binary64

/-!
The number that a JSON literal stands for. A literal without fraction and exponent that fits into
sixty-four bits is an integer. Any other is computed in binary from as many leading digits as fit
into sixty-four bits and a power of ten, each rounded, and refused when it is too large.
-/
namespace StackSynth

/-- The parts of a number literal, as digits. -/
structure NumberLiteral where
  negative : Bool
  whole : List Nat
  fraction : Option (List Nat)
  /-- Whether the exponent is negative, and its digits. -/
  power : Option (Bool × List Nat)
  deriving DecidableEq, Repr

namespace NumberLiteral

/-- Takes digits while the number stays within `bound`; gives the rest back. -/
def gather (bound : Nat) : Nat → List Nat → Nat × List Nat
  | acc, [] => (acc, [])
  | acc, d :: rest =>
    if acc * 10 + d ≤ bound then gather bound (acc * 10 + d) rest else (acc, d :: rest)

def wordBound : Nat := 18446744073709551615

/-- `10 ^ n`, rounded. -/
def powerOfTen (n : Nat) : Option UInt64 := Binary64.ofDecimal false 1 n

/-- Scales by a power of ten, in steps of at most `10 ^ 308` downward. -/
def scaleByTen : Nat → UInt64 → Int → Option UInt64
  | 0, x, _ => some x
  | steps + 1, x, e =>
    if e.natAbs ≤ 308 then do
      let power ← powerOfTen e.natAbs
      if 0 ≤ e then Binary64.times x power else Binary64.dividedBy x power
    else if x = 0 then some x
    else if 0 ≤ e then none
    else do
      let power ← powerOfTen 308
      scaleByTen steps (← Binary64.dividedBy x power) (e + 308)

def assemble (negative : Bool) (significand : Nat) (e : Int) : Option Json := do
  let magnitude ← scaleByTen 8 (← Binary64.ofRatio false significand 1) e
  return .float (if negative then magnitude ||| 0x8000000000000000 else magnitude)

def withPower (negative : Bool) (significand : Nat) (e : Int) :
    Option (Bool × List Nat) → Option Json
  | none => assemble negative significand e
  | some (down, digits) =>
    match gather 2147483647 0 digits with
    | (power, []) => assemble negative significand (if down then e - power else e + power)
    | _ => if significand = 0 ∨ down then assemble negative 0 0 else none

def value (literal : NumberLiteral) : Option Json :=
  let (significand, left) := gather wordBound 0 literal.whole
  match literal.fraction, literal.power, left with
  | none, none, [] =>
    if literal.negative then
      if significand = 0 then assemble true 0 0
      else match JsonInt.ofInt? (-(significand : Int)) with
        | some n => some (.int n)
        | none => assemble true significand 0
    else (JsonInt.ofInt? significand).map .int
  | none, power, left => withPower literal.negative significand left.length power
  | some digits, power, left =>
    let (significand, unread) := gather wordBound significand digits
    withPower literal.negative significand
      ((left.length : Int) - (digits.length - unread.length : Nat)) power

end NumberLiteral

end StackSynth
