/-!
Sixty-four bit binary numbers, kept as their bit patterns: what a pattern stands for, and the
pattern nearest to a decimal.
-/
namespace StackSynth

/-- A finite pattern: the value is `magnitude * 2 ^ exponent`, with the sign apart. -/
structure Dyadic where
  negative : Bool
  magnitude : Nat
  exponent : Int
  /-- The gap below is half the gap above, which happens at powers of two only. -/
  narrowBelow : Bool
  deriving DecidableEq, Repr

/-- `magnitude * 2 ^ exponent` as a quotient of naturals. -/
def Dyadic.ratio (d : Dyadic) : Nat × Nat :=
  if 0 ≤ d.exponent then (d.magnitude * Nat.pow 2 d.exponent.toNat, 1)
  else (d.magnitude, Nat.pow 2 (-d.exponent).toNat)

namespace Binary64

def fractionBits : Nat := 52
def leastExponent : Int := -1074

/-- Where the fraction of a pattern ends. -/
def fractionLimit : Nat := Nat.pow 2 fractionBits

/-- Where the sign of a pattern stands. -/
def signBit : Nat := Nat.pow 2 63

/-- `none` stands for the infinities and for what is not a number. -/
def decode (bits : UInt64) : Option Dyadic :=
  let word := bits.toNat
  let negative := decide (word / signBit = 1)
  let field : Nat := word / fractionLimit % 2048
  let fraction : Nat := word % fractionLimit
  if field = 2047 then none
  else if field = 0 then some ⟨negative, fraction, leastExponent, false⟩
  else some ⟨negative, fractionLimit + fraction, (field : Int) - 1075,
    decide (fraction = 0) && decide (1 < field)⟩

/-- Rounds a quotient of naturals to the nearest whole, a tie to the even neighbour. -/
def roundQuotient (numerator denominator : Nat) : Nat :=
  let quotient := numerator / denominator
  let twice := 2 * (numerator % denominator)
  if twice < denominator then quotient
  else if denominator < twice then quotient + 1
  else if quotient % 2 = 0 then quotient else quotient + 1

/-- The nearest pattern to `numerator / denominator`; `none` where that lies beyond the largest. -/
def ofRatio (negative : Bool) (numerator denominator : Nat) : Option UInt64 :=
  let sign := if negative then signBit else 0
  if numerator = 0 ∨ denominator = 0 then some (UInt64.ofNat sign)
  else
    let estimate : Int := (Nat.log2 numerator : Int) - (Nat.log2 denominator : Int)
    let atLeast := if 0 ≤ estimate then denominator * Nat.pow 2 estimate.toNat ≤ numerator
      else denominator ≤ numerator * Nat.pow 2 (-estimate).toNat
    let leading := if atLeast then estimate else estimate - 1
    let exponent := max (leading - fractionBits) leastExponent
    let rounded :=
      if 0 ≤ exponent then roundQuotient numerator (denominator * Nat.pow 2 exponent.toNat)
      else roundQuotient (numerator * Nat.pow 2 (-exponent).toNat) denominator
    let (magnitude, exponent) :=
      if rounded = 2 * fractionLimit then (fractionLimit, exponent + 1) else (rounded, exponent)
    if 971 < exponent then none
    else if magnitude < fractionLimit then some (UInt64.ofNat (sign + magnitude))
    else some (UInt64.ofNat
      (sign + (exponent + 1075).toNat * fractionLimit + (magnitude - fractionLimit)))

/-- The pattern nearest to `digits * 10 ^ exponent`. Exponents too large to matter are cut off. -/
def ofDecimal (negative : Bool) (digits : Nat) (exponent : Int) : Option UInt64 :=
  if digits = 0 then ofRatio negative 0 1
  else
    let size : Int := Nat.log2 digits
    if 2000 < exponent then none
    else if exponent < -2000 - size then ofRatio negative 0 1
    else if 0 ≤ exponent then ofRatio negative (digits * Nat.pow 10 exponent.toNat) 1
    else ofRatio negative digits (Nat.pow 10 (-exponent).toNat)

/-- The rounded product of two finite patterns; `none` where it is too large. -/
def times (a b : UInt64) : Option UInt64 := do
  let x ← decode a
  let y ← decode b
  ofRatio (x.negative != y.negative) (x.ratio.1 * y.ratio.1) (x.ratio.2 * y.ratio.2)

/-- The rounded quotient of two finite patterns. -/
def dividedBy (a b : UInt64) : Option UInt64 := do
  let x ← decode a
  let y ← decode b
  ofRatio (x.negative != y.negative) (x.ratio.1 * y.ratio.2) (x.ratio.2 * y.ratio.1)

def isNegative (bits : UInt64) : Bool := decide (bits.toNat / signBit = 1)

end Binary64

end StackSynth
