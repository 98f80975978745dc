import StackSynth.Decimal.Binary64
import StackSynth.Text.Split

/-!
Numbers written in decimal and in other bases, as texts of configuration formats spell them.
-/
namespace StackSynth

namespace Decimal

def digitIn (base : Nat) (c : Char) : Option Nat :=
  let value :=
    if '0' ≤ c ∧ c ≤ '9' then some (c.toNat - '0'.toNat)
    else if 'a' ≤ c ∧ c ≤ 'z' then some (c.toNat - 'a'.toNat + 10)
    else if 'A' ≤ c ∧ c ≤ 'Z' then some (c.toNat - 'A'.toNat + 10)
    else none
  value.filter (· < base)

def naturalFrom (base : Nat) : Nat → List Char → Option Nat
  | acc, [] => some acc
  | acc, c :: rest => do naturalFrom base (acc * base + (← digitIn base c)) rest

/-- A number without sign in the given base; at least one digit. -/
def natural? (base : Nat) : List Char → Option Nat
  | [] => none
  | digits => naturalFrom base 0 digits

/-- The sign in front of a number, if there is one. -/
def splitSign : List Char → Bool × List Char
  | '-' :: rest => (true, rest)
  | '+' :: rest => (false, rest)
  | cs => (false, cs)

/-- A number with sign, point and exponent, where at least one digit stands before the exponent.
The inner option is empty for numbers beyond the largest. -/
def float? (text : List Char) : Option (Option UInt64) := do
  let (negative, rest) := splitSign text
  let whole := rest.takeWhile Text.isAsciiDigit
  let rest := rest.dropWhile Text.isAsciiDigit
  let (fraction, rest) := match rest with
    | '.' :: rest => (rest.takeWhile Text.isAsciiDigit, rest.dropWhile Text.isAsciiDigit)
    | rest => ([], rest)
  let digits ← natural? 10 (whole ++ fraction)
  let power : Int ← match rest with
    | [] => some 0
    | c :: rest =>
      if c = 'e' ∨ c = 'E' then
        let (down, rest) := splitSign rest
        (natural? 10 rest).map fun n => if down then -(n : Int) else n
      else none
  return Binary64.ofDecimal negative digits (power - fraction.length)

end Decimal

end StackSynth
