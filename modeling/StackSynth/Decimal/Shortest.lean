import StackSynth.Decimal.Binary64

/-!
The shortest decimal that reads back as a given binary number, and the ways of writing it down.
The reals that round to a number form an interval around it, whose ends belong to it when the
magnitude is even. Of the decimal grids that have a point in the interval the coarsest wins, of two
points on it the nearer, and of two equally near the one with the even last digit.
-/
namespace StackSynth

/-- The value is `digits * 10 ^ exponent`. -/
structure Decimal where
  digits : Nat
  exponent : Int
  deriving DecidableEq, Repr

namespace Decimal

/-- Numerator and denominator of `value / 10 ^ k` for a value given as `n * 2 ^ e`. -/
def ratioOver (n : Nat) (e k : Int) : Nat × Nat :=
  (n * (if 0 ≤ e then Nat.pow 2 e.toNat else 1) * (if 0 ≤ k then 1 else Nat.pow 10 (-k).toNat),
    (if 0 ≤ e then 1 else Nat.pow 2 (-e).toNat) * (if 0 ≤ k then Nat.pow 10 k.toNat else 1))

/-- The point of the grid `10 ^ k` that stands for the number, if one of its neighbours does.
Four times the magnitude makes the ends of the interval whole. -/
def onGrid (number : Dyadic) (k : Int) : Option Nat :=
  let centre := 4 * number.magnitude
  let low := if number.narrowBelow then centre - 1 else centre - 2
  let high := centre + 2
  let (top, bottom) := ratioOver 1 (number.exponent - 2) k
  let below := centre * top / bottom
  let closed := decide (number.magnitude % 2 = 0)
  let inside (point : Nat) : Bool :=
    let scaled := point * bottom
    if closed then decide (low * top ≤ scaled) && decide (scaled ≤ high * top)
    else decide (low * top < scaled) && decide (scaled < high * top)
  let gapBelow := centre * top - below * bottom
  let gapAbove := (below + 1) * bottom - centre * top
  match inside below, inside (below + 1) with
  | true, true =>
    some (if gapBelow < gapAbove ∨ (gapBelow = gapAbove ∧ below % 2 = 0) then below else below + 1)
  | true, false => some below
  | false, true => some (below + 1)
  | false, false => none

/-- Tries the grids from `10 ^ k` downward. -/
def searchGrids (number : Dyadic) : Nat → Int → Decimal
  | 0, k => ⟨0, k⟩
  | steps + 1, k =>
    match onGrid number k with
    | some point => if point = 0 then searchGrids number steps (k - 1) else ⟨point, k⟩
    | none => searchGrids number steps (k - 1)

/-- Takes zeros off the end of the digits. -/
def trimZeros : Nat → Decimal → Decimal
  | 0, d => d
  | steps + 1, d =>
    if d.digits ≠ 0 ∧ d.digits % 10 = 0 then trimZeros steps ⟨d.digits / 10, d.exponent + 1⟩ else d

/-- The shortest decimal of a finite number; zero for zero. -/
def shortest (number : Dyadic) : Decimal :=
  if number.magnitude = 0 then ⟨0, 0⟩
  else
    let leading : Int := (Nat.log2 number.magnitude : Int) + number.exponent + 1
    trimZeros 20 (searchGrids number 400 (leading * 30103 / 100000 + 1))

def digitText (n : Nat) : List Char := Nat.toDigits 10 n

def zeros (n : Nat) : List Char := List.replicate n '0'

/-- Without an exponent, and always with a decimal point. -/
def positional (d : Decimal) : List Char :=
  let digits := digitText d.digits
  let point : Int := digits.length + d.exponent
  if 0 ≤ d.exponent then digits ++ zeros d.exponent.toNat ++ ['.', '0']
  else if 0 < point then digits.take point.toNat ++ ['.'] ++ digits.drop point.toNat
  else ['0', '.'] ++ zeros (-point).toNat ++ digits

/-- One digit before the point, and the power of ten after `e`. -/
def scientific (plus : Bool) (d : Decimal) : List Char :=
  let digits := digitText d.digits
  let power : Int := digits.length + d.exponent - 1
  let mantissa := match digits with
    | [] => []
    | [only] => [only]
    | first :: rest => first :: '.' :: rest
  mantissa ++ ['e'] ++ (if power < 0 then ['-'] else if plus then ['+'] else [])
    ++ digitText power.natAbs

/-- Positional from `10 ^ -5` to below `10 ^ 16`, scientific elsewhere. -/
def general (plus : Bool) (d : Decimal) : List Char :=
  let point : Int := (digitText d.digits).length + d.exponent
  if d.digits = 0 ∨ (-5 < point ∧ point ≤ 16) then positional d else scientific plus d

end Decimal

namespace Binary64

def signed (bits : UInt64) (text : List Char) : List Char :=
  if isNegative bits then '-' :: text else text

/-- With an exponent where the number is large or small; `plus` marks a positive exponent. -/
def generalText (plus : Bool) (bits : UInt64) : List Char :=
  match decode bits with
  | some number => signed bits (Decimal.general plus (Decimal.shortest number))
  | none => ['n', 'u', 'l', 'l']

/-- Never with an exponent. -/
def positionalText (bits : UInt64) : List Char :=
  match decode bits with
  | some number => signed bits (Decimal.positional (Decimal.shortest number))
  | none => ['n', 'u', 'l', 'l']

end Binary64

end StackSynth
