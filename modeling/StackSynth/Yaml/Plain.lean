import StackSynth.Decimal.Literal

/-!
What an unquoted YAML scalar stands for. Integers have up to one hundred and twenty-eight bits and
may be written in four bases; digits after a leading zero are a text.
-/
namespace StackSynth.Yaml

inductive Plain
  | null
  | bool (b : Bool)
  | int (n : Int)
  /-- A number with its bit pattern, or without one where it is infinite or no number. -/
  | float (bits : Option UInt64)
  | text
  deriving DecidableEq, Repr

namespace Plain

/-- A leading zero with more digits after it. -/
def isZeroPadded (cs : List Char) : Bool :=
  let digits := (Decimal.splitSign cs).2
  match digits with
  | '0' :: d :: rest => (d :: rest).all Text.isAsciiDigit
  | _ => false

def startsSigned : List Char → Bool
  | c :: _ => c = '+' || c = '-'
  | [] => false

/-- The base that a number announces, and its digits. -/
def announcedBase : List Char → Option (Nat × List Char)
  | '0' :: 'x' :: digits => some (16, digits)
  | '0' :: 'o' :: digits => some (8, digits)
  | '0' :: 'b' :: digits => some (2, digits)
  | _ => none

def inAnnouncedBase (bound : Nat) (cs : List Char) : Option Nat := do
  let (base, digits) ← announcedBase cs
  (Decimal.natural? base digits).filter (· < bound)

def unsigned? (cs : List Char) : Option Nat :=
  let digits := match cs with
    | '+' :: rest => rest
    | cs => cs
  match inAnnouncedBase (Nat.pow 2 128) digits with
  | some n => some n
  | none =>
    if startsSigned digits || isZeroPadded cs then none
    else (Decimal.natural? 10 digits).filter (· < Nat.pow 2 128)

def negative? : List Char → Option Nat
  | '-' :: digits =>
    match inAnnouncedBase (Nat.pow 2 127 + 1) digits with
    | some n => some n
    | none =>
      if isZeroPadded digits then none
      else (Decimal.natural? 10 digits).filter (· ≤ Nat.pow 2 127)
  | _ => none

def infinities : List String :=
  [".inf", ".Inf", ".INF", "+.inf", "+.Inf", "+.INF", "-.inf", "-.Inf", "-.INF"]

def notNumbers : List String := [".nan", ".NaN", ".NAN"]

/-- A finite number, or one of the words for the others. -/
def float? (text : String) : Option (Option UInt64) :=
  if infinities.contains text || notNumbers.contains text then some none
  else
    let digits := match text.toList with
      | '+' :: rest => if startsSigned rest then [] else rest
      | cs => cs
    match Decimal.float? digits with
    | some (some bits) => some (some bits)
    | _ => none

end Plain

def plain (text : String) : Plain :=
  let cs := text.toList
  if ["", "~", "null", "Null", "NULL"].contains text then .null
  else if ["true", "True", "TRUE"].contains text then .bool true
  else if ["false", "False", "FALSE"].contains text then .bool false
  else match Plain.unsigned? cs with
    | some n => .int n
    | none => match Plain.negative? cs with
      | some n => .int (-(n : Int))
      | none =>
        if Plain.isZeroPadded cs then .text
        else match Plain.float? text with
          | some bits => .float bits
          | none => .text

end StackSynth.Yaml
