/-!
JSON values. Integers are those of sixty-four bits, signed or not; other numbers are kept as the bit
pattern of a binary number. An object is a list of fields: in ascending key order where order does
not matter, and in the order of its declaration where a document fixes it.
-/
namespace StackSynth

/-- An integer that fits into sixty-four bits, with or without a sign. -/
structure JsonInt where
  val : Int
  lower : -9223372036854775808 ≤ val := by decide
  upper : val < 18446744073709551616 := by decide
  deriving DecidableEq, Repr

namespace JsonInt

instance : Inhabited JsonInt := ⟨⟨0, by decide, by decide⟩⟩

def ofInt? (n : Int) : Option JsonInt :=
  if lower : -9223372036854775808 ≤ n then
    if upper : n < 18446744073709551616 then some ⟨n, lower, upper⟩ else none
  else none

def ofInt64 (n : Int64) : JsonInt :=
  ⟨n.toInt, n.le_toInt, by have := n.toInt_lt; omega⟩

def ofUInt64 (n : UInt64) : JsonInt :=
  ⟨n.toNat, by omega, by have := n.toNat_lt; omega⟩

end JsonInt

inductive Json
  | null
  | bool (b : Bool)
  | int (n : JsonInt)
  | float (bits : UInt64)
  | str (s : String)
  | arr (items : List Json)
  | obj (fields : List (String × Json))
  deriving BEq, Repr, Inhabited

abbrev Fields := List (String × Json)

namespace Fields

/-- Puts a field in its place among fields in ascending key order, over one of the same key. -/
def insert (key : String) (value : Json) : Fields → Fields
  | [] => [(key, value)]
  | (k, v) :: rest =>
    if k = key then (key, value) :: rest
    else if key < k then (key, value) :: (k, v) :: rest
    else (k, v) :: insert key value rest

def get? (key : String) : Fields → Option Json
  | [] => none
  | (k, v) :: rest => if k = key then some v else get? key rest

/-- Sorts the fields; of a repeated key the last value stays. -/
def ofList (entries : List (String × Json)) : Fields :=
  entries.foldl (fun fields entry => insert entry.1 entry.2 fields) []

def Ascending (fields : Fields) : Prop := fields.Pairwise (fun a b => a.1 < b.1)

end Fields

namespace Json

/-- An object with sorted fields. -/
def object (entries : List (String × Json)) : Json := obj (Fields.ofList entries)

def nat (n : UInt64) : Json := int (.ofUInt64 n)

/-- A list of texts. -/
def strs (items : List String) : Json := arr (items.map str)

def asStr? : Json → Option String
  | str s => some s
  | _ => none

def asArr? : Json → Option (List Json)
  | arr items => some items
  | _ => none

def asObj? : Json → Option Fields
  | obj fields => some fields
  | _ => none

def asInt? : Json → Option Int
  | int n => some n.val
  | _ => none

/-- The value of a field; none for anything but an object. -/
def field? (value : Json) (key : String) : Option Json :=
  match value with
  | obj fields => Fields.get? key fields
  | _ => none

mutual

/-- Every object lists its fields in strictly ascending key order. -/
def Sorted : Json → Prop
  | arr items => AllSorted items
  | obj fields => Fields.Ascending fields ∧ FieldsSorted fields
  | _ => True

def AllSorted : List Json → Prop
  | [] => True
  | item :: rest => Sorted item ∧ AllSorted rest

def FieldsSorted : List (String × Json) → Prop
  | [] => True
  | (_, value) :: rest => Sorted value ∧ FieldsSorted rest

end

end Json

end StackSynth
