import StackSynth.Json.Basic
import StackSynth.Yaml.Node

/-!
YAML texts as JSON values. Tags of the application's own have no such value. Collections may be one
hundred and twenty-eight deep, and aliases may be followed a hundred times for each step of the
document.
-/
namespace StackSynth.Yaml

/-- Reading with a count of the aliases that may still be followed. -/
abbrev Following := StateT Nat Option

namespace Scalar

def nullTag : Tag := Tag.core ++ Tag.ofText "null"
def boolTag : Tag := Tag.core ++ Tag.ofText "bool"
def intTag : Tag := Tag.core ++ Tag.ofText "int"
def floatTag : Tag := Tag.core ++ Tag.ofText "float"

def ofInt (n : Int) : Option Json := (JsonInt.ofInt? n).map .int

/-- A number that is infinite or none has no JSON value and becomes null. -/
def ofFloat (bits : Option UInt64) : Json :=
  match bits with
  | some bits => .float bits
  | none => .null

def ofPlain (text : String) : Option Json :=
  match plain text with
  | .null => some .null
  | .bool b => some (.bool b)
  | .int n => ofInt n
  | .float bits => some (ofFloat bits)
  | .text => some (.str text)

def int? (text : String) : Option Int :=
  match Plain.unsigned? text.toList with
  | some n => some n
  | none => (Plain.negative? text.toList).map fun n => -(n : Int)

def toJson? (tag : Option Tag) (isPlain : Bool) (text : String) : Option Json :=
  match tag with
  | none => if isPlain then ofPlain text else some (.str text)
  | some tag =>
    if tag.isNamed then none
    else if tag = nullTag then
      if !text.isEmpty && plain text = .null then some .null else none
    else if tag = boolTag then
      match plain text with
      | .bool b => some (.bool b)
      | _ => none
    else if tag = intTag then (int? text).bind ofInt
    else if tag = floatTag then (Plain.float? text).map ofFloat
    else if tag.isMarked && isPlain then ofPlain text
    else some (.str text)

end Scalar

namespace Node

/-- Whether a tag of the application's own keeps the node from having a value. -/
def isForeign (l : Label Nat) : Bool := (l.tag.map Tag.isNamed).getD false

variable (anchors : List (Nat × Node Nat))

/-- The node itself, or the one that an alias stands for. -/
def followed : Node Nat → Following (Node Nat)
  | .alias_ id => do
    match ← get with
    | 0 => failure
    | left + 1 =>
      set left
      (anchors.lookup id).elim failure pure
  | node => pure node

/-- A key is the text of a scalar, whatever its tag. -/
def keyText (node : Node Nat) : Following String := do
  match ← followed anchors node with
  | .scalar _ _ text => pure text
  | _ => failure

/-- The value of a node with at most `depth` collections inside each other. -/
def toJson? : Nat → Node Nat → Following Json
  | depth, node => do
    match ← followed anchors node with
    | .scalar l isPlain text => (Scalar.toJson? l.tag isPlain text).elim failure pure
    | .sequence l items =>
      match depth with
      | 0 => failure
      | depth + 1 =>
        if isForeign l then failure
        else return .arr (← items.mapM (toJson? depth))
    | .mapping l entries =>
      match depth with
      | 0 => failure
      | depth + 1 =>
        if isForeign l then failure
        else return .object (← entries.mapM fun entry => do
          let key ← keyText anchors entry.1
          return (key, ← toJson? depth entry.2))
    | .alias_ _ => failure

end Node

def depthLimit : Nat := 128

/-- The value of a text with one document. -/
def parse? (text : String) : Option Json := do
  let (node, _) ← Node.number (← Node.ofTokens? (← tokens? text)) []
  let (value, _) ← (Node.toJson? node.anchored.reverse depthLimit node).run (100 * node.weight)
  return value

end StackSynth.Yaml
