import StackSynth.Json.Text
import StackSynth.Template.Reference

/-!
Values of template properties: literals, references and the functions that a deployment evaluates.
A value becomes JSON in two ways, as a tree and directly as text.
-/
namespace StackSynth

inductive Value
  | str (s : String)
  | number (n : Int64)
  | bool (b : Bool)
  | ref (id : String)
  | getAtt (id attr : String)
  | join (delimiter : String) (values : List Value)
  | select (index : UInt64) (source : Value)
  | getAzs (region : String)
  | sub (text : String)
  | list (items : List Value)
  deriving Repr, Inhabited

namespace Value

def accountId : Value := ref "AWS::AccountId"
def region : Value := ref "AWS::Region"
def partition : Value := ref "AWS::Partition"
def urlSuffix : Value := ref "AWS::URLSuffix"

/-- The zone with the given number, among those of the region deployed to. -/
def availabilityZone (index : UInt64) : Value := select index (getAzs "")

mutual

/-- Whether a value stands for itself, all the way down. -/
def isLiteral : Value → Bool
  | str _ | number _ | bool _ => true
  | list items => allLiteral items
  | _ => false

def allLiteral : List Value → Bool
  | [] => true
  | item :: rest => isLiteral item && allLiteral rest

end

def asStr? : Value → Option String
  | str s => some s
  | _ => none

mutual

def toJson : Value → Json
  | str s => .str s
  | number n => .int (.ofInt64 n)
  | bool b => .bool b
  | ref id => .obj [("Ref", .str id)]
  | getAtt id attr => .obj [("Fn::GetAtt", .arr [.str id, .str attr])]
  | join delimiter values => .obj [("Fn::Join", .arr [.str delimiter, .arr (toJsons values)])]
  | select index source => .obj [("Fn::Select", .arr [.nat index, toJson source])]
  | getAzs region => .obj [("Fn::GetAZs", .str region)]
  | sub text => .obj [("Fn::Sub", .str text)]
  | list items => .arr (toJsons items)

def toJsons : List Value → List Json
  | [] => []
  | item :: rest => toJson item :: toJsons rest

end

/-- An object with one field, whose value is already written. -/
def taggedText (key : String) (body : List Char) : List Char :=
  '{' :: Json.quote key ++ ':' :: body ++ ['}']

def pairText (first second : List Char) : List Char := '[' :: first ++ ',' :: second ++ [']']

mutual

/-- The compact JSON text, without going through a tree. -/
def encode : Value → List Char
  | str s => Json.quote s
  | number n => Json.intText n.toInt
  | bool b => Json.boolText b
  | ref id => taggedText "Ref" (Json.quote id)
  | getAtt id attr => taggedText "Fn::GetAtt" (pairText (Json.quote id) (Json.quote attr))
  | join delimiter values =>
    taggedText "Fn::Join" (pairText (Json.quote delimiter) ('[' :: encodeItems values ++ [']']))
  | select index source =>
    taggedText "Fn::Select" (pairText (Json.intText index.toNat) (encode source))
  | getAzs region => taggedText "Fn::GetAZs" (Json.quote region)
  | sub text => taggedText "Fn::Sub" (Json.quote text)
  | list items => '[' :: encodeItems items ++ [']']

def encodeItems : List Value → List Char
  | [] => []
  | [item] => encode item
  | item :: rest => encode item ++ ',' :: encodeItems rest

end

mutual

/-- The references inside a value, from left to right. -/
def references : Value → List Reference
  | ref id => if isPseudoParameter id then [] else [⟨id, none⟩]
  | getAtt id attr => [⟨id, some attr⟩]
  | sub text => Reference.inSubstitution text.toList
  | join _ values => referencesInItems values
  | select _ source => references source
  | list items => referencesInItems items
  | _ => []

def referencesInItems : List Value → List Reference
  | [] => []
  | item :: rest => references item ++ referencesInItems rest

end

end Value

end StackSynth
