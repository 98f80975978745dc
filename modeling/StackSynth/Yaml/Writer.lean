import StackSynth.Json.Text
import StackSynth.Yaml.Scalar

/-!
Values as YAML documents in block style. Lists stand at the column of the key they belong to, empty
collections are written in brackets, and lines are never folded.
-/
namespace StackSynth.Yaml

def newline (pending : Bool) : List Char := if pending then ['\n'] else []

/-- A scalar other than a text. -/
def atom? : Json → Option (List Char)
  | .null => some ['n', 'u', 'l', 'l']
  | .bool b => some (Json.boolText b)
  | .int n => some (Json.intText n.val)
  | .float bits => some (Binary64.generalText false bits)
  | .arr [] => some ['[', ']']
  | .obj [] => some ['{', '}']
  | _ => none

mutual

/-- What follows a marker such as `- `, in the column `indent`; ends with a break. -/
def afterMarker (indent : Nat) : Json → List Char
  | .str s => let (text, pending) := scalar false indent s; text ++ newline pending
  | .arr [] => ['[', ']', '\n']
  | .arr items => (listLines indent items).drop indent
  | .obj [] => ['{', '}', '\n']
  | .obj fields => (fieldLines indent fields).drop indent
  | value => (atom? value).getD [] ++ ['\n']

/-- What follows a key and its colon, where the key stands in the column `indent`. -/
def afterKey (indent : Nat) : Json → List Char
  | .str s => let (text, pending) := scalar false (indent + 2) s; ' ' :: text ++ newline pending
  | .arr [] => [' ', '[', ']', '\n']
  | .arr items => '\n' :: listLines indent items
  | .obj [] => [' ', '{', '}', '\n']
  | .obj fields => '\n' :: fieldLines (indent + 2) fields
  | value => ' ' :: (atom? value).getD [] ++ ['\n']

/-- The items of a list, each on lines of its own. -/
def listLines (indent : Nat) : List Json → List Char
  | [] => []
  | item :: rest =>
    spaces indent ++ '-' :: ' ' :: afterMarker (indent + 2) item ++ listLines indent rest

def fieldLines (indent : Nat) : List (String × Json) → List Char
  | [] => []
  | (key, value) :: rest =>
    (if isInlineKey key then
      spaces indent ++ (scalar true (indent + 2) key).1 ++ ':' :: afterKey indent value
    else
      let (text, pending) := scalar false (indent + 2) key
      spaces indent ++ '?' :: ' ' :: text ++ newline pending
        ++ spaces indent ++ ':' :: ' ' :: afterMarker (indent + 2) value)
    ++ fieldLines indent rest

end

/-- A whole document. -/
def render (value : Json) : String := String.ofList (afterMarker 0 value)

end StackSynth.Yaml
