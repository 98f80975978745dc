import StackSynth.Failure
import StackSynth.Digest.Md5
import StackSynth.Text.Split

/-!
Logical ids of resources, computed from their construct paths. The id of a path of several
components is what a reader sees of it, followed by eight digits of a digest that keeps apart paths
whose letters agree.
-/
namespace StackSynth.LogicalId

/-- A component that leaves no trace in the id. -/
def hidden : String := "Default"

/-- A component that counts for the digest only. -/
def hiddenFromReader : String := "Resource"

def readableLimit : Nat := 240
def digestLength : Nat := 8

def visible (components : List String) : List String := components.filter (· ≠ hidden)

def alphanumerics (s : String) : List Char := s.toList.filter Text.isAsciiAlphanumeric

/-- Drops each component that the last one kept ends with. -/
def dropRepeats (last : Option String) : List String → List String
  | [] => []
  | c :: rest =>
    match last with
    | some kept => if c.toList.isSuffixOf kept.toList then dropRepeats last rest
      else c :: dropRepeats (some c) rest
    | none => c :: dropRepeats (some c) rest

def readable (components : List String) : List Char :=
  (((dropRepeats none components).filter (· ≠ hiddenFromReader)).flatMap alphanumerics).take
    readableLimit

/-- The first digits of the digest of the path, in upper case. -/
def digestOf (components : List String) : List Char :=
  let message := (String.intercalate "/" components).toUTF8.toList
  ((Digest.hex (Digest.Md5.digest message)).toList.take digestLength).map Char.toUpper

def numbered (components : List String) : String :=
  String.ofList (readable components ++ digestOf components)

/-- The id of a path. -/
def ofPath (path : List String) : Outcome String :=
  match visible path with
  | [] => .error (.internal "Unable to allocate a logical id for an empty path")
  | [only] =>
    let candidate := alphanumerics only
    if candidate = [] then
      .error (.invalidProps only "construct id has no alphanumeric characters")
    else if candidate.length ≤ readableLimit then .ok (String.ofList candidate)
    else .ok (numbered [only])
  | components => .ok (numbered components)

end StackSynth.LogicalId
