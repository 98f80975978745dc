import StackSynth.Json.Basic
import StackSynth.Text.Split

/-!
References inside template values. An object with one field is a reference when the field is `Ref`,
`Fn::GetAtt` or `Fn::Sub`; any other value refers to what its parts refer to, from left to right.
-/
namespace StackSynth

structure Reference where
  target : String
  attr : Option String
  deriving DecidableEq, Repr, Inhabited

/-- Parameters that exist in every stack without being declared. -/
def isPseudoParameter (name : String) : Bool := Text.startsWith "AWS::" name

namespace Reference

/-- A target and the attribute after the first point, if there is one. -/
def ofDotted (name : List Char) : Reference :=
  match Text.splitOnce '.' name with
  | some (target, attr) => ⟨String.ofList target, some (String.ofList attr)⟩
  | none => ⟨String.ofList name, none⟩

/-- A placeholder that starts with an exclamation mark stands for itself. -/
def ofPlaceholder (name : List Char) : List Reference :=
  if name.head? = some '!' ∨ isPseudoParameter (String.ofList name) then [] else [ofDotted name]

theorem length_after_splitOnce {c : Char} {cs before after : List Char}
    (cut : Text.splitOnce c cs = some (before, after)) : after.length < cs.length := by
  induction cs generalizing before with
  | nil => simp [Text.splitOnce] at cut
  | cons x rest ih =>
    simp only [Text.splitOnce] at cut
    split at cut
    · cases cut; simp
    · obtain ⟨pair, found, same⟩ := Option.map_eq_some_iff.1 cut
      obtain ⟨b, a⟩ := pair
      cases same
      exact Nat.lt_succ_of_lt (ih found)

/-- The references of a substitution text, placeholder by placeholder. -/
def inSubstitution : List Char → List Reference
  | [] => []
  | [_] => []
  | a :: b :: rest =>
    if a = '$' ∧ b = '{' then
      match cut : Text.splitOnce '}' rest with
      | none => []
      | some (name, after) =>
        have : after.length < rest.length := length_after_splitOnce cut
        ofPlaceholder name ++ inSubstitution after
    else inSubstitution (b :: rest)
termination_by cs => cs.length

/-- What an attribute lookup refers to, written as a list or as one dotted name. -/
def ofGetAtt : Json → List Reference
  | .arr (.str target :: rest) =>
    [⟨target, match rest with
      | .str attr :: _ => some attr
      | _ => none⟩]
  | .str dotted => [ofDotted dotted.toList]
  | _ => []

/-- The references of an object with one field, if that field makes it a reference. -/
def ofIntrinsic (key : String) (value : Json) : Option (List Reference) :=
  if key = "Ref" then
    match value with
    | .str target => some (if isPseudoParameter target then [] else [⟨target, none⟩])
    | _ => none
  else if key = "Fn::GetAtt" then some (ofGetAtt value)
  else if key = "Fn::Sub" then
    match value with
    | .str text => some (inSubstitution text.toList)
    | _ => none
  else none

end Reference

namespace Json

mutual

def references : Json → List Reference
  | .obj [(key, value)] =>
    match Reference.ofIntrinsic key value with
    | some found => found
    | none => references value
  | .obj fields => referencesInFields fields
  | .arr items => referencesInItems items
  | _ => []

def referencesInFields : List (String × Json) → List Reference
  | [] => []
  | (_, value) :: rest => references value ++ referencesInFields rest

def referencesInItems : List Json → List Reference
  | [] => []
  | item :: rest => references item ++ referencesInItems rest

end

end Json

end StackSynth
