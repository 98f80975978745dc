import StackSynth.Failure
import StackSynth.Json.Tree
import StackSynth.Template.Basic

/-!
Reading templates from JSON text. A record is read from an object, whose unknown fields are skipped
and whose known fields may not be repeated, or from a list of its fields in order. Values may be
nested `JsonTree.depthLimit` levels deep, counted from the top of the document.
-/
namespace StackSynth

namespace JsonTree

/-- The known fields of a record, in their order; none where one is absent. -/
abbrev RecordSource := List (Option JsonTree)

/-- Puts `tree` in the place of the field called `key`; refuses a field that is there already. -/
def place (key : String) (tree : JsonTree) :
    List String → RecordSource → Option RecordSource
  | name :: names, slot :: slots =>
    if name = key then
      match slot with
      | none => some (some tree :: slots)
      | some _ => none
    else (place key tree names slots).map (slot :: ·)
  | _, slots => some slots

def placeAll (names : List String) : RecordSource → List (Option String × JsonTree) →
    Option RecordSource
  | slots, [] => some slots
  | slots, (key, tree) :: rest => do
    let slots ← place (← key) tree names slots
    placeAll names slots rest

/-- Splits a record into its fields. -/
def record (names : List String) : JsonTree → Option RecordSource
  | obj fields => placeAll names (names.map fun _ => none) fields
  | arr items =>
    if items.length ≤ names.length then
      some (items.map some ++ (names.drop items.length).map fun _ => none)
    else none
  | _ => none

variable {α : Type}

/-- One level deeper, if the limit allows it. -/
def deeper : Nat → Option Nat
  | 0 => none
  | depth + 1 => some depth

def required (read : JsonTree → Option α) : Option JsonTree → Option α
  | some tree => read tree
  | none => none

/-- An absent field and an explicit null both mean that there is no value. -/
def optional (read : JsonTree → Option α) : Option JsonTree → Option (Option α)
  | none | some null => some none
  | some tree => (read tree).map some

def orElse (fallback : α) (read : JsonTree → Option α) : Option JsonTree → Option α
  | none => some fallback
  | some tree => read tree

def readText : JsonTree → Option String
  | str s => s
  | _ => none

def readTexts : List JsonTree → Option (List String)
  | [] => some []
  | item :: rest => do return (← readText item) :: (← readTexts rest)

def readTextList (depth : Nat) : JsonTree → Option (List String)
  | arr items => do
    let _ ← deeper depth
    readTexts items
  | _ => none

def readEntries (read : JsonTree → Option α) :
    OrderedMap α → List (Option String × JsonTree) → Option (OrderedMap α)
  | done, [] => some done
  | done, (key, tree) :: rest => do
    let key ← key
    let value ← read tree
    readEntries read (done.insert key value) rest

/-- An object whose fields are read alike; a repeated one keeps its first place and last value. -/
def readMap (depth : Nat) (read : Nat → JsonTree → Option α) : JsonTree → Option (OrderedMap α)
  | obj fields => do
    let depth ← deeper depth
    readEntries (read depth) ∅ fields
  | _ => none

def readProperties (depth : Nat) : JsonTree → Option Fields
  | obj fields => do
    let depth ← deeper depth
    toJsonFields? depth [] fields
  | _ => none

/-- A policy is its name, or an object with the name as its only field and null as its value. -/
def readPolicy (depth : Nat) : JsonTree → Option DeletionPolicy
  | str s => s.bind DeletionPolicy.ofName?
  | obj [(key, null)] => do
    let _ ← deeper depth
    DeletionPolicy.ofName? (← key)
  | _ => none

def readParameter (depth : Nat) (tree : JsonTree) : Option Parameter := do
  let _ ← deeper depth
  match ← record ["Type", "Default", "Description"] tree with
  | [type, default, description] =>
    return {
      type := ← required readText type
      default := ← optional readText default
      description := ← optional readText description }
  | _ => none

def readExport (depth : Nat) (tree : JsonTree) : Option Json := do
  let depth ← deeper depth
  match ← record ["Name"] tree with
  | [name] => required (toJson? depth) name
  | _ => none

def readOutput (depth : Nat) (tree : JsonTree) : Option Output := do
  let depth ← deeper depth
  match ← record ["Value", "Description", "Export"] tree with
  | [value, description, exported] =>
    return {
      value := ← required (toJson? depth) value
      description := ← optional readText description
      exportName := ← optional (readExport depth) exported }
  | _ => none

def readResource (depth : Nat) (tree : JsonTree) : Option Resource := do
  let depth ← deeper depth
  let names := ["Type", "Properties", "DependsOn", "DeletionPolicy", "UpdateReplacePolicy",
    "Metadata"]
  match ← record names tree with
  | [type, properties, dependsOn, deletion, replacement, metadata] =>
    return {
      type := ← required readText type
      properties := ← orElse [] (readProperties depth) properties
      dependsOn := ← orElse [] (readTextList depth) dependsOn
      deletionPolicy := ← optional (readPolicy depth) deletion
      updateReplacePolicy := ← optional (readPolicy depth) replacement
      metadata := ← optional (toJson? depth) metadata }
  | _ => none

def readTemplate (depth : Nat) (tree : JsonTree) : Option Template := do
  let depth ← deeper depth
  let names := ["AWSTemplateFormatVersion", "Description", "Parameters", "Resources", "Outputs",
    "Rules"]
  match ← record names tree with
  | [version, description, parameters, resources, outputs, rules] =>
    return {
      formatVersion := ← required readText version
      description := ← optional readText description
      parameters := ← orElse ∅ (readMap depth readParameter) parameters
      resources := ← required (readMap depth readResource) resources
      outputs := ← orElse ∅ (readMap depth readOutput) outputs
      rules := ← orElse ∅ (readMap depth toJson?) rules }
  | _ => none

end JsonTree

/-- Reads a template document. -/
def Template.parse (text : String) : Outcome Template :=
  match (JsonTree.ofText? text).bind (JsonTree.readTemplate JsonTree.depthLimit) with
  | some template => .ok template
  | none => .error .json

end StackSynth
