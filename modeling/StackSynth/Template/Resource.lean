import StackSynth.Template.Reference

/-!
Resources of a template, as they are declared and as they are written down.
-/
namespace StackSynth

inductive DeletionPolicy
  | delete
  | retain
  | snapshot
  deriving DecidableEq, Repr, Inhabited

namespace DeletionPolicy

def name : DeletionPolicy → String
  | delete => "Delete"
  | retain => "Retain"
  | snapshot => "Snapshot"

def ofName? : String → Option DeletionPolicy
  | "Delete" => some delete
  | "Retain" => some retain
  | "Snapshot" => some snapshot
  | _ => none

end DeletionPolicy

/-- What the declaration of a construct asks for when the resource is to go. -/
inductive RemovalPolicy
  | destroy
  | retain
  | snapshot
  deriving DecidableEq, Repr, Inhabited

namespace RemovalPolicy

def deletionPolicy : RemovalPolicy → DeletionPolicy
  | destroy => .delete
  | retain => .retain
  | snapshot => .snapshot

def ofName? : String → Option RemovalPolicy
  | "destroy" => some destroy
  | "retain" => some retain
  | "snapshot" => some snapshot
  | _ => none

end RemovalPolicy

structure Resource where
  type : String
  properties : Fields := []
  dependsOn : List String := []
  deletionPolicy : Option DeletionPolicy := none
  updateReplacePolicy : Option DeletionPolicy := none
  metadata : Option Json := none
  deriving Repr, Inhabited

namespace Resource

/-- A resource whose properties are given in any order. -/
def ofType (type : String) (properties : List (String × Json)) : Resource :=
  { type, properties := Fields.ofList properties }

/-- Takes over the properties of an object; anything else changes nothing. -/
def withProperties (r : Resource) : Json → Resource
  | .obj fields => { r with properties := fields }
  | _ => r

def withProperty (r : Resource) (key : String) (value : Json) : Resource :=
  { r with properties := Fields.insert key value r.properties }

def withRemovalPolicy (r : Resource) (policy : DeletionPolicy) : Resource :=
  { r with deletionPolicy := some policy, updateReplacePolicy := some policy }

/-- A dependency is listed once, where it was first added. -/
def addDependency (r : Resource) (id : String) : Resource :=
  if r.dependsOn.contains id then r else { r with dependsOn := r.dependsOn ++ [id] }

def property? (r : Resource) (key : String) : Option Json := Fields.get? key r.properties

/-- Appends to a list property; a property that is no list is replaced by one. -/
def pushProperty (r : Resource) (key : String) (value : Json) : Resource :=
  match r.property? key with
  | some (.arr items) => r.withProperty key (.arr (items ++ [value]))
  | _ => r.withProperty key (.arr [value])

/-- The references of the properties, in the order of their keys. -/
def references (r : Resource) : List Reference := Json.referencesInFields r.properties

/-- The document of a resource, with its fields in their fixed order and empty ones left out. -/
def toJson (r : Resource) : Json :=
  .obj (
    [("Type", .str r.type)]
    ++ (if r.properties.isEmpty then [] else [("Properties", .obj r.properties)])
    ++ (if r.dependsOn.isEmpty then [] else [("DependsOn", .strs r.dependsOn)])
    ++ (match r.deletionPolicy with
      | some policy => [("DeletionPolicy", .str policy.name)]
      | none => [])
    ++ (match r.updateReplacePolicy with
      | some policy => [("UpdateReplacePolicy", .str policy.name)]
      | none => [])
    ++ (match r.metadata with
      | some value => [("Metadata", value)]
      | none => []))

end Resource

end StackSynth
