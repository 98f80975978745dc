import StackSynth.Asset.Image
import StackSynth.Compute.LogGroup

/-!
Containers of a task. A container is an entry in a list of its task definition, known by its place
there, so it can be given variables and ports after it was added.
-/
namespace StackSynth

inductive ContainerImage
  | asset (image : ImageAsset)
  | registry (name : String)
  deriving Inhabited

def ContainerImage.name : ContainerImage → Value
  | asset image => image.uri
  | registry name => .str name

inductive Transport
  | tcp
  | udp
  deriving DecidableEq, Repr, Inhabited

def Transport.name : Transport → String
  | tcp => "tcp"
  | udp => "udp"

structure PortMapping where
  port : UInt16
  transport : Transport := .tcp
  deriving DecidableEq, Repr, Inhabited

def PortMapping.toJson (m : PortMapping) : Json :=
  .obj [("ContainerPort", .nat m.port.toUInt64), ("Protocol", .str m.transport.name)]

structure LogSettings where
  streamName : String
  retention : Retention
  deriving DecidableEq, Repr, Inhabited

structure ContainerSettings where
  image : ContainerImage
  logging : Option LogSettings := none
  ports : List PortMapping := []
  environment : OrderedMap Value := ∅
  essential : Bool := true
  deriving Inhabited

structure Container where
  taskDefinitionId : String
  name : String
  /-- The place in the list of containers. -/
  index : Nat
  deriving DecidableEq, Repr, Inhabited

namespace Container

def listKey : String := "ContainerDefinitions"

/-- The containers that a task definition lists. -/
def listed (r : Resource) : List Json := ((r.property? listKey).bind Json.asArr?).getD []

/-- The entry of the container in its task definition. -/
def entry? (c : Container) (s : Stack) : Option Json :=
  (s.resource? c.taskDefinitionId).bind fun r => (listed r)[c.index]?

def environmentNames (c : Container) (s : Stack) : List String :=
  ((((c.entry? s).bind (·.field? "Environment")).bind Json.asArr?).getD []).filterMap fun item =>
    (item.field? "Name").bind Json.asStr?

/-- The first port that the container listens on. -/
def port? (c : Container) (s : Stack) : Option UInt16 := do
  let mappings ← (← (← c.entry? s).field? "PortMappings").asArr?
  let n ← (← (← mappings.head?).field? "ContainerPort").asInt?
  if 0 ≤ n ∧ n < 65536 then some (UInt16.ofNat n.toNat) else none

/-- Appends to a list in the entry; a list that is absent is empty, anything else stays. -/
def appendIn (key : String) (items : List Json) (fields : Fields) : Fields :=
  match Fields.get? key fields with
  | none => Fields.insert key (.arr items) fields
  | some (.arr present) => Fields.insert key (.arr (present ++ items)) fields
  | some _ => fields

/-- Changes the entry of the container, which has to be an object in its place. -/
def editEntry (c : Container) (f : Fields → Fields) : Declaring Unit := do
  match (← get).resource? c.taskDefinitionId with
  | none => throw (.resourceNotFound c.taskDefinitionId)
  | some r =>
    match (listed r)[c.index]? with
    | some (.obj fields) =>
      Stack.edit c.taskDefinitionId fun r =>
        r.withProperty listKey (.arr ((listed r).set c.index (.obj (f fields))))
    | _ => throw (.internal
        s!"container '{c.name}' missing from task definition '{c.taskDefinitionId}'")

/-- Adds a variable under a name that is not set yet. -/
def addEnvironment (c : Container) (name : String) (value : Value) : Declaring Unit := do
  if name.isEmpty then
    throw (.invalidProps c.name "environment variable name is empty")
  if (c.environmentNames (← get)).contains name then
    throw (.invalidProps c.name s!"environment variable '{name}' is already set")
  c.editEntry (appendIn "Environment" [.obj [("Name", .str name), ("Value", value.toJson)]])

def addPorts (c : Container) (ports : List PortMapping) : Declaring Unit :=
  c.editEntry (appendIn "PortMappings" (ports.map PortMapping.toJson))

end Container

end StackSynth
