import StackSynth.Asset.Source
import StackSynth.LogicalId
import StackSynth.Environment
import StackSynth.OrderedMap
import StackSynth.Permissions.Grant
import StackSynth.Template.Basic
import StackSynth.Template.Value

/-!
Stacks while they are declared. Constructs add resources under paths of their own; what a resource
waits for may be said before the resources that it waits for are all there.
-/
namespace StackSynth

/-- Anything that stands for resources of a stack: the path they are under, and the main one. -/
structure Construct where
  path : List String
  logicalId : String
  deriving DecidableEq, Repr, Inhabited

structure DeclaredResource where
  path : List String
  resource : Resource
  deriving Repr, Inhabited

/-- A resource waits for every other one whose path starts with `path`. -/
structure Wait where
  dependent : String
  path : List String
  deriving DecidableEq, Repr, Inhabited

structure Stack where
  name : String
  environment : Environment
  description : Option String := none
  declared : OrderedMap DeclaredResource := ∅
  waits : List Wait := []
  grants : List Grant := []
  assets : List ImageSource := []
  outputs : OrderedMap Output := ∅
  deriving Inhabited

namespace Stack

/-- Letters, digits and hyphens after a letter, up to one hundred and twenty-eight. -/
def isName (name : String) : Bool :=
  decide (Text.byteLength name ≤ 128)
    && (name.toList.head?.map Text.isAsciiLetter).getD false
    && name.toList.all fun c => Text.isAsciiAlphanumeric c || c == '-'

def make (name : String) (environment : Environment) : Outcome Stack :=
  if isName name then .ok { name, environment }
  else .error (.invalidConfig "stack.name" s!"'{name}' is not a valid stack name")

def resources (s : Stack) : OrderedMap Resource := s.declared.mapValues fun _ d => d.resource
def paths (s : Stack) : OrderedMap (List String) := s.declared.mapValues fun _ d => d.path

def contains (s : Stack) (id : String) : Bool := s.declared.contains id
def resource? (s : Stack) (id : String) : Option Resource := (s.declared.get? id).map (·.resource)
def path? (s : Stack) (id : String) : Option (List String) := (s.declared.get? id).map (·.path)
def resourceCount (s : Stack) : Nat := s.declared.size

def grantsFor (s : Stack) (grantee : String) : List Grant :=
  s.grants.filter (·.grantee == grantee)

/-- Whether an id is taken by a resource or an output. -/
def isTaken (s : Stack) (id : String) : Bool := s.contains id || s.outputs.contains id

def insert (s : Stack) (id : String) (path : List String) (r : Resource) : Stack :=
  { s with declared := s.declared.insert id ⟨path, r⟩ }

def modify (s : Stack) (id : String) (f : Resource → Resource) : Stack :=
  { s with declared := s.declared.modify id fun d => { d with resource := f d.resource } }

end Stack

/-- A step of a declaration. A step that fails leaves the stack as it has got it so far. -/
abbrev Declaring := ExceptT Failure (StateM Stack)

namespace Stack

variable {α : Type}

def lift (o : Outcome α) : Declaring α := ExceptT.mk (pure o)

/-- Runs a declaration on a stack: its outcome, and the stack it leaves behind. -/
def run (s : Stack) (action : Declaring α) : Outcome α × Stack := StateT.run (ExceptT.run action) s

def setDescription (text : String) : Declaring Unit :=
  modifyGet fun s => ((), { s with description := some text })

/-- Declares a resource under a path and gives its logical id, which has to be free. -/
def declare (path : List String) (r : Resource) : Declaring String := do
  let id ← lift (LogicalId.ofPath path)
  if (← get).isTaken id then throw (.duplicateLogicalId id)
  set ((← get).insert id path r)
  return id

/-- Changes a resource that has to be there. -/
def edit (id : String) (f : Resource → Resource) : Declaring Unit := do
  if (← get).contains id then set ((← get).modify id f)
  else throw (.resourceNotFound id)

def pushProperty (id key : String) (value : Json) : Declaring Unit :=
  edit id (·.pushProperty key value)

def setProperty (id key : String) (value : Json) : Declaring Unit :=
  edit id (·.withProperty key value)

def dependOn (id target : String) : Declaring Unit := edit id (·.addDependency target)

/-- Lets a resource wait for all that is declared under a path, now or later. -/
def waitForPath (dependent : String) (path : List String) : Declaring Unit :=
  modifyGet fun s =>
    let wait : Wait := ⟨dependent, path⟩
    ((), if s.waits.contains wait then s else { s with waits := s.waits ++ [wait] })

def waitFor (dependent dependency : Construct) : Declaring Unit :=
  waitForPath dependent.logicalId dependency.path

/-- Puts a grant on record and tells whether it is new. -/
def recordGrant (g : Grant) : Declaring Bool :=
  modifyGet fun s =>
    if s.grants.contains g then (false, s) else (true, { s with grants := s.grants ++ [g] })

/-- Of several images with one hash the first stays. -/
def addAsset (source : ImageSource) : Declaring Unit :=
  modifyGet fun s =>
    ((), if s.assets.any (·.hash == source.hash) then s
      else { s with assets := s.assets ++ [source] })

def addOutput (id : String) (value : Value) (description : Option String) : Declaring Unit := do
  if (← get).isTaken id then throw (.duplicateLogicalId id)
  modifyGet fun s =>
    ((), { s with outputs := s.outputs.insert id ⟨value.toJson, description, none⟩ })

end Stack

end StackSynth
