import StackSynth.Failure

/-!
Dependency graphs between resources. Every id has one node, every ordered pair of ids at most one
edge, and both are kept in the order in which they came.
-/
namespace StackSynth

structure ResourceNode where
  logicalId : String
  type : String
  /-- Counts the additions; a node that is added again takes the latest number. -/
  sequence : Nat
  deriving DecidableEq, Repr, Inhabited

inductive DependencyKind
  | explicit
  | reference
  deriving DecidableEq, Repr, Inhabited

/-- `target` waits for `source`. -/
structure Dependency where
  source : String
  target : String
  kind : DependencyKind
  /-- The attribute that a reference asks for. -/
  attr : Option String := none
  deriving DecidableEq, Repr, Inhabited

structure DependencyGraph where
  nodes : List ResourceNode := []
  edges : List Dependency := []
  additions : Nat := 0
  deriving DecidableEq, Repr, Inhabited

namespace DependencyGraph

def empty : DependencyGraph := {}

def ids (g : DependencyGraph) : List String := g.nodes.map (·.logicalId)

def node? (g : DependencyGraph) (id : String) : Option ResourceNode :=
  g.nodes.find? (·.logicalId == id)

def hasNode (g : DependencyGraph) (id : String) : Bool := (g.node? id).isSome

def hasEdge (g : DependencyGraph) (source target : String) : Bool :=
  g.edges.any fun e => e.source == source && e.target == target

/-- A node that is there already keeps its place and its edges. -/
def addNode (g : DependencyGraph) (id type : String) : DependencyGraph :=
  let node : ResourceNode := ⟨id, type, g.additions⟩
  { g with
    nodes := if g.hasNode id then g.nodes.map fun n => if n.logicalId == id then node else n
      else g.nodes ++ [node]
    additions := g.additions + 1 }

/-- Of several dependencies between the same two resources the first stays. -/
def addDependency (g : DependencyGraph) (d : Dependency) : Outcome DependencyGraph :=
  if !g.hasNode d.source then .error (.danglingReference d.target d.source)
  else if !g.hasNode d.target then .error (.resourceNotFound d.target)
  else if g.hasEdge d.source d.target then .ok g
  else .ok { g with edges := g.edges ++ [d] }

/-- The dependencies of a resource, the latest first. -/
def dependenciesOf (g : DependencyGraph) (id : String) : List Dependency :=
  (g.edges.filter (·.target == id)).reverse

/-- The ids that wait for `id`, in the order in which they came. -/
def targets (g : DependencyGraph) (id : String) : List String :=
  (g.edges.filter (·.source == id)).map (·.target)

/-- The ids that `id` waits for, in the order in which they came. -/
def sources (g : DependencyGraph) (id : String) : List String :=
  (g.edges.filter (·.target == id)).map (·.source)

/-- The nodes in the order of their latest addition. -/
def bySequence (g : DependencyGraph) : List ResourceNode :=
  g.nodes.mergeSort fun a b => decide (a.sequence ≤ b.sequence)

/-- Groups the ids by the type of their resource. -/
def idsByType (g : DependencyGraph) : List (String × List String) :=
  let nodes := g.bySequence
  (nodes.map (·.type)).eraseDups.map fun type =>
    (type, (nodes.filter (·.type == type)).map (·.logicalId))

end DependencyGraph

end StackSynth
