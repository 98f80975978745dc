import StackSynth.Graph.Basic
import StackSynth.Text.Split

/-!
Orders and searches on dependency graphs: a deployment order, the cycles, and what a resource
depends on from near to far.
-/
namespace StackSynth

/-- A depth-first search: what it has come to, and what it has done with, the latest first. -/
structure Traversal where
  seen : List String := []
  done : List String := []
  deriving DecidableEq, Repr, Inhabited

/-- Visits the given ids and all that they reach; `depth` bounds the length of a way. -/
def Traversal.visit (next : String → List String) : Nat → List String → Traversal → Traversal
  | 0, _, t => t
  | depth + 1, ids, t =>
    ids.foldl (fun t id =>
      if t.seen.contains id then t
      else
        let inner := visit next depth (next id) { t with seen := id :: t.seen }
        { inner with done := id :: inner.done }) t

/-- Appends the ids that are not there yet. -/
def appendNew (found : List String) : List String → List String
  | [] => found
  | id :: rest => if found.contains id then appendNew found rest else appendNew (found ++ [id]) rest

/-- Breadth-first: `found` grows by what follows the ids of the queue, one after the other. -/
def explore (next : String → List String) : Nat → List String → List String → List String
  | 0, _, found => found
  | _, [], found => found
  | fuel + 1, id :: queue, found =>
    let grown := appendNew found (next id)
    explore next fuel (queue ++ grown.drop found.length) grown

namespace DependencyGraph

def nodeCount (g : DependencyGraph) : Nat := g.nodes.length
def edgeCount (g : DependencyGraph) : Nat := g.edges.length

/-- All ids, each after whatever a search along older edges first comes to from it. -/
def searchOrder (g : DependencyGraph) : List String :=
  (Traversal.visit g.targets (g.nodeCount + 1) g.ids {}).done

/-- Whether each id of the list comes after all that it waits for. -/
def isOrdered (g : DependencyGraph) : List String → List String → Bool
  | _, [] => true
  | placed, id :: rest =>
    (g.sources id).all (placed.contains ·) && g.isOrdered (id :: placed) rest

/-- What can be reached from `id` by one or more steps, the near before the far. -/
def reachable (g : DependencyGraph) (next : String → List String) (id : String) : List String :=
  if g.hasNode id then explore next (g.nodeCount + 1) [id] [] else []

/-- What `id` depends on, directly or not. -/
def dependencies (g : DependencyGraph) (id : String) : List String :=
  g.reachable (fun v => (g.sources v).reverse) id

/-- What depends on `id`, directly or not. -/
def dependents (g : DependencyGraph) (id : String) : List String :=
  g.reachable (fun v => (g.targets v).reverse) id

def dependsOn (g : DependencyGraph) (dependent dependency : String) : Bool :=
  g.hasNode dependency && g.hasNode dependent && g.hasEdge dependency dependent

def sortIds (ids : List String) : List String := ids.mergeSort fun a b => !decide (b < a)

/-- The ids that `id` reaches and that reach it; empty where `id` is on no cycle. -/
def cycleThrough (g : DependencyGraph) (id : String) : List String :=
  let after := g.dependents id
  if after.contains id then g.ids.filter fun v => after.contains v && (g.dependents v).contains id
  else []

/-- Takes up the cycle of each id, unless an id before had the same. -/
def collectCycles (g : DependencyGraph) : List String → List String → List (List String)
  | _, [] => []
  | covered, id :: rest =>
    if covered.contains id then g.collectCycles covered rest
    else match g.cycleThrough id with
      | [] => g.collectCycles covered rest
      | cycle => sortIds cycle :: g.collectCycles (cycle ++ covered) rest

/-- The classes of ids that reach one another. They come in the order in which a search along newer
edges first is done with them: a class is done with when its last member is. -/
def cycles (g : DependencyGraph) : List (List String) :=
  if g.isOrdered [] g.searchOrder then []
  else
    let done := (Traversal.visit (fun v => (g.targets v).reverse) (g.nodeCount + 1) g.ids {}).done
    (g.collectCycles [] done).reverse

def hasCycles (g : DependencyGraph) : Bool := !g.cycles.isEmpty

def describeCycles (g : DependencyGraph) : String :=
  Text.join "; " (g.cycles.map (Text.join " <-> "))

/-- Every id after all that it waits for. -/
def deployOrder (g : DependencyGraph) : Outcome (List String) :=
  let order := g.searchOrder
  if g.isOrdered [] order then .ok order else .error (.dependencyCycle g.describeCycles)

end DependencyGraph

end StackSynth
