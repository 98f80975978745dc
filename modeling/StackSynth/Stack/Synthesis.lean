import StackSynth.Bootstrap
import StackSynth.Graph.Search
import StackSynth.Stack.Basic

/-!
Synthesis turns a stack into a template. The waits on paths become dependencies on the resources
that are there in the end; all references have to lead somewhere, and none may lead back.
-/
namespace StackSynth.Stack

/-- The ids of the other resources under the path that is waited for. -/
def waitedFor (s : Stack) (w : Wait) : List String :=
  (s.declared.entries.filter fun entry =>
    entry.1 != w.dependent && w.path.isPrefixOf entry.2.path).map (·.1)

/-- Spells out one wait as dependencies of the resource that waits. -/
def expandWait (s : Stack) (resources : OrderedMap Resource) (w : Wait) :
    Outcome (OrderedMap Resource) :=
  let targets := s.waitedFor w
  if targets.isEmpty then .error (.resourceNotFound (Text.join "/" w.path))
  else if !resources.contains w.dependent then .error (.resourceNotFound w.dependent)
  else .ok (resources.modify w.dependent fun r => targets.foldl Resource.addDependency r)

/-- The resources with all that they wait for. -/
def expanded (s : Stack) : Outcome (OrderedMap Resource) := s.waits.foldlM s.expandWait s.resources

/-- What a resource depends on by its own word, then by its references. -/
def dependenciesOf (id : String) (r : Resource) : List Dependency :=
  (r.dependsOn.map fun source => ⟨source, id, .explicit, none⟩)
    ++ (r.references.filter fun ref => !Bootstrap.parameters.contains ref.target).map
      fun ref => ⟨ref.target, id, .reference, ref.attr⟩

def graphOf (resources : OrderedMap Resource) : Outcome DependencyGraph :=
  let nodes := resources.entries.foldl (fun g entry => g.addNode entry.1 entry.2.type)
    DependencyGraph.empty
  (resources.entries.flatMap fun entry => dependenciesOf entry.1 entry.2).foldlM
    DependencyGraph.addDependency nodes

def dependencyGraph (s : Stack) : Outcome DependencyGraph := do graphOf (← s.expanded)

def deployOrder (s : Stack) : Outcome (List String) := do (← s.dependencyGraph).deployOrder

/-- The first reference of an output, among several outputs, that leads to no resource. -/
def danglingOutput? (resources : OrderedMap Resource) (outputs : OrderedMap Output) :
    Option (String × String) :=
  outputs.entries.findSome? fun entry =>
    (entry.2.value.references.find? fun ref => !resources.contains ref.target).map fun ref =>
      (entry.1, ref.target)

def synthesize (s : Stack) : Outcome Template := do
  let resources ← s.expanded
  let graph ← graphOf resources
  if graph.hasCycles then throw (.dependencyCycle graph.describeCycles)
  match danglingOutput? resources s.outputs with
  | some (source, target) => throw (.danglingReference source target)
  | none => return {
      description := s.description
      parameters := Bootstrap.parameters
      resources
      outputs := s.outputs
      rules := Bootstrap.rules }

end StackSynth.Stack
