import StackSynth.Graph.Basic

/-!
Dependency graphs as drawings in the DOT language.
-/
namespace StackSynth

def DependencyKind.dotStyle : DependencyKind → String
  | .explicit => "bold"
  | .reference => "solid"

namespace DependencyGraph

def dotNode (n : ResourceNode) : String :=
  "  \"" ++ n.logicalId ++ "\" [label=\"" ++ n.logicalId ++ "\\n" ++ n.type ++ "\"];\n"

def dotEdge (e : Dependency) : String :=
  "  \"" ++ e.source ++ "\" -> \"" ++ e.target ++ "\" [style=" ++ e.kind.dotStyle
    ++ "];\n"

/-- Nodes in the order of their latest addition, then edges in theirs. -/
def dot (g : DependencyGraph) : String :=
  "digraph resources \x7b\n  rankdir=LR;\n  node [shape=box];\n\n"
    ++ String.join (g.bySequence.map dotNode) ++ "\n"
    ++ String.join (g.edges.map dotEdge) ++ "\x7d\n"

end DependencyGraph

end StackSynth
