/-
# What a node depends on

The ancestors of a node are the other nodes from which data flows to it in
one or more steps; the upstream part of a graph holds exactly these nodes
and the edges between them.  Cycles and dangling edges do no harm.
-/
import PipelineScript.Graph.Basic
import PipelineScript.Graph.Reach

namespace PipelineScript.Graph

/-- The edges against the flow of data, as pairs of ids. -/
def backwardArcs (g : Graph) : List (String × String) :=
  g.edges.map fun e => (e.target, e.source)

/-- The ids of the ancestors in creation order; none if there is no such
node. -/
def ancestors? (g : Graph) (id : String) : Option (List String) :=
  if g.contains id then
    let above := reached g.backwardArcs id
    some (g.ids.filter fun other => above.contains other)
  else none

/-- The part of the graph that runs up to a node, the node left out. -/
def upstream? (g : Graph) (id : String) : Option Graph :=
  (g.ancestors? id).map fun keep =>
    { nodes := g.nodes.filter fun n => keep.contains n.id
      edges := g.edges.filter fun e => keep.contains e.source && keep.contains e.target }

end PipelineScript.Graph
