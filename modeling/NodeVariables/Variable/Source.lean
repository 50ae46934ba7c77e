import NodeVariables.Graph.Basic
/-!
The type of a variable as the graph defines it. A Set node has the first concrete type among the
outputs that feed it; of several Set nodes with one name the first in the order of their keys that
has a concrete type decides.
-/
namespace NodeVariables.Graph

def feed? (g : Graph) (input : Slot) : Option TypeName := do
  let id ← input.link
  let link ← g.link? id
  let slot ← g.output? link.origin
  return slot.type

/-- The type that feeds a Set node; the trigger input feeds nothing. -/
def sourceType (g : Graph) (n : Node) : TypeName :=
  (firstConcrete? (n.valueInputs.filterMap g.feed?)).getD .wildcard

/-- The type that feeds the node with an id; any type if there is no such node. -/
def sourceTypeAt (g : Graph) (id : NodeId) : TypeName :=
  match g.node? id with
  | some n => g.sourceType n
  | none => .wildcard

def setNodes (g : Graph) (name : String) : List Node := g.nodes.values.filter (·.isSetOf name)

def getNodeIds (g : Graph) (name : String) : List NodeId :=
  (g.nodes.entries.filter (·.2.isGetOf name)).map (·.1)

def binds (g : Graph) (name : String) : Bool := !(g.setNodes name).isEmpty

/-- The Set node that defines a variable: the first with a concrete type, or else the first. -/
def definingNode? (g : Graph) (name : String) : Option Node :=
  ((g.setNodes name).find? fun n => (g.sourceType n).isConcrete).or (g.setNodes name).head?

/-- The type of a variable over its Set nodes; none if it has no Set node. -/
def variableType? (g : Graph) (name : String) : Option TypeName :=
  if name ≠ "" ∧ g.binds name then
    some ((firstConcrete? ((g.setNodes name).map g.sourceType)).getD .wildcard)
  else none

end NodeVariables.Graph
