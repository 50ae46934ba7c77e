import NodeVariables.Variable.Cache
import NodeVariables.Variable.Display

namespace NodeVariables

structure Binding where
  node : NodeId
  name : String
  type : TypeName
deriving DecidableEq, Repr

structure PassReport where
  setNodes : Nat
  getNodes : Nat
  slotsChanged : Nat
deriving DecidableEq, Repr

/-- Adds a binding to the types by name: the first type of a name stays unless it is any type and
the added one is concrete. -/
def addBinding (types : Table String TypeName) (b : Binding) : Table String TypeName :=
  match types.get? b.name with
  | none => types.insert b.name b.type
  | some type =>
    if type.isWildcard && b.type.isConcrete then types.insert b.name b.type else types

def typesByName (bs : List Binding) : Table String TypeName := bs.foldl addBinding .empty

namespace Graph

/-- The Set nodes with a variable, in the order of their keys. -/
def bindings (g : Graph) : List Binding :=
  (g.nodes.values.filter (·.isSet)).filterMap fun n =>
    n.variableName?.map fun name => ⟨n.id, name, g.sourceType n⟩

/-- The own ids and the variables of the Get nodes that have one. -/
def readers (g : Graph) : List (NodeId × String) :=
  (g.nodes.values.filter (·.isGet)).filterMap fun n => n.variableName?.map fun name => (n.id, name)

/-- Shows a type on all Get nodes of a variable; the number of changes. -/
def propagate (palette : Palette) (name : String) (type : TypeName) (g : Graph) : Nat × Graph :=
  g.displayAll palette ((g.getNodeIds name).map fun id => (valuePort id, type))

/-- The full pass. The types of all Set nodes are recorded before any Get node is shown one, so that
no Get node shows a type older than the pass. -/
def pass (palette : Palette) (cache : Cache) (g : Graph) : PassReport × Cache × Graph :=
  let bound := g.bindings
  let cache := cache.setAll (typesByName bound)
  let (setChanges, g) := g.displayAll palette (bound.map fun b => (valuePort b.node, b.type))
  let readers := g.readers
  let (getChanges, g) := g.displayAll palette
    (readers.map fun r => (valuePort r.1, (cache.get? r.2).getD .wildcard))
  (⟨bound.length, readers.length, setChanges + getChanges⟩, cache, g)

end Graph

end NodeVariables
