import NodeVariables.Graph.Basic
/-!
Edits of a graph: nodes and links come and go, and widgets change. A link is held in three places,
the table, its output and its input, and every edit of a link changes all three.
-/
namespace NodeVariables

/-- No counter may reach this id. -/
def lastId : Nat := UInt64.size - 1

inductive LinkRefusal where
  | toItself
  | noSource
  | noSourceSlot
  | noTarget
  | noTargetSlot
deriving DecidableEq, Repr

def LinkRefusal.message : LinkRefusal → String
  | .toItself => "Cannot connect a node to itself"
  | .noSource => "Source node does not exist"
  | .noSourceSlot => "Source slot does not exist"
  | .noTarget => "Target node does not exist"
  | .noTargetSlot => "Target slot does not exist"

namespace Graph

/-- Puts a node under an id, which it takes for its own. -/
def putNode (g : Graph) (id : NodeId) (node : Node) : Graph :=
  { g with nodes := g.nodes.insert id { node with id := id } }

def addNode (g : Graph) (node : Node) : NodeId × Graph :=
  (g.nextNodeId, { g.putNode g.nextNodeId node with nextNodeId := g.nextNodeId + 1 })

/-- Adds a node under an id of one's choice, over a node that has it. An id after which none would
be left for the next node is refused. -/
def addNodeAt (g : Graph) (id : NodeId) (node : Node) : Except Failure Graph :=
  if id.toNat + 1 < lastId then
    .ok { g.putNode id node with nextNodeId := max g.nextNodeId (id + 1) }
  else .error (.limit (.nodeId id))

/-- Takes a link out of the table and off both of its slots. -/
def removeLink (g : Graph) (id : LinkId) : Graph :=
  match g.link? id with
  | none => g
  | some link =>
    ({ g with links := g.links.erase id }.modifyOutput link.origin (Slot.dropLink id)).modifyInput
      link.target (Slot.unlink id)

/-- The own ids of the links that touch a node. -/
def linksAt (g : Graph) (node : NodeId) : List LinkId :=
  (g.links.values.filter (·.touches node)).map (·.id)

def isolate (g : Graph) (node : NodeId) : Graph := (g.linksAt node).foldl removeLink g

/-- Removes a node and its links; the node is returned as it is without them. -/
def removeNode (g : Graph) (id : NodeId) : Option Node × Graph :=
  let alone := g.isolate id
  (alone.node? id, { alone with nodes := alone.nodes.erase id })

def attach (g : Graph) (origin target : Port) : Graph :=
  let id := g.nextLinkId
  ({ g with
      links := g.links.insert id ⟨id, origin, target⟩
      nextLinkId := id + 1 }.modifyOutput origin (Slot.addLink id)).modifyInput
    target (Slot.setLink (some id))

def linkRefusal? (g : Graph) (origin target : Port) : Option LinkRefusal :=
  if origin.node = target.node then some .toItself
  else if (g.node? origin.node).isNone then some .noSource
  else if (g.output? origin).isNone then some .noSourceSlot
  else if (g.node? target.node).isNone then some .noTarget
  else if (g.input? target).isNone then some .noTargetSlot
  else none

def linkInto? (g : Graph) (target : Port) : Option LinkId := (g.input? target).bind (·.link)

def clearInput (g : Graph) (target : Port) : Graph :=
  match g.linkInto? target with
  | some id => g.removeLink id
  | none => g

/-- Links an output to an input in place of the link that the input holds. -/
def addLink (g : Graph) (origin target : Port) : Except LinkRefusal (LinkId × Graph) :=
  match g.linkRefusal? origin target with
  | some refusal => .error refusal
  | none => .ok (g.nextLinkId, (g.clearInput target).attach origin target)

def hasWidget (g : Graph) (id : NodeId) (name : String) : Bool :=
  ((g.node? id).bind (·.widget? name)).isSome

def setWidget (g : Graph) (id : NodeId) (name value : String) : Graph :=
  g.modifyNode id (Node.setWidget name value)

end Graph

end NodeVariables
