import NodeVariables.Graph.Node
/-!
A graph of nodes and the links between them. Links and slots may name nodes, slots or links that
are not there; a lookup of such a thing finds nothing.
-/
namespace NodeVariables

structure Port where
  node : NodeId
  slot : SlotIndex
deriving DecidableEq, Repr

structure Link where
  id : LinkId
  origin : Port
  target : Port
deriving DecidableEq, Repr

def Link.touches (l : Link) (node : NodeId) : Bool := l.origin.node = node || l.target.node = node

structure Graph where
  nodes : Table NodeId Node := .empty
  links : Table LinkId Link := .empty
  /-- The id of the next node that is given one. -/
  nextNodeId : NodeId := 0
  nextLinkId : LinkId := 0
  /-- The nodes whose redraw was asked for, oldest first. -/
  redraws : List NodeId := []
deriving DecidableEq

namespace Graph

instance : Inhabited Graph := ⟨{}⟩

def node? (g : Graph) (id : NodeId) : Option Node := g.nodes.get? id

def link? (g : Graph) (id : LinkId) : Option Link := g.links.get? id

def input? (g : Graph) (p : Port) : Option Slot := (g.node? p.node).bind (·.input? p.slot)

def output? (g : Graph) (p : Port) : Option Slot := (g.node? p.node).bind (·.output? p.slot)

def modifyNode (g : Graph) (id : NodeId) (f : Node → Node) : Graph :=
  { g with nodes := g.nodes.modify id f }

def modifyInput (g : Graph) (p : Port) (f : Slot → Slot) : Graph :=
  g.modifyNode p.node (Node.modifyInput p.slot f)

def modifyOutput (g : Graph) (p : Port) (f : Slot → Slot) : Graph :=
  g.modifyNode p.node (Node.modifyOutput p.slot f)

def requestRedraw (g : Graph) (id : NodeId) : Graph := { g with redraws := g.redraws ++ [id] }

def takeRedraws (g : Graph) : List NodeId × Graph := (g.redraws, { g with redraws := [] })

section Laws

variable (g : Graph)

theorem node?_modifyNode (id : NodeId) (f : Node → Node) (j : NodeId) :
    (g.modifyNode id f).node? j = if j = id then (g.node? j).map f else g.node? j :=
  Table.get?_modify ..

@[simp] theorem link?_modifyNode (id : NodeId) (f : Node → Node) (l : LinkId) :
    (g.modifyNode id f).link? l = g.link? l := rfl

@[simp] theorem link?_modifyOutput (p : Port) (f : Slot → Slot) (l : LinkId) :
    (g.modifyOutput p f).link? l = g.link? l := rfl

@[simp] theorem link?_modifyInput (p : Port) (f : Slot → Slot) (l : LinkId) :
    (g.modifyInput p f).link? l = g.link? l := rfl

@[simp] theorem node?_requestRedraw (id j : NodeId) :
    (g.requestRedraw id).node? j = g.node? j := rfl

@[simp] theorem link?_requestRedraw (id : NodeId) (l : LinkId) :
    (g.requestRedraw id).link? l = g.link? l := rfl

@[simp] theorem output?_requestRedraw (id : NodeId) (p : Port) :
    (g.requestRedraw id).output? p = g.output? p := rfl

@[simp] theorem input?_requestRedraw (id : NodeId) (p : Port) :
    (g.requestRedraw id).input? p = g.input? p := rfl

theorem output?_modifyOutput (p : Port) (f : Slot → Slot) (q : Port) :
    (g.modifyOutput p f).output? q = if q = p then (g.output? q).map f else g.output? q := by
  obtain ⟨n, i⟩ := p
  obtain ⟨m, j⟩ := q
  simp only [output?, modifyOutput, node?_modifyNode, Port.mk.injEq]
  by_cases hn : m = n
  · cases g.node? m <;> simp [hn, Node.output?_modifyOutput]
  · simp [hn]

theorem input?_modifyInput (p : Port) (f : Slot → Slot) (q : Port) :
    (g.modifyInput p f).input? q = if q = p then (g.input? q).map f else g.input? q := by
  obtain ⟨n, i⟩ := p
  obtain ⟨m, j⟩ := q
  simp only [input?, modifyInput, node?_modifyNode, Port.mk.injEq]
  by_cases hn : m = n
  · cases g.node? m <;> simp [hn, Node.input?_modifyInput]
  · simp [hn]

@[simp] theorem input?_modifyOutput (p : Port) (f : Slot → Slot) (q : Port) :
    (g.modifyOutput p f).input? q = g.input? q := by
  simp only [input?, modifyOutput, node?_modifyNode]
  split <;> cases g.node? q.node <;> rfl

@[simp] theorem output?_modifyInput (p : Port) (f : Slot → Slot) (q : Port) :
    (g.modifyInput p f).output? q = g.output? q := by
  simp only [output?, modifyInput, node?_modifyNode]
  split <;> cases g.node? q.node <;> rfl

end Laws

end Graph

end NodeVariables
