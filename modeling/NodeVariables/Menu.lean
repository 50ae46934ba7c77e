import NodeVariables.Session

namespace NodeVariables

inductive Purpose where
  | nodeMenu
  /-- The menu of an output from which a link is drawn. -/
  | connectionMenu (slot : SlotIndex)
  /-- The search box of an output from which a link is drawn. -/
  | searchBox (slot : SlotIndex)
deriving DecidableEq, Repr

/-- The slot that is concerned; the menu of a node concerns its value output. -/
def Purpose.slot : Purpose → SlotIndex
  | .nodeMenu => Node.valueSlot
  | .connectionMenu slot => slot
  | .searchBox slot => slot

structure Request where
  node : NodeId
  purpose : Purpose
deriving DecidableEq, Repr

structure Overrides where
  /-- The type that the search box filters on. -/
  typeFilter : Option TypeName := none
deriving DecidableEq, Repr

namespace Overrides

def none : Overrides := {}

/-- The later filter wins. -/
def merge (a b : Overrides) : Overrides := ⟨b.typeFilter.or a.typeFilter⟩

end Overrides

/-- The search box filters on the type that the slot shows. -/
def Request.overrides (r : Request) (type : TypeName) : Overrides :=
  match r.purpose with
  | .searchBox _ => ⟨some type⟩
  | _ => .none

namespace Session

/-- The type that the value output of a node is to show: of a Set node the type that feeds it, of a
Get node the current type of its variable. -/
def currentType (s : Session) (g : Graph) (node : Node) (id : NodeId) (name : String) :
    TypeName × Session :=
  if node.isSet then (g.sourceTypeAt id, s) else s.variableType g name

/-- Refreshes the value output of a Set or Get node that has a variable, when the request concerns
that output. -/
def refresh (s : Session) (g : Graph) (r : Request) : Overrides × Session × Graph :=
  match (g.node? r.node).filter Node.isGlobal with
  | none => (.none, s, g)
  | some node =>
    match node.variableName? with
    | none => (.none, s, g)
    | some name =>
      if r.purpose.slot = Node.valueSlot then
        let (type, s) := s.currentType g node r.node name
        (r.overrides type, s, s.display g r.node type)
      else (.none, s, g)

end Session

inductive Hook where
  /-- The refreshing of the session. -/
  | guard
  | custom (run : Graph → Request → Overrides × Graph)

namespace Hook

/-- Runs a hook. While the session is busy the guard does nothing. -/
def run (busy : Bool) (r : Request) (s : Session) (g : Graph) : Hook → Overrides × Session × Graph
  | .guard => if busy then (.none, s, g) else s.refresh g r
  | .custom run =>
    let (overrides, g) := run g r
    (overrides, s, g)

def runAll (busy : Bool) (r : Request) :
    List Hook → Overrides → Session → Graph → Overrides × Session × Graph
  | [], asked, s, g => (asked, s, g)
  | hook :: hooks, asked, s, g =>
    let (overrides, s, g) := hook.run busy r s g
    runAll busy r hooks (asked.merge overrides) s g

end Hook

def present {α : Type} (hooks : List Hook) (busy : Bool) (r : Request) (s : Session) (g : Graph)
    (openMenu : Overrides → Graph → α × Graph) : α × Session × Graph :=
  let (overrides, s, g) := Hook.runAll busy r hooks .none s g
  let (shown, g) := openMenu overrides g
  (shown, s, g)

end NodeVariables
