import NodeVariables.Graph.Basic
import NodeVariables.Message
import NodeVariables.Timer
import NodeVariables.Variable.Pass

namespace NodeVariables

inductive Event where
  | nodeCreated (node : NodeId)
  /-- A node came from a saved graph. -/
  | nodeLoaded (node : NodeId)
  /-- A link was attached to a slot or detached from it. -/
  | connectionsChanged (node : NodeId) (side : Side) (slot : SlotIndex) (connected : Bool)
  /-- The variable of a node got another name. -/
  | renamed (node : NodeId) (previous : String)
  /-- A node was removed; it is given as it was. -/
  | nodeRemoved (node : Node)
  | announced (announcement : Announcement)
  /-- The graph was executed. -/
  | executed
deriving DecidableEq, Repr

structure Session where
  settings : Settings
  palette : Palette
  cache : Cache := .empty
  timer : Timer

namespace Session

def new (settings : Settings) : Except Failure Session := do
  let palette ← settings.palette
  return { settings, palette, timer := .ofSettings settings }

def standard : Session where
  settings := .standard
  palette := .builtin
  timer := .ofSettings .standard

instance : Inhabited Session := ⟨standard⟩

def start (s : Session) (now : Instant) : Session := { s with timer := s.timer.start now }

/-- Forgets all recorded types and drops the sweeps that are waiting. -/
def reset (s : Session) : Session := { s with cache := .empty, timer := s.timer.stop }

def pass (s : Session) (g : Graph) : PassReport × Session × Graph :=
  let (report, cache, g) := g.pass s.palette s.cache
  (report, { s with cache }, g)

def sweep (s : Session) (g : Graph) : Session × Graph := (s.pass g).2

def sweeps : Nat → Session → Graph → Session × Graph
  | 0, s, g => (s, g)
  | n + 1, s, g =>
    let (s, g) := s.sweep g
    sweeps n s g

/-- Runs the sweeps that are due; their number. -/
def poll (s : Session) (g : Graph) (now : Instant) : Nat × Session × Graph :=
  let (reasons, timer) := s.timer.due now
  (reasons.length, sweeps reasons.length { s with timer } g)

def variableType (s : Session) (g : Graph) (name : String) : TypeName × Session :=
  let (type, cache) := s.cache.lookup g name
  (type, { s with cache })

def propagate (s : Session) (g : Graph) (name : String) (type : TypeName) : Nat × Graph :=
  g.propagate s.palette name type

def display (s : Session) (g : Graph) (node : NodeId) (type : TypeName) : Graph :=
  (g.display s.palette (Graph.valuePort node) type).2

/-- Records a type for a variable and shows it on its Get nodes. -/
def record (s : Session) (g : Graph) (name : String) (type : TypeName) : Session × Graph :=
  ({ s with cache := s.cache.set name type }, (s.propagate g name type).2)

/-- Shows the type that feeds a Set node, then brings its variable up to date. Another Set node of
the variable may decide its type. -/
def updateSet (s : Session) (g : Graph) (id : NodeId) : Session × Graph :=
  match g.node? id with
  | none => (s, g)
  | some node =>
    let own := g.sourceType node
    let g := s.display g id own
    match node.variableName? with
    | none => (s, g)
    | some name => s.record g name ((g.variableType? name).getD own)

def updateGet (s : Session) (g : Graph) (id : NodeId) : Session × Graph :=
  match (g.node? id).bind Node.variableName? with
  | none => (s, s.display g id .wildcard)
  | some name =>
    let (type, s) := s.variableType g name
    (s, s.display g id type)

/-- Forgets a variable that no Set node defines any more, if the settings ask for it. -/
def purge (s : Session) (g : Graph) (name : String) : Session × Graph :=
  if s.settings.purgeOnSetRemoved && name ≠ "" && !g.binds name && s.cache.contains name then
    ({ s with cache := s.cache.forget name }, (s.propagate g name .wildcard).2)
  else (s, g)

/-- Whether a slot is an input that can feed a value to a Set node. -/
def feedsSet (g : Graph) (node : NodeId) (side : Side) (slot : SlotIndex) : Bool :=
  side = .input &&
    match g.node? node with
    | some n => n.isSet && ((n.input? slot).any (·.name ≠ Node.triggerInput))
    | none => false

def handleAdded (s : Session) (g : Graph) (node : NodeId) (now : Instant) : Session :=
  if (g.node? node).any Node.isGlobal then
    { s with timer := s.timer.deferNodeInit now node }
  else s

def handleRenamed (s : Session) (g : Graph) (node : NodeId) (previous : String) :
    Session × Graph :=
  match g.node? node with
  | none => (s, g)
  | some n =>
    if n.isSet then
      let (s, g) := s.updateSet g node
      s.purge g previous
    else if n.isGet then s.updateGet g node
    else (s, g)

def handleRemoved (s : Session) (g : Graph) (node : Node) : Session × Graph :=
  match node.variableName? with
  | some name => if node.isSet then s.purge g name else (s, g)
  | none => (s, g)

def handleAnnounced (s : Session) (g : Graph) (a : Announcement) : Session × Graph :=
  if a.variableName = "" then (s, g) else s.record g a.variableName a.type

def handle (s : Session) (g : Graph) (event : Event) (now : Instant) : Session × Graph :=
  match event with
  | .nodeCreated node => (s.handleAdded g node now, g)
  | .nodeLoaded node => (s.handleAdded g node now, g)
  | .connectionsChanged node side slot _ =>
    if feedsSet g node side slot then s.updateSet g node else (s, g)
  | .renamed node previous => s.handleRenamed g node previous
  | .nodeRemoved node => s.handleRemoved g node
  | .announced a => s.handleAnnounced g a
  | .executed => s.sweep g

end Session

end NodeVariables
