import NodeVariables.Graph.Saved
import NodeVariables.Session
import NodeVariables.Text

namespace NodeVariables.Report

structure Outcome where
  code : UInt8
  out : String
  err : String
deriving DecidableEq, Repr

/-- How a program is used, which need not have been called by a name. -/
def usage (program? : Option String) : String :=
  "Usage: " ++ program?.getD "globalvars" ++ " <graph.json> [config.json]"

def line (node : Node) (slot : Slot) : String :=
  String.intercalate " " [
    "#" ++ Text.padRight 4 (toString node.id),
    Text.padRight 14 node.nodeType,
    Text.padRight 20 (node.variableName?.getD "<unnamed>"),
    Text.padRight 14 slot.type.text,
    "label=" ++ slot.label]

/-- The lines of the Set and Get nodes that have a value output. -/
def lines (g : Graph) : List String :=
  (g.nodes.values.filter Node.isGlobal).filterMap fun n => (n.output? Node.valueSlot).map (line n)

def types (c : Cache) : String :=
  (Json.Value.object (c.types.entries.map fun e => (e.1, .text e.2.text))).pretty

def ofGraph (settings : Settings) (g : Graph) : Except Failure String := do
  let session ← Session.new settings
  let (session, g) := session.sweep g
  return String.join ((lines g ++ [types session.cache]).map (· ++ "\n"))

/-- The settings file is read before the graph. -/
def ofFiles (graph : File) (settings : Option File) : Except Failure String := do
  let settings ← match settings with
    | some file => Settings.ofFile file
    | none => .ok .standard
  ofGraph settings (← Graph.ofFile graph)

def Outcome.ofReport : Except Failure String → Outcome
  | .ok report => ⟨0, report, ""⟩
  | .error failure => ⟨1, "", "Error: " ++ failure.message ++ "\n"⟩

/-- A run on a graph file and at most one settings file. -/
def run (files : List File) (program? : Option String := none) : Outcome :=
  match files with
  | [graph] => .ofReport (ofFiles graph none)
  | [graph, settings] => .ofReport (ofFiles graph (some settings))
  | _ => ⟨2, "", usage program? ++ "\n"⟩

end NodeVariables.Report
