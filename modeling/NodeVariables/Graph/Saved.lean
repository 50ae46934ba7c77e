import NodeVariables.Color
import NodeVariables.Graph.Edit
import NodeVariables.Json.Reader.Record
import NodeVariables.Json.Value

namespace NodeVariables

open Json

def Side.name : Side → String
  | .input => "Input"
  | .output => "Output"

def Side.read : Reader Side :=
  readChoice [(input.name, input), (output.name, output)] "`Input` or `Output`"

def TypeName.toJson (t : TypeName) : Value := .text t.text

def TypeName.read : Reader TypeName := TypeName.mk <$> readText

namespace Color

def toJson (c : Color) : Value :=
  .list [.ofByte c.red, .ofByte c.green, .ofByte c.blue, .ofByte c.alpha]

/-- Four channels, the last of which is the alpha that dims the others. -/
def read : Reader Color := fun s =>
  match dropBlanks s with
  | '[' :: r =>
    let channels := .required "red" readByte <| .required "green" readByte <|
      .required "blue" readByte <| .required "alpha" readByte .done
    ((fun (r, g, b, a, ()) => ofStraight r g b a) <$>
      readTuple "an array of length 4" channels) r
  | r => .error (unexpected .quadruple r)

end Color

namespace Slot

def toJson (s : Slot) : Value := .object [
  ("index", .ofWord s.index),
  ("name", .text s.name),
  ("label", .text s.label),
  ("slot_type", s.type.toJson),
  ("side", .text s.side.name),
  ("link", .ofOption .ofWord s.link),
  ("links", .list (s.links.map .ofWord)),
  ("color_on", .ofOption Color.toJson s.colorOn),
  ("color_off", .ofOption Color.toJson s.colorOff)]

def read : Reader Slot :=
  readRecord "Slot"
    (.required "index" readIndex <|
      .required "name" readText <|
      .required "label" readText <|
      .required "slot_type" TypeName.read <|
      .required "side" Side.read <|
      .optional "link" (readOptional readWord) none <|
      .optional "links" (readList readWord) [] <|
      .optional "color_on" (readOptional Color.read) none <|
      .optional "color_off" (readOptional Color.read) none .done)
    fun (index, name, label, type, side, link, links, on, off, ()) =>
      ⟨index, name, label, type, side, link, links, on, off⟩

end Slot

namespace Widget

def toJson (w : Widget) : Value := .object [("name", .text w.name), ("value", .text w.value)]

def read : Reader Widget :=
  readRecord "Widget" (.required "name" readText <| .required "value" readText .done)
    fun (name, value, ()) => ⟨name, value⟩

end Widget

namespace Node

def toJson (n : Node) : Value := .object [
  ("id", .ofWord n.id),
  ("node_type", .text n.nodeType),
  ("title", .text n.title),
  ("inputs", .list (n.inputs.map Slot.toJson)),
  ("outputs", .list (n.outputs.map Slot.toJson)),
  ("widgets", .list (n.widgets.map Widget.toJson))]

def read : Reader Node :=
  readRecord "Node"
    (.required "id" readIndex <|
      .required "node_type" readText <|
      .required "title" readText <|
      .optional "inputs" (readList Slot.read) [] <|
      .optional "outputs" (readList Slot.read) [] <|
      .optional "widgets" (readList Widget.read) [] .done)
    fun (id, nodeType, title, inputs, outputs, widgets, ()) =>
      ⟨id, nodeType, title, inputs, outputs, widgets⟩

end Node

namespace Link

def toJson (l : Link) : Value := .object [
  ("id", .ofWord l.id),
  ("origin_id", .ofWord l.origin.node),
  ("origin_slot", .ofWord l.origin.slot),
  ("target_id", .ofWord l.target.node),
  ("target_slot", .ofWord l.target.slot)]

def read : Reader Link :=
  readRecord "Link"
    (.required "id" readWord <|
      .required "origin_id" readIndex <|
      .required "origin_slot" readIndex <|
      .required "target_id" readIndex <|
      .required "target_slot" readIndex .done)
    fun (id, origin, originSlot, target, targetSlot, ()) =>
      ⟨id, ⟨origin, originSlot⟩, ⟨target, targetSlot⟩⟩

end Link

def Table.toJson {ν : Type} (f : ν → Value) (t : Table UInt64 ν) : Value :=
  .object (t.entries.map fun e => (toString e.1, f e.2))

namespace Graph

def toJson (g : Graph) : Value := .object [
  ("nodes", g.nodes.toJson Node.toJson),
  ("links", g.links.toJson Link.toJson),
  ("next_node_id", .ofWord g.nextNodeId),
  ("next_link_id", .ofWord g.nextLinkId)]

def save (g : Graph) : String := g.toJson.pretty

/-- A graph as it stands in the text, before its counters are raised. -/
def read : Reader Graph :=
  readRecord "NodeGraph"
    (.required "nodes" (readTable (numericKey readIndex) Node.read) <|
      .required "links" (readTable (numericKey readWord) Link.read) <|
      .optional "next_node_id" readIndex 0 <|
      .optional "next_link_id" readWord 0 .done)
    fun (nodes, links, nextNodeId, nextLinkId, ()) => ⟨nodes, links, nextNodeId, nextLinkId, []⟩

/-- A counter that is not below the stored one and above every key; it must leave room. -/
def raise (stored : UInt64) (maxKey? : Option UInt64) (limit : Limit) : Except Failure UInt64 :=
  let floor := match maxKey? with
    | some key => key.toNat + 1
    | none => 0
  let next := max stored.toNat floor
  if next < lastId then .ok (.ofNat next) else .error (.limit limit)

def raiseCounters (g : Graph) : Except Failure Graph := do
  let nextNodeId ← raise g.nextNodeId g.nodes.maxKey? .savedNodeIds
  let nextLinkId ← raise g.nextLinkId g.links.maxKey? .savedLinkIds
  return { g with nextNodeId, nextLinkId }

def ofText (s : String) : Except Failure Graph :=
  match read.whole s with
  | .ok g => g.raiseCounters
  | .error fault => .error (.json fault)

theorem ofText_eq_ok {s : String} {g : Graph} (h : (ofText s).toOption = some g) :
    ofText s = .ok g := by
  cases hs : ofText s with
  | error failure => simp [hs, Except.toOption] at h
  | ok loaded => simpa [hs, Except.toOption] using h

def ofFile (file : File) : Except Failure Graph := do ofText (← file.text)

end Graph

end NodeVariables
