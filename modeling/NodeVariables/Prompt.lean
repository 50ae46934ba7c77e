import NodeVariables.Graph.Node
import NodeVariables.Json.Value
import NodeVariables.Table
/-!
Execution prompts. A prompt maps node ids to nodes; a Get node has no link to the Set nodes of its
variable, so nothing makes them run first. Connecting a prompt wires the trigger input of each Get
node to a Set node of its variable.
-/
namespace NodeVariables.Prompt

open Json

/-- An id as a number of 64 bits: decimal digits, which a plus sign may precede. -/
def idNumber? (id : String) : Option Nat :=
  let digits := match id.toList with
    | '+' :: r => r
    | r => r
  if digits.isEmpty || !digits.all Char.isDigit then none
  else
    let n := digits.foldl (fun n c => 10 * n + (c.toNat - '0'.toNat)) 0
    if n < UInt64.size then some n else none

/-- Numeric ids come first and compare as numbers, the others as texts. -/
def compareIds (a b : String) : Ordering :=
  match idNumber? a, idNumber? b with
  | some m, some n => compare m n
  | some _, none => .lt
  | none, some _ => .gt
  | none, none => compareOfLessAndEq a b

def classType? (node : Value) : Option String := (node.member? "class_type").bind Value.text?

def variableName? (node : Value) : Option String :=
  (((node.member? "inputs").bind (·.member? Node.variableWidget)).bind Value.text?).filter (· ≠ "")

/-- Notes a Set node of a variable in place of one with a greater id. -/
def addSetNode (ids : Table String String) (name id : String) : Table String String :=
  match ids.get? name with
  | none => ids.insert name id
  | some current => if compareIds id current = .lt then ids.insert name id else ids

/-- The lowest id of the Set nodes of each variable; of equal ids the first. -/
def setIds (members : List (String × Value)) : Table String String :=
  members.foldl (fun ids m =>
    if classType? m.2 = some Node.setType then
      match variableName? m.2 with
      | some name => addSetNode ids name m.1
      | none => ids
    else ids) .empty

def triggerOf (id : String) : Value := .list [.text id, .ofWord Node.triggerSlot]

/-- The Set node that a Get node is wired to; only a Get node with inputs is wired. -/
def partner? (ids : Table String String) (node : Value) :
    Option (List (String × Value) × String) :=
  if classType? node = some Node.getType then do
    let id ← ids.get? (← variableName? node)
    match ← node.member? "inputs" with
    | .object inputs => return (inputs, id)
    | _ => none
  else none

def connectNode? (ids : Table String String) (node : Value) : Option Value :=
  match node, partner? ids node with
  | .object members, some (inputs, id) =>
    let wired := Value.setMember Node.triggerInput (triggerOf id) inputs
    some (.object (Value.setMember "inputs" (.object wired) members))
  | _, _ => none

def connectMembers (ids : Table String String) :
    List (String × Value) → Nat × List (String × Value)
  | [] => (0, [])
  | (key, node) :: rest =>
    let (n, rest) := connectMembers ids rest
    match connectNode? ids node with
    | some wired => (n + 1, (key, wired) :: rest)
    | none => (n, (key, node) :: rest)

/-- Connects a prompt without an envelope; anything but an object is left alone. -/
def connectBare : Value → Nat × Value
  | .object members =>
    let (n, members) := connectMembers (setIds members) members
    (n, .object members)
  | v => (0, v)

/-- Connects a prompt, which may stand under the name `prompt` of an envelope. -/
def connect (request : Value) : Nat × Value :=
  match request, request.member? "prompt" with
  | .object members, some prompt =>
    let (n, prompt) := connectBare prompt
    (n, .object (Value.setMember "prompt" prompt members))
  | request, _ => connectBare request

end NodeVariables.Prompt
