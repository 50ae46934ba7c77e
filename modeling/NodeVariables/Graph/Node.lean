import NodeVariables.Graph.Slot

namespace NodeVariables

structure Widget where
  name : String
  value : String
deriving DecidableEq, Repr

structure Node where
  id : NodeId
  nodeType : String
  title : String
  inputs : List Slot := []
  outputs : List Slot := []
  widgets : List Widget := []
deriving DecidableEq, Repr

namespace Node

def setType : String := "SetNodeGlobal"

def getType : String := "GetNodeGlobal"

def variableWidget : String := "variable_name"

/-- The input that only orders the execution and carries no value. -/
def triggerInput : String := "_trigger"

/-- The output that shows the type of the variable. -/
def valueSlot : SlotIndex := 0

def triggerSlot : SlotIndex := 1

def new (id : NodeId) (nodeType : String) : Node := ⟨id, nodeType, nodeType, [], [], []⟩

def addInput (name : String) (type : TypeName) (n : Node) : Node :=
  { n with inputs := n.inputs ++ [.new (.ofNat n.inputs.length) name type .input] }

def addOutput (name : String) (type : TypeName) (n : Node) : Node :=
  { n with outputs := n.outputs ++ [.new (.ofNat n.outputs.length) name type .output] }

def addWidget (name value : String) (n : Node) : Node :=
  { n with widgets := n.widgets ++ [⟨name, value⟩] }

def withTitle (title : String) (n : Node) : Node := { n with title := title }

def setGlobal (id : NodeId) (name : String) : Node :=
  new id setType
    |>.addInput "value" .wildcard
    |>.addOutput "value" .wildcard
    |>.addOutput "trigger" .trigger
    |>.addWidget variableWidget name
    |>.withTitle "Set Global Variable"

def getGlobal (id : NodeId) (name : String) : Node :=
  new id getType
    |>.addInput triggerInput .wildcard
    |>.addOutput "value" .wildcard
    |>.addWidget variableWidget name
    |>.withTitle "Get Global Variable"

def isSet (n : Node) : Bool := n.nodeType = setType

def isGet (n : Node) : Bool := n.nodeType = getType

def isGlobal (n : Node) : Bool := n.isSet || n.isGet

def widget? (n : Node) (name : String) : Option Widget := n.widgets.find? (·.name = name)

/-- The name of the node's variable; an empty name is none. -/
def variableName? (n : Node) : Option String :=
  ((n.widget? variableWidget).map (·.value)).filter (· ≠ "")

def isSetOf (n : Node) (name : String) : Bool := n.isSet && n.variableName? = some name

def isGetOf (n : Node) (name : String) : Bool := n.isGet && n.variableName? = some name

def input? (n : Node) (i : SlotIndex) : Option Slot := n.inputs[i.toNat]?

def output? (n : Node) (i : SlotIndex) : Option Slot := n.outputs[i.toNat]?

def modifyInput (i : SlotIndex) (f : Slot → Slot) (n : Node) : Node :=
  { n with inputs := n.inputs.modify i.toNat f }

def modifyOutput (i : SlotIndex) (f : Slot → Slot) (n : Node) : Node :=
  { n with outputs := n.outputs.modify i.toNat f }

def setFirst (name value : String) : List Widget → List Widget
  | [] => []
  | w :: ws =>
    if w.name = name then { w with value := value } :: ws else w :: setFirst name value ws

def setWidget (name value : String) (n : Node) : Node :=
  { n with widgets := setFirst name value n.widgets }

/-- The inputs that can feed a value to a Set node. -/
def valueInputs (n : Node) : List Slot := n.inputs.filter (·.name ≠ triggerInput)

section Laws

variable (n : Node) (i : SlotIndex) (f : Slot → Slot)

@[simp] theorem isSet_modifyOutput : (n.modifyOutput i f).isSet = n.isSet := rfl

@[simp] theorem isGet_modifyOutput : (n.modifyOutput i f).isGet = n.isGet := rfl

@[simp] theorem variableName?_modifyOutput :
    (n.modifyOutput i f).variableName? = n.variableName? := rfl

@[simp] theorem inputs_modifyOutput : (n.modifyOutput i f).inputs = n.inputs := rfl

@[simp] theorem outputs_modifyInput : (n.modifyInput i f).outputs = n.outputs := rfl

theorem output?_modifyOutput (j : SlotIndex) :
    (n.modifyOutput i f).output? j = if j = i then (n.output? j).map f else n.output? j := by
  simp only [output?, modifyOutput, List.getElem?_modify, UInt64.toNat_inj, eq_comm (a := i)]
  split <;> simp

theorem input?_modifyInput (j : SlotIndex) :
    (n.modifyInput i f).input? j = if j = i then (n.input? j).map f else n.input? j := by
  simp only [input?, modifyInput, List.getElem?_modify, UInt64.toNat_inj, eq_comm (a := i)]
  split <;> simp

/-- No node is both a Set and a Get node. -/
theorem isGet_eq_false_of_isSet (h : n.isSet = true) : n.isGet = false := by
  simp only [isSet, isGet, decide_eq_true_eq, decide_eq_false_iff_not] at h ⊢
  rw [h]
  decide

end Laws

end Node

end NodeVariables
