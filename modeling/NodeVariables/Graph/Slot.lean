import NodeVariables.Color
import NodeVariables.Palette
import NodeVariables.TypeName

namespace NodeVariables

abbrev NodeId := UInt64

abbrev LinkId := UInt64

/-- The place of a slot among the inputs or the outputs of its node. -/
abbrev SlotIndex := UInt64

inductive Side where
  | input
  | output
deriving DecidableEq, Repr

/-- An input holds at most one link, in `link`; an output holds any number, in `links`. -/
structure Slot where
  index : SlotIndex
  name : String
  label : String
  type : TypeName
  side : Side
  link : Option LinkId := none
  links : List LinkId := []
  colorOn : Option Color := none
  colorOff : Option Color := none
deriving DecidableEq, Repr

namespace Slot

def new (index : SlotIndex) (name : String) (type : TypeName) (side : Side) : Slot where
  index := index
  name := name
  label := name
  type := type
  side := side

def isConnected (s : Slot) : Bool := s.link.isSome || !s.links.isEmpty

/-- The slot with a type and what goes with it: the label and both colors. -/
def display (palette : Palette) (type : TypeName) (s : Slot) : Slot :=
  { s with
    label := type.label
    type := type
    colorOn := some (palette.color type)
    colorOff := some (palette.color type) }

def addLink (id : LinkId) (s : Slot) : Slot := { s with links := s.links ++ [id] }

def dropLink (id : LinkId) (s : Slot) : Slot := { s with links := s.links.filter (· ≠ id) }

def setLink (link : Option LinkId) (s : Slot) : Slot := { s with link := link }

/-- An input without a link, if it holds that one. -/
def unlink (id : LinkId) (s : Slot) : Slot :=
  if s.link = some id then s.setLink none else s

end Slot

end NodeVariables
