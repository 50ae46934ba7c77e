import NodeVariables.Graph.Basic

namespace NodeVariables.Graph

/-- Shows a type on an output; whether that changed the type. A missing output is left alone. -/
def display (palette : Palette) (port : Port) (type : TypeName) (g : Graph) : Bool × Graph :=
  match g.output? port with
  | none => (false, g)
  | some slot =>
    let shown := g.modifyOutput port (Slot.display palette type)
    if slot.type = type then (false, shown) else (true, shown.requestRedraw port.node)

theorem output?_display (palette : Palette) (port : Port) (type : TypeName) (g : Graph)
    (q : Port) :
    (g.display palette port type).2.output? q =
      if q = port then (g.output? q).map (Slot.display palette type) else g.output? q := by
  unfold display
  split
  · next h => split <;> simp_all
  · split <;> simp [output?_modifyOutput]

/-- A change of the type asks for a redraw, and nothing else does. -/
theorem redraws_display (palette : Palette) (port : Port) (type : TypeName) (g : Graph) :
    (g.display palette port type).2.redraws =
      g.redraws ++ if (g.display palette port type).1 then [port.node] else [] := by
  unfold display
  split
  · simp
  · split <;> simp [requestRedraw, modifyOutput, modifyNode]

/-- Shows types on outputs one after another; the number of changes. -/
def displayAll (palette : Palette) (types : List (Port × TypeName)) (g : Graph) : Nat × Graph :=
  match types with
  | [] => (0, g)
  | (port, type) :: rest =>
    let (changed, g) := g.display palette port type
    let (changes, g) := g.displayAll palette rest
    (changed.toNat + changes, g)

def valuePort (id : NodeId) : Port := ⟨id, Node.valueSlot⟩

end NodeVariables.Graph
