import NodeVariables.Proofs.Displays
import NodeVariables.Proofs.Pass

namespace NodeVariables

namespace Graph

variable {g : Graph} {palette : Palette} {types : List (Port × TypeName)} {c : Cache}

theorem displayAll_append (palette : Palette) (first rest : List (Port × TypeName)) (g : Graph) :
    g.displayAll palette (first ++ rest) =
      ((g.displayAll palette first).1 +
          ((g.displayAll palette first).2.displayAll palette rest).1,
        ((g.displayAll palette first).2.displayAll palette rest).2) := by
  induction first generalizing g with
  | nil => simp [displayAll]
  | cons x first ih =>
    obtain ⟨p, type⟩ := x
    simp only [List.cons_append, displayAll, ih, Nat.add_assoc]

theorem keys_display (palette : Palette) (p : Port) (type : TypeName) (g : Graph) :
    (g.display palette p type).2.nodes.keys = g.nodes.keys := by
  unfold display
  split
  · rfl
  · split <;> exact Table.keys_modify ..

theorem keys_displayAll (palette : Palette) (types : List (Port × TypeName)) (g : Graph) :
    (g.displayAll palette types).2.nodes.keys = g.nodes.keys := by
  induction types generalizing g with
  | nil => rfl
  | cons x rest ih =>
    obtain ⟨p, type⟩ := x
    rw [displayAll_cons, ih, keys_display]

/-- Displays change neither the kind nor the variable of a node, nor the id that it carries. -/
theorem readers_displayAll (hv : ∀ x ∈ types, x.1.slot = Node.valueSlot) :
    (g.displayAll palette types).2.readers = g.readers := by
  let read (n : Node) : Option (NodeId × String) :=
    if n.isGet then n.variableName?.map fun name => (n.id, name) else none
  have hreaders (g : Graph) : g.readers = g.nodes.keys.filterMap fun id =>
      (g.node? id).bind read := by
    rw [readers, List.filterMap_filter]
    exact g.nodes.filterMap_values read
  have hshown (type? : Option TypeName) (n : Node) : read (n.shown palette type?) = read n := by
    cases type? <;> rfl
  rw [hreaders, hreaders, keys_displayAll]
  apply List.filterMap_congr
  intro id _
  rw [node?_displayAll hv]
  cases g.node? id with
  | none => rfl
  | some n => exact hshown _ n

/-- What a pass displays, in the order in which it does. -/
def written (c : Cache) (g : Graph) : List (Port × TypeName) :=
  g.setTypes ++ g.getTypes (g.recorded c)

theorem slot_setTypes {x : Port × TypeName} (hx : x ∈ g.setTypes) :
    x.1.slot = Node.valueSlot := by
  obtain ⟨b, -, rfl⟩ := List.mem_map.1 hx
  rfl

theorem slot_getTypes {x : Port × TypeName} (hx : x ∈ g.getTypes c) :
    x.1.slot = Node.valueSlot := by
  obtain ⟨r, -, rfl⟩ := List.mem_map.1 hx
  rfl

theorem slot_written {x : Port × TypeName} (hx : x ∈ g.written c) :
    x.1.slot = Node.valueSlot := by
  rcases List.mem_append.1 hx with hx | hx
  · exact slot_setTypes hx
  · exact slot_getTypes hx

/-- A pass counts the bindings and the readers and displays what is to be written. -/
theorem pass_eq_displayAll (palette : Palette) (c : Cache) (g : Graph) :
    g.pass palette c =
      (⟨g.bindings.length, g.readers.length, (g.displayAll palette (g.written c)).1⟩,
        g.recorded c, (g.displayAll palette (g.written c)).2) := by
  have hreaders : (g.displayAll palette g.setTypes).2.readers = g.readers :=
    readers_displayAll fun _ => slot_setTypes
  have htypes (c : Cache) : (g.displayAll palette g.setTypes).2.getTypes c = g.getTypes c := by
    rw [getTypes, hreaders, getTypes]
  rw [pass_eq, hreaders, htypes, written, displayAll_append]

theorem node?_pass (palette : Palette) (c : Cache) (g : Graph) (id : NodeId) :
    (g.pass palette c).2.2.node? id =
      (g.node? id).map (Node.shown palette (lastOn (g.written c) (valuePort id))) := by
  rw [pass_eq_displayAll]
  exact node?_displayAll (fun _ => slot_written) id

/-- A pass changes a node in its value output only, if at all. -/
theorem node?_pass_modifyOutput (palette : Palette) (c : Cache) (g : Graph) (id : NodeId) :
    ∃ f, (g.pass palette c).2.2.node? id =
      (g.node? id).map (Node.modifyOutput Node.valueSlot f) := by
  rw [node?_pass]
  cases lastOn (g.written c) (valuePort id) with
  | none =>
    have hself (n : Node) : n.modifyOutput Node.valueSlot (fun slot => slot) = n :=
      Node.modifyOutput_eq_self fun _ _ => rfl
    exact ⟨fun slot => slot, congrArg (Option.map · _) (funext fun n => (hself n).symm)⟩
  | some type => exact ⟨Slot.display palette type, rfl⟩

theorem output?_pass {id : NodeId} {n : Node} {type : TypeName} {slot : Slot}
    (hn : g.node? id = some n)
    (hl : lastOn (g.written c) (valuePort id) = some type)
    (ho : n.output? Node.valueSlot = some slot) :
    (g.pass palette c).2.2.output? (valuePort id) = some (slot.display palette type) := by
  have hnode : (g.pass palette c).2.2.node? id =
      some (n.modifyOutput Node.valueSlot (Slot.display palette type)) := by
    rw [node?_pass, hn, hl]
    rfl
  have hport : (g.pass palette c).2.2.output? (valuePort id) =
      ((g.pass palette c).2.2.node? id).bind (·.output? Node.valueSlot) := rfl
  rw [hport, hnode, Option.bind_some, Node.output?_modifyOutput, if_pos rfl, ho, Option.map_some]

end Graph

end NodeVariables
