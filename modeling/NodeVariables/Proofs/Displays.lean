import NodeVariables.Proofs.Look

namespace NodeVariables

def Slot.shown (palette : Palette) (type? : Option TypeName) (s : Slot) : Slot :=
  match type? with
  | some type => s.display palette type
  | none => s

theorem Slot.shown_shown (s : Slot) (palette : Palette) (first? later? : Option TypeName) :
    (s.shown palette first?).shown palette later? = s.shown palette (later?.or first?) := by
  cases later? <;> cases first? <;> rfl

namespace Node

def shown (palette : Palette) (type? : Option TypeName) (n : Node) : Node :=
  match type? with
  | some type => n.modifyOutput valueSlot (Slot.display palette type)
  | none => n

theorem shown_shown (n : Node) (palette : Palette) (first? later? : Option TypeName) :
    (n.shown palette first?).shown palette later? = n.shown palette (later?.or first?) := by
  cases later? with
  | none => rfl
  | some later =>
    cases first? with
    | none => rfl
    | some first =>
      simp only [shown, Option.some_or, modifyOutput, List.modify_modify_eq]
      rfl

/-- A node whose outputs show the types that are given for their places. -/
def outputsShown (palette : Palette) (type? : Nat → Option TypeName) (n : Node) : Node :=
  { n with outputs := n.outputs.mapIdx fun i => Slot.shown palette (type? i) }

theorem output?_outputsShown (n : Node) (palette : Palette) (type? : Nat → Option TypeName)
    (i : SlotIndex) : (n.outputsShown palette type?).output? i =
      (n.output? i).map (Slot.shown palette (type? i.toNat)) :=
  List.getElem?_mapIdx

theorem outputsShown_none (n : Node) (palette : Palette) :
    n.outputsShown palette (fun _ => none) = n := by
  have hself : n.outputs.mapIdx (fun _ => Slot.shown palette none) = n.outputs := by
    apply List.ext_getElem?
    intro i
    rw [List.getElem?_mapIdx]
    exact Option.map_id' ..
  rw [outputsShown, hself]

theorem map_outputsShown_none (n? : Option Node) (palette : Palette) :
    n?.map (outputsShown palette fun _ => none) = n? := by
  cases n? with
  | none => rfl
  | some n => rw [Option.map_some, outputsShown_none]

theorem outputsShown_outputsShown (n : Node) (palette : Palette)
    (first? later? : Nat → Option TypeName) :
    (n.outputsShown palette first?).outputsShown palette later? =
      n.outputsShown palette fun i => (later? i).or (first? i) := by
  simp only [outputsShown, List.mapIdx_mapIdx, Function.comp_def, Slot.shown_shown]

theorem modifyOutput_display (n : Node) (palette : Palette) (i : SlotIndex) (type : TypeName) :
    n.modifyOutput i (Slot.display palette type) =
      n.outputsShown palette fun j => if i.toNat = j then some type else none := by
  have houtputs : n.outputs.modify i.toNat (Slot.display palette type) =
      n.outputs.mapIdx fun j =>
        Slot.shown palette (if i.toNat = j then some type else none) := by
    apply List.ext_getElem?
    intro j
    rw [List.getElem?_modify, List.getElem?_mapIdx]
    split
    · rfl
    · rfl
  rw [modifyOutput, houtputs, outputsShown]

theorem shown_eq_outputsShown (n : Node) (palette : Palette) (type? : Option TypeName) :
    n.shown palette type? =
      n.outputsShown palette fun i => if valueSlot.toNat = i then type? else none := by
  cases type? with
  | none =>
    simp only [ite_self]
    exact (n.outputsShown_none palette).symm
  | some type => exact n.modifyOutput_display palette valueSlot type

end Node

namespace Graph

variable {g : Graph} {palette : Palette} {types : List (Port × TypeName)} {p : Port}
  {type : TypeName}

def lastOn (types : List (Port × TypeName)) (p : Port) : Option TypeName :=
  (types.reverse.find? (·.1 = p)).map Prod.snd

/-- The type that is displayed last on an output of a node, by the place of the output. A place may
be beyond every slot index, and nothing is displayed there. -/
def lastAt (types : List (Port × TypeName)) (id : NodeId) (i : Nat) : Option TypeName :=
  (types.reverse.find? fun x => x.1.node = id ∧ x.1.slot.toNat = i).map Prod.snd

/-- The displays of a sequence that answer that they change a type. -/
def effective (palette : Palette) (types : List (Port × TypeName)) (g : Graph) :
    List (Port × TypeName) :=
  match types with
  | [] => []
  | (p, type) :: rest =>
    let (changed, next) := g.display palette p type
    (if changed then [(p, type)] else []) ++ next.effective palette rest

/-- The displays that give an output another type, if no output is written twice. -/
def changes (g : Graph) (types : List (Port × TypeName)) : List (Port × TypeName) :=
  types.filter fun x => (g.look? x.1).any (·.type ≠ x.2)

theorem lastOn_of_not_mem (h : p ∉ types.map Prod.fst) : lastOn types p = none := by
  rw [lastOn, List.find?_eq_none.2, Option.map_none]
  intro x hx
  have hmem : x.1 ∈ types.map Prod.fst := List.mem_map_of_mem (List.mem_reverse.1 hx)
  simpa using fun heq : x.1 = p => h (heq ▸ hmem)

theorem mem_of_lastOn (h : lastOn types p = some type) : (p, type) ∈ types := by
  obtain ⟨⟨q, t⟩, hfind, rfl⟩ := Option.map_eq_some_iff.1 h
  have hq : q = p := by simpa using List.find?_some hfind
  exact hq ▸ List.mem_reverse.1 (List.mem_of_find?_eq_some hfind)

/-- An output on which only one type is displayed shows it in the end. -/
theorem lastOn_of_forall (h : p ∈ types.map Prod.fst) (hall : ∀ t, (p, t) ∈ types → t = type) :
    lastOn types p = some type := by
  cases hl : lastOn types p with
  | none =>
    obtain ⟨x, hx, hp⟩ := List.mem_map.1 h
    have hnone : types.reverse.find? (·.1 = p) = none := by simpa [lastOn] using hl
    have hne := List.find?_eq_none.1 hnone x (List.mem_reverse.2 hx)
    simp [hp] at hne
  | some other => rw [hall other (mem_of_lastOn hl)]

theorem lastAt_append (first rest : List (Port × TypeName)) (id : NodeId) (i : Nat) :
    lastAt (first ++ rest) id i = (lastAt rest id i).or (lastAt first id i) := by
  rw [lastAt, List.reverse_append, List.find?_append, Option.map_or]
  rfl

theorem lastAt_cons (p : Port) (type : TypeName) (rest : List (Port × TypeName)) (id : NodeId)
    (i : Nat) : lastAt ((p, type) :: rest) id i =
      (lastAt rest id i).or (if p.node = id ∧ p.slot.toNat = i then some type else none) := by
  rw [← List.singleton_append, lastAt_append]
  congr 1
  by_cases h : p.node = id ∧ p.slot.toNat = i <;> simp [lastAt, h]

theorem lastAt_port (types : List (Port × TypeName)) (p : Port) :
    lastAt types p.node p.slot.toNat = lastOn types p := by
  have hport (q : Port) : q.node = p.node ∧ q.slot.toNat = p.slot.toNat ↔ q = p := by
    cases p
    cases q
    simp [UInt64.toNat_inj]
  have hfind : (fun x : Port × TypeName => decide (x.1.node = p.node ∧
      x.1.slot.toNat = p.slot.toNat)) = fun x => decide (x.1 = p) :=
    funext fun x => decide_eq_decide.2 (hport x.1)
  rw [lastAt, lastOn, hfind]

theorem lastOn_append (first rest : List (Port × TypeName)) (p : Port) :
    lastOn (first ++ rest) p = (lastOn rest p).or (lastOn first p) := by
  rw [← lastAt_port, lastAt_append, lastAt_port, lastAt_port]

theorem lastAt_of_valueSlots (hv : ∀ x ∈ types, x.1.slot = Node.valueSlot) (id : NodeId) (i : Nat) :
    lastAt types id i =
      if Node.valueSlot.toNat = i then lastOn types (valuePort id) else none := by
  split
  · next hi =>
    subst hi
    exact lastAt_port types (valuePort id)
  · next hi =>
    rw [lastAt, List.find?_eq_none.2, Option.map_none]
    intro x hx
    have hslot := hv x (List.mem_reverse.1 hx)
    simp [hslot, hi]

theorem lastOn_of_last {rest : List (Port × TypeName)} (before : List (Port × TypeName))
    (type : TypeName) (h : p ∉ rest.map Prod.fst) :
    lastOn (before ++ (p, type) :: rest) p = some type := by
  rw [lastOn_append, ← lastAt_port, lastAt_cons, lastAt_port, lastOn_of_not_mem h,
    if_pos ⟨rfl, rfl⟩]
  rfl

section Single

theorem display_frame (palette : Palette) (p : Port) (type : TypeName) (g : Graph) :
    (g.display palette p type).2 =
      { g with
        nodes := (g.display palette p type).2.nodes
        redraws := (g.display palette p type).2.redraws } := by
  unfold display
  split
  · rfl
  · split <;> rfl

theorem fst_display (palette : Palette) (p : Port) (type : TypeName) (g : Graph) :
    (g.display palette p type).1 = (g.look? p).any (·.type ≠ type) := by
  unfold display look?
  cases g.output? p with
  | none => rfl
  | some slot => by_cases h : slot.type = type <;> simp [h, Slot.look]

theorem node?_display (palette : Palette) (p : Port) (type : TypeName) (g : Graph) (id : NodeId) :
    (g.display palette p type).2.node? id =
      if id = p.node then
        (g.node? id).map (Node.modifyOutput p.slot (Slot.display palette type))
      else g.node? id := by
  unfold display
  split
  · next hnone =>
    split
    · next hid =>
      cases hn : g.node? id with
      | none => rfl
      | some n =>
        -- an output that is not there cannot be modified
        have hself : n.modifyOutput p.slot (Slot.display palette type) = n := by
          apply Node.modifyOutput_eq_self
          intro s hs
          simp [output?, ← hid, hn, hs] at hnone
        rw [Option.map_some, hself]
    · rfl
  · split <;> simp [modifyOutput, node?_modifyNode]

theorem node?_display_outputsShown (palette : Palette) (p : Port) (type : TypeName) (g : Graph)
    (id : NodeId) : (g.display palette p type).2.node? id =
      (g.node? id).map (Node.outputsShown palette fun i =>
        if p.node = id ∧ p.slot.toNat = i then some type else none) := by
  rw [node?_display]
  by_cases hid : p.node = id
  · simp only [hid, true_and, if_true]
    exact congrArg (Option.map · (g.node? id)) (funext fun n => n.modifyOutput_display ..)
  · rw [if_neg (Ne.symm hid)]
    simp only [hid, false_and, if_false, Node.map_outputsShown_none]

end Single

section Sequence

theorem displayAll_frame (palette : Palette) (types : List (Port × TypeName)) (g : Graph) :
    (g.displayAll palette types).2 =
      { g with
        nodes := (g.displayAll palette types).2.nodes
        redraws := (g.displayAll palette types).2.redraws } := by
  induction types generalizing g with
  | nil => rfl
  | cons x rest ih =>
    obtain ⟨p, type⟩ := x
    rw [displayAll_cons, ih, display_frame]

/-- What is displayed on the outputs of a node is the last type for each of them. -/
theorem node?_displayAll_outputsShown (palette : Palette) (types : List (Port × TypeName))
    (g : Graph) (id : NodeId) : (g.displayAll palette types).2.node? id =
      (g.node? id).map (Node.outputsShown palette (lastAt types id)) := by
  induction types generalizing g with
  | nil => exact (Node.map_outputsShown_none ..).symm
  | cons x rest ih =>
    obtain ⟨p, type⟩ := x
    have hlast : lastAt ((p, type) :: rest) id = fun i =>
        (lastAt rest id i).or (if p.node = id ∧ p.slot.toNat = i then some type else none) :=
      funext (lastAt_cons p type rest id)
    rw [displayAll_cons, ih, node?_display_outputsShown, Option.map_map, hlast]
    exact congrArg (Option.map · (g.node? id))
      (funext fun n => n.outputsShown_outputsShown ..)

theorem output?_displayAll (palette : Palette) (types : List (Port × TypeName)) (g : Graph)
    (p : Port) : (g.displayAll palette types).2.output? p =
      (g.output? p).map (Slot.shown palette (lastOn types p)) := by
  rw [output?, node?_displayAll_outputsShown, output?, ← lastAt_port]
  cases g.node? p.node with
  | none => rfl
  | some n => exact n.output?_outputsShown ..

/-- A node ends up with the type that is displayed last on its value output. -/
theorem node?_displayAll (hv : ∀ x ∈ types, x.1.slot = Node.valueSlot) (id : NodeId) :
    (g.displayAll palette types).2.node? id =
      (g.node? id).map (Node.shown palette (lastOn types (valuePort id))) := by
  have hlast := funext (lastAt_of_valueSlots hv id)
  rw [node?_displayAll_outputsShown, hlast]
  exact congrArg (Option.map · (g.node? id)) (funext fun n => (n.shown_eq_outputsShown ..).symm)

theorem changes_display (h : p ∉ types.map Prod.fst) :
    (g.display palette p type).2.changes types = g.changes types := by
  apply List.filter_congr
  intro x hx
  have hne : x.1 ≠ p := fun heq => h (heq ▸ List.mem_map_of_mem hx)
  rw [look?_display, if_neg hne]

theorem changes_cons (g : Graph) (p : Port) (type : TypeName) (types : List (Port × TypeName)) :
    g.changes ((p, type) :: types) =
      if (g.look? p).any (·.type ≠ type) then (p, type) :: g.changes types
      else g.changes types :=
  List.filter_cons

theorem effective_cons (g : Graph) (p : Port) (type : TypeName) (rest : List (Port × TypeName)) :
    g.effective palette ((p, type) :: rest) =
      (if (g.display palette p type).1 then [(p, type)] else []) ++
        (g.display palette p type).2.effective palette rest := rfl

theorem redraws_displayAll_effective (palette : Palette) (types : List (Port × TypeName))
    (g : Graph) : (g.displayAll palette types).2.redraws =
      g.redraws ++ (g.effective palette types).map (·.1.node) := by
  induction types generalizing g with
  | nil => exact (List.append_nil _).symm
  | cons x rest ih =>
    obtain ⟨p, type⟩ := x
    rw [displayAll_cons, ih, redraws_display, effective_cons]
    split <;> simp

theorem fst_displayAll_effective (palette : Palette) (types : List (Port × TypeName)) (g : Graph) :
    (g.displayAll palette types).1 = (g.effective palette types).length := by
  induction types generalizing g with
  | nil => rfl
  | cons x rest ih =>
    obtain ⟨p, type⟩ := x
    have hstep : (g.displayAll palette ((p, type) :: rest)).1 =
        (g.display palette p type).1.toNat +
          ((g.display palette p type).2.displayAll palette rest).1 := rfl
    rw [hstep, ih, effective_cons, List.length_append]
    cases (g.display palette p type).1 <;> rfl

theorem effective_eq_changes (hd : (types.map Prod.fst).Nodup) :
    g.effective palette types = g.changes types := by
  induction types generalizing g with
  | nil => rfl
  | cons x rest ih =>
    obtain ⟨p, type⟩ := x
    obtain ⟨hp, hrest⟩ := List.nodup_cons.1 hd
    rw [effective_cons, ih hrest, fst_display, changes_display hp, changes_cons]
    split <;> rfl

theorem redraws_displayAll (hd : (types.map Prod.fst).Nodup) :
    (g.displayAll palette types).2.redraws = g.redraws ++ (g.changes types).map (·.1.node) := by
  rw [redraws_displayAll_effective, effective_eq_changes hd]

theorem fst_displayAll (hd : (types.map Prod.fst).Nodup) :
    (g.displayAll palette types).1 = (g.changes types).length := by
  rw [fst_displayAll_effective, effective_eq_changes hd]

end Sequence

end Graph

end NodeVariables
