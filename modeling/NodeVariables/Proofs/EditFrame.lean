import NodeVariables.Proofs.Targeted
import NodeVariables.Proofs.Wiring

namespace NodeVariables

namespace Graph

/-- The graphs differ at most in the variable of one node and in what feeds it, as far as variables
are concerned. -/
structure SameBut (node? : Option NodeId) (g g' : Graph) : Prop where
  keys : g'.nodes.keys = g.nodes.keys
  defines : ∀ id, some id ≠ node? → g'.defines? id = g.defines? id
  reads : ∀ id, some id ≠ node? → g'.reads? id = g.reads? id
  look : ∀ p, g'.look? p = g.look? p
  feeders : ∀ id, some id ≠ node? → (g'.defines? id).isSome → g'.feeders id = g.feeders id

/-- The output from which a slot can feed a value to a Set node. -/
def valueOrigin? (g : Graph) (s : Slot) : Option Port :=
  if s.name ≠ Node.triggerInput then g.origin? s else none

/-- The graphs differ at most in the link of one input. -/
structure Relinked (target : Port) (g g' : Graph) : Prop where
  keys : g'.nodes.keys = g.nodes.keys
  defines : ∀ id, g'.defines? id = g.defines? id
  reads : ∀ id, g'.reads? id = g.reads? id
  look : ∀ p, g'.look? p = g.look? p
  names : (g'.input? target).map Slot.name = (g.input? target).map Slot.name
  origins : ∀ n i, ¬target.IsAt n i →
    (g'.inputAt? n i).map g'.valueOrigin? = (g.inputAt? n i).map g.valueOrigin?

variable {g g' g'' : Graph} {id : NodeId} {target : Port}

theorem feeders_eq (g : Graph) (id : NodeId) : g.feeders id =
    (((g.node? id).map Node.inputs).getD []).filterMap g.valueOrigin? := by
  cases h : g.node? id with
  | none => simp [feeders, h]
  | some n =>
    simp only [feeders, h, Option.map_some, Option.getD_some, Node.valueInputs,
      List.filterMap_filter, decide_eq_true_eq]
    rfl

theorem feeders_congr (h : ∀ i, (g'.inputAt? id i).map g'.valueOrigin? =
    (g.inputAt? id i).map g.valueOrigin?) : g'.feeders id = g.feeders id := by
  have hinputs (g : Graph) (i : Nat) :
      (((g.node? id).map Node.inputs).getD [])[i]? = g.inputAt? id i := by
    cases hn : g.node? id <;> simp [inputAt?, hn]
  have hmap : (((g'.node? id).map Node.inputs).getD []).map g'.valueOrigin? =
      (((g.node? id).map Node.inputs).getD []).map g.valueOrigin? := by
    apply List.ext_getElem?
    intro i
    rw [List.getElem?_map, List.getElem?_map, hinputs, hinputs, h i]
  have hjoin (g : Graph) : g.feeders id =
      ((((g.node? id).map Node.inputs).getD []).map g.valueOrigin?).filterMap (fun p => p) := by
    rw [feeders_eq, List.filterMap_map]
    rfl
  rw [hjoin, hjoin, hmap]

namespace Relinked

theorem refl (target : Port) (g : Graph) : Relinked target g g :=
  ⟨rfl, fun _ => rfl, fun _ => rfl, fun _ => rfl, rfl, fun _ _ _ => rfl⟩

theorem trans (h : Relinked target g g') (h' : Relinked target g' g'') :
    Relinked target g g'' where
  keys := h'.keys.trans h.keys
  defines id := (h'.defines id).trans (h.defines id)
  reads id := (h'.reads id).trans (h.reads id)
  look p := (h'.look p).trans (h.look p)
  names := h'.names.trans h.names
  origins n i hat := (h'.origins n i hat).trans (h.origins n i hat)

theorem sameBut (h : Relinked target g g') : SameBut (some target.node) g g' where
  keys := h.keys
  defines id _ := h.defines id
  reads id _ := h.reads id
  look := h.look
  feeders id hid _ := by
    apply feeders_congr
    intro i
    apply h.origins
    rintro ⟨hnode, -⟩
    exact hid (by rw [hnode])

/-- Only links of value inputs of Set nodes feed anything. -/
theorem sameBut_of_trigger (h : Relinked target g g')
    (ht : (g'.defines? target.node).isSome → ∀ s, g'.input? target = some s →
      s.name = Node.triggerInput) : SameBut none g g' where
  keys := h.keys
  defines id _ := h.defines id
  reads id _ := h.reads id
  look := h.look
  feeders id _ hd := by
    apply feeders_congr
    intro i
    by_cases hat : target.IsAt id i
    -- the input at the target is a trigger before and after, as its name is kept
    · have hinput (g : Graph) : g.input? target = g.inputAt? id i := by
        rw [← inputAt?_port, hat.1, hat.2]
      have hnames := h.names
      rw [hinput, hinput] at hnames
      cases hs' : g'.inputAt? id i with
      | none =>
        have hs : g.inputAt? id i = none := by simpa [hs'] using hnames.symm
        rw [hs]
        rfl
      | some s' =>
        rw [hs', Option.map_some] at hnames
        obtain ⟨s, hs, hname⟩ := Option.map_eq_some_iff.1 hnames.symm
        have htrigger : s'.name = Node.triggerInput :=
          ht (hat.1 ▸ hd) s' ((hinput g').trans hs')
        simp [hs, valueOrigin?, hname, htrigger]
    · exact h.origins id i hat

end Relinked

section Nodes

variable (g : Graph) (p : Port) (f : Slot → Slot) (j : NodeId)

theorem defines?_modifyNode (id : NodeId) {f : Node → Node}
    (hf : ∀ n, (f n).defines? = n.defines?) : (g.modifyNode id f).defines? j = g.defines? j :=
  g.bind_node?_modifyNode id j hf

theorem reads?_modifyNode (id : NodeId) {f : Node → Node} (hf : ∀ n, (f n).reads? = n.reads?) :
    (g.modifyNode id f).reads? j = g.reads? j :=
  g.bind_node?_modifyNode id j hf

theorem defines?_modifyInput : (g.modifyInput p f).defines? j = g.defines? j :=
  g.defines?_modifyNode j p.node fun _ => rfl

theorem defines?_modifyOutput : (g.modifyOutput p f).defines? j = g.defines? j :=
  g.defines?_modifyNode j p.node fun _ => rfl

theorem reads?_modifyInput : (g.modifyInput p f).reads? j = g.reads? j :=
  g.reads?_modifyNode j p.node fun _ => rfl

theorem reads?_modifyOutput : (g.modifyOutput p f).reads? j = g.reads? j :=
  g.reads?_modifyNode j p.node fun _ => rfl

end Nodes

section Links

variable {l : Link} {k : LinkId} {origin : Port}

theorem look?_eq (g : Graph) (p : Port) :
    g.look? p = (g.outputAt? p.node p.slot.toNat).map Slot.look := rfl

/-- A slot whose link is not touched keeps its origin. -/
theorem valueOrigin?_congr {s : Slot} (h : ∀ k, s.link = some k → g'.link? k = g.link? k) :
    g'.valueOrigin? s = g.valueOrigin? s := by
  unfold valueOrigin? origin?
  cases hs : s.link with
  | none => rfl
  | some k => rw [Option.bind_some, Option.bind_some, h k hs]

theorem Consistent.relinked_removeLink (h : g.Consistent) (hl : g.link? k = some l) :
    Relinked l.target g (g.removeLink k) where
  keys := keys_removeLink g k
  defines id := by
    rw [removeLink_of_some hl, defines?_modifyInput, defines?_modifyOutput]
    rfl
  reads id := by
    rw [removeLink_of_some hl, reads?_modifyInput, reads?_modifyOutput]
    rfl
  look p := by
    rw [look?_eq, look?_eq, outputAt?_removeLink _ _ hl]
    split
    · rw [Option.map_map]
      rfl
    · rfl
  names := by
    rw [← inputAt?_port, ← inputAt?_port, inputAt?_removeLink _ _ hl, if_pos l.target.isAt_self,
      Option.map_map]
    congr 1
    funext s
    rw [Function.comp, Slot.unlink]
    split <;> rfl
  origins n i hat := by
    rw [inputAt?_removeLink _ _ hl, if_neg hat]
    cases hs : g.inputAt? n i with
    | none => rfl
    | some s =>
      rw [Option.map_some, Option.map_some, valueOrigin?_congr]
      intro j hj
      rw [link?_removeLink, if_neg]
      rintro rfl
      obtain ⟨l', hl', hat'⟩ := h.of_held n i j (held_eq_some_iff.2 ⟨s, hs, hj⟩)
      rw [hl] at hl'
      exact hat (Option.some.inj hl' ▸ hat')

/-- The graph with the new link has to be consistent: then no other input holds its id. -/
theorem relinked_attach (h : (g.attach origin target).Consistent) :
    Relinked target g (g.attach origin target) where
  keys := keys_attach g origin target
  defines id := by
    rw [attach, defines?_modifyInput, defines?_modifyOutput]
    rfl
  reads id := by
    rw [attach, reads?_modifyInput, reads?_modifyOutput]
    rfl
  look p := by
    rw [look?_eq, look?_eq, outputAt?_attach]
    split
    · rw [Option.map_map]
      rfl
    · rfl
  names := by
    rw [← inputAt?_port, ← inputAt?_port, inputAt?_attach, if_pos target.isAt_self,
      Option.map_map]
    rfl
  origins n i hat := by
    have hinput : (g.attach origin target).inputAt? n i = g.inputAt? n i := by
      rw [inputAt?_attach, if_neg hat]
    rw [hinput]
    cases hs : g.inputAt? n i with
    | none => rfl
    | some s =>
      rw [Option.map_some, Option.map_some, valueOrigin?_congr]
      intro j hj
      rw [link?_attach, if_neg]
      rintro rfl
      obtain ⟨l', hl', hat'⟩ := h.of_held n i _ (held_eq_some_iff.2 ⟨s, hinput.trans hs, hj⟩)
      rw [link?_attach, if_pos rfl] at hl'
      rw [← Option.some.inj hl'] at hat'
      exact hat hat'

theorem Consistent.relinked_clearInput (h : g.Consistent) (target : Port) :
    Relinked target g (g.clearInput target) := by
  obtain ⟨-, hg⟩ | ⟨k, hk, hg⟩ := clearInput_cases g target
  · rw [hg]
    exact .refl target g
  · obtain ⟨l, hl, hat⟩ := h.of_held target.node target.slot.toNat k hk
    have htarget : l.target = target := Port.eq_of_isAt hat target.isAt_self
    rw [hg, ← htarget]
    exact h.relinked_removeLink hl

theorem Consistent.relinked_addLink (h : g.Consistent) {result : LinkId × Graph}
    (ok : g.addLink origin target = .ok result) (h' : result.2.Consistent) :
    Relinked target g result.2 := by
  obtain ⟨-, -, -, rfl⟩ := addLink_eq_ok ok
  exact (h.relinked_clearInput target).trans (relinked_attach h')

end Links

/-- The widgets of a node concern no other node. -/
theorem sameBut_setWidget (g : Graph) (id : NodeId) (name value : String) :
    SameBut (some id) g (g.setWidget id name value) where
  keys := Table.keys_modify ..
  defines j hj := by
    have hne : j ≠ id := by simpa using hj
    rw [defines?, defines?, setWidget, node?_modifyNode, if_neg hne]
  reads j hj := by
    have hne : j ≠ id := by simpa using hj
    rw [reads?, reads?, setWidget, node?_modifyNode, if_neg hne]
  look p := by rw [look?_eq, look?_eq, outputAt?_setWidget]
  feeders j _ _ := by
    apply feeders_congr
    intro i
    rw [inputAt?_setWidget]
    rfl

end Graph

end NodeVariables
