import NodeVariables.Graph.Edit
import NodeVariables.Proofs.Frame
/-!
The two records of a link. The table says which output and which input a link joins, and the slots
say which links they hold. A graph is consistent when both say the same, and every edit of a link
that starts from a consistent graph changes both alike.
-/
namespace NodeVariables

/-- The port is the slot at a place among the inputs or outputs of a node. -/
def Port.IsAt (p : Port) (id : NodeId) (i : Nat) : Prop := p.node = id ∧ p.slot.toNat = i

instance (p : Port) (id : NodeId) (i : Nat) : Decidable (p.IsAt id i) :=
  inferInstanceAs (Decidable (_ ∧ _))

theorem Port.isAt_self (p : Port) : p.IsAt p.node p.slot.toNat := ⟨rfl, rfl⟩

theorem Port.eq_of_isAt {p q : Port} {id : NodeId} {i : Nat} (hp : p.IsAt id i)
    (hq : q.IsAt id i) : p = q := by
  obtain ⟨n, j⟩ := p
  obtain ⟨m, k⟩ := q
  have hn : n = m := hp.1.trans hq.1.symm
  have hj : j = k := UInt64.toNat_inj.1 (hp.2.trans hq.2.symm)
  rw [hn, hj]

@[simp] theorem Slot.link_unlink (s : Slot) (id : LinkId) :
    (s.unlink id).link = s.link.filter (· ≠ id) := by
  unfold unlink
  split
  · next h => simp [setLink, h, Option.filter]
  · next h =>
    cases hs : s.link with
    | none => rfl
    | some j =>
      have hne : j ≠ id := by simpa [hs] using h
      simp [Option.filter, hne]

def Node.Unlinked (n : Node) : Prop := ∀ s ∈ n.inputs ++ n.outputs, s.isConnected = false

instance (n : Node) : Decidable n.Unlinked :=
  inferInstanceAs (Decidable (∀ s ∈ n.inputs ++ n.outputs, s.isConnected = false))

theorem Slot.isConnected_eq_false_iff {s : Slot} :
    s.isConnected = false ↔ s.link = none ∧ s.links = [] := by
  simp [isConnected]

namespace Node.Unlinked

variable {n : Node} {i : Nat} {s : Slot}

theorem input (h : n.Unlinked) (hs : n.inputs[i]? = some s) : s.link = none ∧ s.links = [] := by
  apply Slot.isConnected_eq_false_iff.1
  apply h
  exact List.mem_append_left _ (List.mem_of_getElem? hs)

theorem output (h : n.Unlinked) (hs : n.outputs[i]? = some s) : s.link = none ∧ s.links = [] := by
  apply Slot.isConnected_eq_false_iff.1
  apply h
  exact List.mem_append_right _ (List.mem_of_getElem? hs)

end Node.Unlinked

namespace Graph

def inputAt? (g : Graph) (id : NodeId) (i : Nat) : Option Slot :=
  (g.node? id).bind fun n => n.inputs[i]?

def outputAt? (g : Graph) (id : NodeId) (i : Nat) : Option Slot :=
  (g.node? id).bind fun n => n.outputs[i]?

def held (g : Graph) (id : NodeId) (i : Nat) : Option LinkId := (g.inputAt? id i).bind (·.link)

def sent (g : Graph) (id : NodeId) (i : Nat) : List LinkId :=
  ((g.outputAt? id i).map (·.links)).getD []

structure Consistent (g : Graph) : Prop where
  keyed : g.Keyed
  link_id : ∀ id l, g.link? id = some l → l.id = id
  /-- The output of a link holds it exactly once. -/
  origin : ∀ id l, g.link? id = some l →
    (g.sent l.origin.node l.origin.slot.toNat).count id = 1
  target : ∀ id l, g.link? id = some l → g.held l.target.node l.target.slot.toNat = some id
  of_sent : ∀ n i id, id ∈ g.sent n i → ∃ l, g.link? id = some l ∧ l.origin.IsAt n i
  of_held : ∀ n i id, g.held n i = some id → ∃ l, g.link? id = some l ∧ l.target.IsAt n i

theorem keyed_modifyNode {g : Graph} (hk : g.Keyed) (id : NodeId) {f : Node → Node}
    (hf : ∀ n, (f n).id = n.id) : (g.modifyNode id f).Keyed := by
  intro j n hn
  rw [node?_modifyNode] at hn
  split at hn
  · obtain ⟨m, hm, rfl⟩ := Option.map_eq_some_iff.1 hn
    rw [hf m, hk j m hm]
  · exact hk j n hn

section Views

variable {β : Type} (g : Graph) (id j : NodeId) {f : Node → Node}

/-- What a change keeps of every node it keeps of the nodes of a graph. -/
theorem bind_node?_modifyNode {view : Node → Option β} (hf : ∀ n, view (f n) = view n) :
    ((g.modifyNode id f).node? j).bind view = (g.node? j).bind view := by
  rw [node?_modifyNode]
  split
  · rw [Option.bind_map]
    exact congrArg _ (funext hf)
  · rfl

theorem map_node?_modifyNode {view : Node → β} (hf : ∀ n, view (f n) = view n) :
    ((g.modifyNode id f).node? j).map view = (g.node? j).map view := by
  rw [Option.map_eq_bind, Option.map_eq_bind]
  exact g.bind_node?_modifyNode id j fun n => congrArg some (hf n)

end Views

section Places

variable (g : Graph) (p : Port) (f : Slot → Slot) (n : NodeId) (i : Nat)

theorem inputAt?_port : g.inputAt? p.node p.slot.toNat = g.input? p := rfl

theorem outputAt?_port : g.outputAt? p.node p.slot.toNat = g.output? p := rfl

theorem inputAt?_modifyInput : (g.modifyInput p f).inputAt? n i =
    if p.IsAt n i then (g.inputAt? n i).map f else g.inputAt? n i := by
  simp only [inputAt?, modifyInput, node?_modifyNode, Port.IsAt]
  by_cases hn : n = p.node
  · by_cases hi : p.slot.toNat = i <;> cases g.node? n <;>
      simp [hn, hi, Node.modifyInput]
  · simp [hn, Ne.symm hn]

theorem outputAt?_modifyOutput : (g.modifyOutput p f).outputAt? n i =
    if p.IsAt n i then (g.outputAt? n i).map f else g.outputAt? n i := by
  simp only [outputAt?, modifyOutput, node?_modifyNode, Port.IsAt]
  by_cases hn : n = p.node
  · by_cases hi : p.slot.toNat = i <;> cases g.node? n <;>
      simp [hn, hi, Node.modifyOutput]
  · simp [hn, Ne.symm hn]

@[simp] theorem inputAt?_modifyOutput : (g.modifyOutput p f).inputAt? n i = g.inputAt? n i :=
  g.bind_node?_modifyNode p.node n fun _ => rfl

@[simp] theorem outputAt?_modifyInput : (g.modifyInput p f).outputAt? n i = g.outputAt? n i :=
  g.bind_node?_modifyNode p.node n fun _ => rfl

@[simp] theorem inputAt?_bare : g.bare.inputAt? n i = g.inputAt? n i := by
  cases h : g.node? n <;> simp [inputAt?, h]

theorem outputAt?_bare :
    (g.bare.outputAt? n i).map Slot.bare = (g.outputAt? n i).map Slot.bare := by
  cases h : g.node? n with
  | none => simp [outputAt?, h]
  | some m =>
    rcases m.bare_cases with hb | hb
    · simp [outputAt?, h, hb]
    · simp only [outputAt?, node?_bare, h, Option.map_some, Option.bind_some, hb,
        Node.modifyOutput, List.getElem?_modify]
      cases m.outputs[i]? with
      | none => rfl
      | some s => simp only [Option.map_eq_map, Option.map_some]; split <;> rfl

@[simp] theorem held_bare : g.bare.held n i = g.held n i := by
  rw [held, held, inputAt?_bare]

@[simp] theorem sent_bare : g.bare.sent n i = g.sent n i := by
  have hlinks := congrArg (Option.map Slot.links) (g.outputAt?_bare n i)
  simp only [Option.map_map] at hlinks
  exact congrArg (Option.getD · []) hlinks

variable {g n i}

theorem held_eq_some_iff {id : LinkId} :
    g.held n i = some id ↔ ∃ slot, g.inputAt? n i = some slot ∧ slot.link = some id :=
  Option.bind_eq_some_iff

theorem mem_sent_iff {id : LinkId} :
    id ∈ g.sent n i ↔ ∃ slot, g.outputAt? n i = some slot ∧ id ∈ slot.links := by
  cases h : g.outputAt? n i <;> simp [sent, h]

theorem held_eq_none (hu : ∀ k, g.node? n = some k → k.Unlinked) : g.held n i = none := by
  cases hn : g.node? n with
  | none => simp [held, inputAt?, hn]
  | some k =>
    cases hs : k.inputs[i]? with
    | none => simp [held, inputAt?, hn, hs]
    | some s => simp [held, inputAt?, hn, hs, ((hu k hn).input hs).1]

theorem sent_eq_nil (hu : ∀ k, g.node? n = some k → k.Unlinked) : g.sent n i = [] := by
  cases hn : g.node? n with
  | none => simp [sent, outputAt?, hn]
  | some k =>
    cases hs : k.outputs[i]? with
    | none => simp [sent, outputAt?, hn, hs]
    | some s => simp [sent, outputAt?, hn, hs, ((hu k hn).output hs).2]

end Places

section Edits

variable {g : Graph} {id : LinkId} {l : Link} (origin target : Port) (n : NodeId) (i : Nat)

theorem removeLink_of_none (hl : g.link? id = none) : g.removeLink id = g := by
  rw [removeLink, hl]

theorem removeLink_of_some (hl : g.link? id = some l) : g.removeLink id =
    ({ g with links := g.links.erase id }.modifyOutput l.origin (Slot.dropLink id)).modifyInput
      l.target (Slot.unlink id) := by
  rw [removeLink, hl]

theorem link?_removeLink (g : Graph) (id j : LinkId) :
    (g.removeLink id).link? j = if j = id then none else g.link? j := by
  cases hl : g.link? id with
  | none =>
    rw [removeLink_of_none hl]
    split
    · next hj => rw [hj, hl]
    · rfl
  | some l =>
    rw [removeLink_of_some hl]
    exact Table.get?_erase ..

theorem link?_of_removeLink {j : LinkId} (hl : (g.removeLink id).link? j = some l) :
    j ≠ id ∧ g.link? j = some l := by
  rw [link?_removeLink] at hl
  split at hl
  · simp at hl
  · next hj => exact ⟨hj, hl⟩

theorem inputAt?_removeLink (hl : g.link? id = some l) : (g.removeLink id).inputAt? n i =
    if l.target.IsAt n i then (g.inputAt? n i).map (Slot.unlink id) else g.inputAt? n i := by
  rw [removeLink_of_some hl, inputAt?_modifyInput, inputAt?_modifyOutput]
  rfl

theorem outputAt?_removeLink (hl : g.link? id = some l) : (g.removeLink id).outputAt? n i =
    if l.origin.IsAt n i then (g.outputAt? n i).map (Slot.dropLink id) else g.outputAt? n i := by
  rw [removeLink_of_some hl, outputAt?_modifyInput, outputAt?_modifyOutput]
  rfl

theorem keyed_removeLink (hk : g.Keyed) (id : LinkId) : (g.removeLink id).Keyed := by
  cases hl : g.link? id with
  | none => rwa [removeLink_of_none hl]
  | some l =>
    have ho : ({ g with links := g.links.erase id }.modifyOutput l.origin
        (Slot.dropLink id)).Keyed := keyed_modifyNode hk _ fun _ => rfl
    rw [removeLink_of_some hl]
    exact keyed_modifyNode ho _ fun _ => rfl

theorem link?_attach (g : Graph) (j : LinkId) : (g.attach origin target).link? j =
    if j = g.nextLinkId then some ⟨g.nextLinkId, origin, target⟩ else g.link? j :=
  Table.get?_insert ..

theorem link?_attach_cases {origin target : Port} {j : LinkId}
    (hl : (g.attach origin target).link? j = some l) :
    j = g.nextLinkId ∧ l = ⟨g.nextLinkId, origin, target⟩ ∨
      j ≠ g.nextLinkId ∧ g.link? j = some l := by
  rw [link?_attach] at hl
  split at hl
  · next hj => exact .inl ⟨hj, (Option.some.inj hl).symm⟩
  · next hj => exact .inr ⟨hj, hl⟩

theorem inputAt?_attach (g : Graph) : (g.attach origin target).inputAt? n i =
    if target.IsAt n i then (g.inputAt? n i).map (Slot.setLink (some g.nextLinkId))
    else g.inputAt? n i := by
  rw [attach, inputAt?_modifyInput, inputAt?_modifyOutput]
  rfl

theorem outputAt?_attach (g : Graph) : (g.attach origin target).outputAt? n i =
    if origin.IsAt n i then (g.outputAt? n i).map (Slot.addLink g.nextLinkId)
    else g.outputAt? n i := by
  rw [attach, outputAt?_modifyInput, outputAt?_modifyOutput]
  rfl

theorem keyed_attach (hk : g.Keyed) : (g.attach origin target).Keyed := by
  have ho : Graph.Keyed (Graph.modifyOutput
      { g with
        links := g.links.insert g.nextLinkId ⟨g.nextLinkId, origin, target⟩
        nextLinkId := g.nextLinkId + 1 } origin (Slot.addLink g.nextLinkId)) :=
    keyed_modifyNode hk _ fun _ => rfl
  exact keyed_modifyNode ho _ fun _ => rfl

theorem held_attach {target : Port} (ht : (g.input? target).isSome) :
    (g.attach origin target).held n i =
      if target.IsAt n i then some g.nextLinkId else g.held n i := by
  rw [held, inputAt?_attach]
  split
  · next hat =>
    obtain ⟨slot, hslot⟩ := Option.isSome_iff_exists.1 ht
    rw [← inputAt?_port, hat.1, hat.2] at hslot
    rw [hslot]
    rfl
  · rfl

theorem sent_attach {origin : Port} (ho : (g.output? origin).isSome) :
    (g.attach origin target).sent n i =
      if origin.IsAt n i then g.sent n i ++ [g.nextLinkId] else g.sent n i := by
  rw [sent, outputAt?_attach]
  split
  · next hat =>
    obtain ⟨slot, hslot⟩ := Option.isSome_iff_exists.1 ho
    rw [← outputAt?_port, hat.1, hat.2] at hslot
    rw [sent, hslot]
    rfl
  · rfl

theorem node?_putNode (g : Graph) (m : NodeId) (node : Node) : (g.putNode m node).node? n =
    if n = m then some { node with id := m } else g.node? n :=
  Table.get?_insert ..

theorem inputAt?_putNode (g : Graph) (m : NodeId) (node : Node) :
    (g.putNode m node).inputAt? n i = if n = m then node.inputs[i]? else g.inputAt? n i := by
  rw [inputAt?, node?_putNode]
  split <;> rfl

theorem outputAt?_putNode (g : Graph) (m : NodeId) (node : Node) :
    (g.putNode m node).outputAt? n i = if n = m then node.outputs[i]? else g.outputAt? n i := by
  rw [outputAt?, node?_putNode]
  split <;> rfl

theorem node?_eraseNode (g : Graph) (m : NodeId) :
    node? { g with nodes := g.nodes.erase m } n = if n = m then none else g.node? n :=
  Table.get?_erase ..

theorem inputAt?_setWidget (g : Graph) (m : NodeId) (name value : String) :
    (g.setWidget m name value).inputAt? n i = g.inputAt? n i :=
  g.bind_node?_modifyNode m n fun _ => rfl

theorem outputAt?_setWidget (g : Graph) (m : NodeId) (name value : String) :
    (g.setWidget m name value).outputAt? n i = g.outputAt? n i :=
  g.bind_node?_modifyNode m n fun _ => rfl

theorem keys_removeLink (g : Graph) (id : LinkId) :
    (g.removeLink id).nodes.keys = g.nodes.keys := by
  cases hl : g.link? id with
  | none => rw [removeLink_of_none hl]
  | some l =>
    rw [removeLink_of_some hl, modifyInput, modifyNode, Table.keys_modify, modifyOutput, modifyNode,
      Table.keys_modify]

theorem keys_attach (g : Graph) (origin target : Port) :
    (g.attach origin target).nodes.keys = g.nodes.keys := by
  rw [attach, modifyInput, modifyNode, Table.keys_modify, modifyOutput, modifyNode,
    Table.keys_modify]

theorem isSome_input?_removeLink (g : Graph) (id : LinkId) (p : Port) :
    ((g.removeLink id).input? p).isSome = (g.input? p).isSome := by
  cases hl : g.link? id with
  | none => rw [removeLink_of_none hl]
  | some l =>
    rw [← inputAt?_port, inputAt?_removeLink _ _ hl]
    split
    · exact Option.isSome_map
    · rfl

theorem isSome_output?_removeLink (g : Graph) (id : LinkId) (p : Port) :
    ((g.removeLink id).output? p).isSome = (g.output? p).isSome := by
  cases hl : g.link? id with
  | none => rw [removeLink_of_none hl]
  | some l =>
    rw [← outputAt?_port, outputAt?_removeLink _ _ hl]
    split
    · exact Option.isSome_map
    · rfl

theorem nextLinkId_removeLink (g : Graph) (id : LinkId) :
    (g.removeLink id).nextLinkId = g.nextLinkId := by
  cases hl : g.link? id with
  | none => rw [removeLink_of_none hl]
  | some l =>
    rw [removeLink_of_some hl]
    rfl

/-- Clearing an input removes at most one link. -/
theorem clearInput_cases (g : Graph) (target : Port) :
    g.linkInto? target = none ∧ g.clearInput target = g ∨
      ∃ id, g.linkInto? target = some id ∧ g.clearInput target = g.removeLink id := by
  unfold clearInput
  split
  · next id hid => exact .inr ⟨id, hid, rfl⟩
  · next hnone => exact .inl ⟨hnone, rfl⟩

/-- When two slots are linked, and what comes of it. -/
theorem addLink_eq_ok {origin target : Port} {result : LinkId × Graph}
    (h : g.addLink origin target = .ok result) :
    origin.node ≠ target.node ∧ (g.output? origin).isSome ∧ (g.input? target).isSome ∧
      result = (g.nextLinkId, (g.clearInput target).attach origin target) := by
  unfold addLink at h
  split at h
  · simp at h
  · next hrefusal =>
    unfold linkRefusal? at hrefusal
    split_ifs at hrefusal with hself hsource hoslot htarget htslot
    refine ⟨hself, ?_, ?_, (Except.ok.inj h).symm⟩
    · simpa [Option.isSome_iff_ne_none] using hoslot
    · simpa [Option.isSome_iff_ne_none] using htslot

end Edits

namespace Consistent

variable {g g' : Graph} {id : LinkId}

/-- A graph with the same table of links, and slots that hold the same links. -/
theorem congr (h : g.Consistent) (hk : g'.Keyed) (hl : ∀ id, g'.link? id = g.link? id)
    (hh : ∀ n i, g'.held n i = g.held n i) (hs : ∀ n i, g'.sent n i = g.sent n i) :
    g'.Consistent where
  keyed := hk
  link_id := by simpa only [hl] using h.link_id
  origin := by simpa only [hl, hs] using h.origin
  target := by simpa only [hl, hh] using h.target
  of_sent := by simpa only [hl, hs] using h.of_sent
  of_held := by simpa only [hl, hh] using h.of_held

theorem congr_bare (h : g.Consistent) (hb : g'.bare = g.bare) : g'.Consistent := by
  apply h.congr (keyed_of_bare_eq hb h.keyed)
  · intro id
    exact link?_of_bare_eq hb id
  · intro n i
    exact view_eq (fun g => g.held n i) (fun g => g.held_bare n i) hb
  · intro n i
    exact view_eq (fun g => g.sent n i) (fun g => g.sent_bare n i) hb

section Slots

variable (h : g.Consistent)

include h

theorem origin_isSome {l : Link} (hl : g.link? id = some l) : (g.output? l.origin).isSome := by
  have hmem : id ∈ g.sent l.origin.node l.origin.slot.toNat := by
    rw [← List.count_pos_iff, h.origin id l hl]
    exact Nat.one_pos
  obtain ⟨slot, hslot, -⟩ := mem_sent_iff.1 hmem
  exact Option.isSome_of_eq_some hslot

theorem target_isSome {l : Link} (hl : g.link? id = some l) : (g.input? l.target).isSome := by
  obtain ⟨slot, hslot, -⟩ := held_eq_some_iff.1 (h.target id l hl)
  exact Option.isSome_of_eq_some hslot

/-- No two links lead to the same input. -/
theorem eq_of_target_eq {a b : LinkId} {la lb : Link} (ha : g.link? a = some la)
    (hb : g.link? b = some lb) (ht : la.target = lb.target) : a = b := by
  have hheld := h.target a la ha
  rw [ht, h.target b lb hb] at hheld
  exact (Option.some.inj hheld).symm

theorem not_mem_sent (hid : g.link? id = none) (n : NodeId) (i : Nat) : id ∉ g.sent n i := by
  intro hmem
  obtain ⟨l, hl, -⟩ := h.of_sent n i id hmem
  simp [hid] at hl

theorem held_ne (hid : g.link? id = none) (n : NodeId) (i : Nat) : g.held n i ≠ some id := by
  intro hheld
  obtain ⟨l, hl, -⟩ := h.of_held n i id hheld
  simp [hid] at hl

end Slots

section RemoveLink

variable (h : g.Consistent)

include h

theorem held_removeLink (id : LinkId) (n : NodeId) (i : Nat) :
    (g.removeLink id).held n i = (g.held n i).filter (· ≠ id) := by
  have hkeep (hne : g.held n i ≠ some id) : g.held n i = (g.held n i).filter (· ≠ id) := by
    cases hh : g.held n i with
    | none => rfl
    | some j =>
      have hj : j ≠ id := by simpa [hh] using hne
      simp [Option.filter, hj]
  cases hl : g.link? id with
  | none =>
    rw [removeLink_of_none hl]
    exact hkeep (h.held_ne hl n i)
  | some l =>
    rw [held, inputAt?_removeLink n i hl]
    split
    · rw [held]
      cases g.inputAt? n i with
      | none => rfl
      | some slot => simp
    -- at any other input the link would have to end there too
    · next hat =>
      apply hkeep
      intro hheld
      obtain ⟨l', hl', htarget⟩ := h.of_held n i id hheld
      rw [hl] at hl'
      exact hat (Option.some.inj hl' ▸ htarget)

theorem sent_removeLink (id : LinkId) (n : NodeId) (i : Nat) :
    (g.removeLink id).sent n i = (g.sent n i).filter (· ≠ id) := by
  have hkeep (hne : id ∉ g.sent n i) : g.sent n i = (g.sent n i).filter (· ≠ id) := by
    symm
    rw [List.filter_eq_self]
    intro j hj
    simpa using ne_of_mem_of_not_mem hj hne
  cases hl : g.link? id with
  | none =>
    rw [removeLink_of_none hl]
    exact hkeep (h.not_mem_sent hl n i)
  | some l =>
    rw [sent, outputAt?_removeLink n i hl]
    split
    · rw [sent]
      cases g.outputAt? n i with
      | none => rfl
      | some slot => rfl
    · next hat =>
      apply hkeep
      intro hmem
      obtain ⟨l', hl', horigin⟩ := h.of_sent n i id hmem
      rw [hl] at hl'
      exact hat (Option.some.inj hl' ▸ horigin)

theorem removeLink (id : LinkId) : (g.removeLink id).Consistent := by
  refine ⟨keyed_removeLink h.keyed id, ?_, ?_, ?_, ?_, ?_⟩
  · intro j l hl
    exact h.link_id j l (link?_of_removeLink hl).2
  · intro j l hl
    obtain ⟨hj, hl⟩ := link?_of_removeLink hl
    rw [h.sent_removeLink, List.count_filter (by simpa using hj), h.origin j l hl]
  · intro j l hl
    obtain ⟨hj, hl⟩ := link?_of_removeLink hl
    rw [h.held_removeLink, h.target j l hl]
    simp [Option.filter, hj]
  · intro n i j hmem
    rw [h.sent_removeLink, List.mem_filter] at hmem
    obtain ⟨l, hl, hat⟩ := h.of_sent n i j hmem.1
    refine ⟨l, ?_, hat⟩
    rw [link?_removeLink, if_neg (by simpa using hmem.2), hl]
  · intro n i j hheld
    rw [h.held_removeLink, Option.filter_eq_some_iff] at hheld
    obtain ⟨l, hl, hat⟩ := h.of_held n i j hheld.1
    refine ⟨l, ?_, hat⟩
    rw [link?_removeLink, if_neg (by simpa using hheld.2), hl]

end RemoveLink

/-- A new link to an input that holds none. -/
theorem attach (h : g.Consistent) {origin target : Port} (ho : (g.output? origin).isSome)
    (ht : (g.input? target).isSome)
    (hfree : g.linkInto? target = none) (hnew : g.link? g.nextLinkId = none) :
    (g.attach origin target).Consistent := by
  have hkept {j : LinkId} {l : Link} (hl : g.link? j = some l) :
      (g.attach origin target).link? j = some l := by
    rw [link?_attach, if_neg, hl]
    intro hj
    rw [hj, hnew] at hl
    simp at hl
  refine ⟨keyed_attach _ _ h.keyed, ?_, ?_, ?_, ?_, ?_⟩
  · intro j l hl
    obtain ⟨hj, hlink⟩ | ⟨-, hl⟩ := link?_attach_cases hl
    · rw [hj, hlink]
    · exact h.link_id j l hl
  · intro j l hl
    rw [sent_attach _ _ _ ho]
    obtain ⟨hj, hlink⟩ | ⟨hj, hl⟩ := link?_attach_cases hl
    · rw [hj, hlink, if_pos origin.isAt_self, List.count_append,
        List.count_eq_zero_of_not_mem (h.not_mem_sent hnew _ _), List.count_singleton_self]
    · split
      · rw [List.count_append, h.origin j l hl, List.count_singleton, if_neg]
        simpa using Ne.symm hj
      · exact h.origin j l hl
  · intro j l hl
    rw [held_attach _ _ _ ht]
    obtain ⟨hj, hlink⟩ | ⟨-, hl⟩ := link?_attach_cases hl
    · rw [hj, hlink, if_pos target.isAt_self]
    -- an older link does not end at the target, which was free
    · rw [if_neg, h.target j l hl]
      intro hat
      have hheld := h.target j l hl
      rw [← hat.1, ← hat.2] at hheld
      exact Option.some_ne_none j (hheld.symm.trans hfree)
  · intro n i j hmem
    rw [sent_attach _ _ _ ho] at hmem
    split at hmem
    · next hat =>
      rcases List.mem_append.1 hmem with hmem | hmem
      · obtain ⟨l, hl, hl'⟩ := h.of_sent n i j hmem
        exact ⟨l, hkept hl, hl'⟩
      · refine ⟨⟨g.nextLinkId, origin, target⟩, ?_, hat⟩
        rw [List.mem_singleton.1 hmem, link?_attach, if_pos rfl]
    · obtain ⟨l, hl, hl'⟩ := h.of_sent n i j hmem
      exact ⟨l, hkept hl, hl'⟩
  · intro n i j hheld
    rw [held_attach _ _ _ ht] at hheld
    split at hheld
    · next hat =>
      refine ⟨⟨g.nextLinkId, origin, target⟩, ?_, hat⟩
      rw [← Option.some.inj hheld, link?_attach, if_pos rfl]
    · obtain ⟨l, hl, hl'⟩ := h.of_held n i j hheld
      exact ⟨l, hkept hl, hl'⟩

theorem clearInput (h : g.Consistent) (target : Port) : (g.clearInput target).Consistent := by
  obtain ⟨-, hg⟩ | ⟨id, -, hg⟩ := clearInput_cases g target
  · rwa [hg]
  · rw [hg]
    exact h.removeLink id

theorem linkInto?_clearInput (h : g.Consistent) (target : Port) :
    (g.clearInput target).linkInto? target = none := by
  obtain ⟨hnone, hg⟩ | ⟨id, hid, hg⟩ := clearInput_cases g target
  · rwa [hg]
  · have hheld := h.held_removeLink id target.node target.slot.toNat
    have hold : g.held target.node target.slot.toNat = some id := hid
    rw [hold] at hheld
    rw [hg]
    exact hheld.trans (by simp [Option.filter])

theorem addLink (h : g.Consistent) {origin target : Port} {result : LinkId × Graph}
    (hnew : g.link? g.nextLinkId = none) (ha : g.addLink origin target = .ok result) :
    result.2.Consistent := by
  obtain ⟨-, ho, ht, rfl⟩ := addLink_eq_ok ha
  have hfree := h.linkInto?_clearInput target
  have hclear := h.clearInput target
  obtain ⟨-, hg⟩ | ⟨id, -, hg⟩ := clearInput_cases g target
  · rw [hg] at hfree ⊢
    exact h.attach ho ht hfree hnew
  · rw [hg] at hfree hclear ⊢
    apply hclear.attach _ _ hfree
    · rw [nextLinkId_removeLink, link?_removeLink, hnew, ite_self]
    · rwa [isSome_output?_removeLink]
    · rwa [isSome_input?_removeLink]

/-- A node without links comes or goes. -/
theorem congr_off (h : g.Consistent) {n : NodeId} (hk : g'.Keyed)
    (hl : ∀ id, g'.link? id = g.link? id) (hoff : ∀ m, m ≠ n → g'.node? m = g.node? m)
    (hu : ∀ k, g.node? n = some k → k.Unlinked) (hu' : ∀ k, g'.node? n = some k → k.Unlinked) :
    g'.Consistent := by
  apply h.congr hk hl
  · intro m i
    by_cases hm : m = n
    · rw [hm, held_eq_none hu', held_eq_none hu]
    · rw [held, held, inputAt?, inputAt?, hoff m hm]
  · intro m i
    by_cases hm : m = n
    · rw [hm, sent_eq_nil hu', sent_eq_nil hu]
    · rw [sent, sent, outputAt?, outputAt?, hoff m hm]

theorem putNode (h : g.Consistent) {n : NodeId} {node : Node} (hn : g.node? n = none)
    (hu : node.Unlinked) : (g.putNode n node).Consistent := by
  have hk : (g.putNode n node).Keyed := by
    intro m k hm
    rw [node?_putNode] at hm
    split at hm
    · next heq => rw [← Option.some.inj hm, heq]
    · exact h.keyed m k hm
  apply h.congr_off (n := n) hk
  · intro id
    rfl
  · intro m hm
    rw [node?_putNode, if_neg hm]
  · simp [hn]
  · intro k hkn
    rw [node?_putNode, if_pos rfl] at hkn
    rw [← Option.some.inj hkn]
    exact hu

theorem eraseNode (h : g.Consistent) {n : NodeId} (hu : ∀ k, g.node? n = some k → k.Unlinked) :
    Consistent { g with nodes := g.nodes.erase n } := by
  have hk : Graph.Keyed { g with nodes := g.nodes.erase n } := by
    intro m k hm
    rw [node?_eraseNode] at hm
    split at hm
    · simp at hm
    · exact h.keyed m k hm
  apply h.congr_off (n := n) hk
  · intro id
    rfl
  · intro m hm
    rw [node?_eraseNode, if_neg hm]
  · exact hu
  · simp [node?_eraseNode]

theorem setWidget (h : g.Consistent) (n : NodeId) (name value : String) :
    (g.setWidget n name value).Consistent := by
  have hk : (g.setWidget n name value).Keyed := keyed_modifyNode h.keyed n fun _ => rfl
  apply h.congr hk
  · intro id
    rfl
  · intro m i
    rw [held, held, inputAt?_setWidget]
  · intro m i
    rw [sent, sent, outputAt?_setWidget]

end Consistent

end Graph

end NodeVariables
