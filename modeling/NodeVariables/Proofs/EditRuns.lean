import NodeVariables.Proofs.Wiring

namespace NodeVariables

/-- Both counters stay above the ids in use, as long as they have a next value. -/
theorem lt_add_one_of_le {a b : UInt64} (h : a ≤ b) (hb : b.toNat < lastId) : a < b + 1 := by
  rw [UInt64.lt_iff_toNat_lt, UInt64.toNat_add]
  rw [UInt64.le_iff_toNat_le] at h
  have hone : (1 : UInt64).toNat = 1 := rfl
  have hlast : lastId = 2 ^ 64 - 1 := rfl
  omega

theorem le_max_both (a b : UInt64) : a ≤ max a b ∧ b ≤ max a b := by
  show a ≤ (if a ≤ b then b else a) ∧ b ≤ (if a ≤ b then b else a)
  split
  · next h => exact ⟨h, UInt64.le_refl b⟩
  · next h => exact ⟨UInt64.le_refl a, (UInt64.le_total a b).resolve_left h⟩

namespace Graph

/-- The graphs that are reached from the empty one, each with the nodes that were returned when they
were removed. A node can be added if it holds no link or was returned before; a counter without a
next value ends a run. -/
inductive Reached : Graph → List Node → Prop where
  | empty : Reached {} []
  | addNode {g : Graph} {removed : List Node} (node : Node) (reached : Reached g removed)
      (free : node.Unlinked ∨ node ∈ removed) (room : g.nextNodeId.toNat < lastId) :
      Reached (g.addNode node).2 removed
  | addNodeAt {g added : Graph} {removed : List Node} (id : NodeId) (node : Node)
      (reached : Reached g removed) (free : node.Unlinked ∨ node ∈ removed)
      (unused : g.node? id = none) (ok : g.addNodeAt id node = .ok added) : Reached added removed
  | addLink {g : Graph} {removed : List Node} (origin target : Port) {result : LinkId × Graph}
      (reached : Reached g removed) (room : g.nextLinkId.toNat < lastId)
      (ok : g.addLink origin target = .ok result) : Reached result.2 removed
  | removeLink {g : Graph} {removed : List Node} (id : LinkId) (reached : Reached g removed) :
      Reached (g.removeLink id) removed
  | removeNode {g : Graph} {removed : List Node} (id : NodeId) (reached : Reached g removed) :
      Reached (g.removeNode id).2 ((g.removeNode id).1.toList ++ removed)
  | setWidget {g : Graph} {removed : List Node} (id : NodeId) (name value : String)
      (reached : Reached g removed) : Reached (g.setWidget id name value) removed
  | session {g : Graph} {removed : List Node} {s : Session} {next : Session × Graph}
      (reached : Reached g removed) (step : s.Step g next) : Reached next.2 removed

/-- Inputs hold a link in `link` only and outputs in `links` only. -/
structure OneSided (g : Graph) : Prop where
  inputs : ∀ n i s, g.inputAt? n i = some s → s.links = []
  outputs : ∀ n i s, g.outputAt? n i = some s → s.link = none

/-- The counter of nodes is above every id in use, as it is in every graph that was loaded or that
grew from the empty one. -/
def NodesBelow (g : Graph) : Prop := ∀ n ∈ g.nodes.keys, n < g.nextNodeId

def LinksBelow (g : Graph) : Prop := ∀ id l, g.link? id = some l → id < g.nextLinkId

theorem NodesBelow.node?_nextNodeId {g : Graph} (h : g.NodesBelow) :
    g.node? g.nextNodeId = none := by
  rw [Option.eq_none_iff_forall_ne_some]
  exact fun _ hn => UInt64.lt_irrefl _ (h _ (mem_keys_of_node? hn))

theorem LinksBelow.link?_nextLinkId {g : Graph} (h : g.LinksBelow) :
    g.link? g.nextLinkId = none := by
  rw [Option.eq_none_iff_forall_ne_some]
  exact fun l hl => UInt64.lt_irrefl _ (h _ l hl)

/-- What a run keeps: consistency, links between different nodes, slots that hold links on their own
side only, and counters above the ids in use. -/
structure Linked (g : Graph) : Prop where
  consistent : g.Consistent
  apart : ∀ id l, g.link? id = some l → l.origin.node ≠ l.target.node
  oneSided : g.OneSided
  nodes_below : ∀ n ∈ g.nodes.keys, n < g.nextNodeId
  links_below : ∀ id l, g.link? id = some l → id < g.nextLinkId

theorem keys_putNode (g : Graph) (id : NodeId) (node : Node) (n : NodeId) :
    n ∈ (g.putNode id node).nodes.keys ↔ n = id ∨ n ∈ g.nodes.keys := by
  rw [Table.mem_keys_iff, Table.mem_keys_iff, putNode]
  by_cases hn : n = id <;> simp [Table.get?_insert, hn]

theorem nextNodeId_removeLink (g : Graph) (id : LinkId) :
    (g.removeLink id).nextNodeId = g.nextNodeId := by
  cases hl : g.link? id with
  | none => rw [removeLink_of_none hl]
  | some l =>
    rw [removeLink_of_some hl]
    rfl

theorem link?_foldl_removeLink (ids : List LinkId) (g : Graph) (k : LinkId) :
    (ids.foldl removeLink g).link? k = if k ∈ ids then none else g.link? k := by
  induction ids generalizing g with
  | nil => simp
  | cons id rest ih =>
    rw [List.foldl_cons, ih, link?_removeLink]
    by_cases hk : k = id <;> simp [hk]

theorem isSome_node?_iff {g : Graph} {id : NodeId} :
    (g.node? id).isSome = true ↔ id ∈ g.nodes.keys := by
  rw [Table.mem_keys_iff, Option.isSome_iff_exists]
  rfl

theorem keys_isolate (g : Graph) (id : NodeId) : (g.isolate id).nodes.keys = g.nodes.keys := by
  unfold isolate
  generalize g.linksAt id = ids
  induction ids generalizing g with
  | nil => rfl
  | cons k rest ih => rw [List.foldl_cons, ih, keys_removeLink]

theorem node?_of_eraseNode {g : Graph} {id n : NodeId} {k : Node}
    (hn : node? { g with nodes := g.nodes.erase id } n = some k) : g.node? n = some k := by
  rw [node?_eraseNode] at hn
  split at hn
  · simp at hn
  · exact hn

namespace OneSided

variable {g : Graph}

theorem empty : OneSided {} where
  inputs n i s hs := by simp [inputAt?, node?] at hs
  outputs n i s hs := by simp [outputAt?, node?] at hs

theorem modifyInput (h : g.OneSided) (p : Port) {f : Slot → Slot}
    (hf : ∀ s, s.links = [] → (f s).links = []) : (g.modifyInput p f).OneSided where
  inputs n i s hs := by
    rw [inputAt?_modifyInput] at hs
    split at hs
    · obtain ⟨t, ht, rfl⟩ := Option.map_eq_some_iff.1 hs
      exact hf t (h.inputs n i t ht)
    · exact h.inputs n i s hs
  outputs n i := by
    rw [outputAt?_modifyInput]
    exact h.outputs n i

theorem modifyOutput (h : g.OneSided) (p : Port) {f : Slot → Slot}
    (hf : ∀ s, s.link = none → (f s).link = none) : (g.modifyOutput p f).OneSided where
  inputs n i := by
    rw [inputAt?_modifyOutput]
    exact h.inputs n i
  outputs n i s hs := by
    rw [outputAt?_modifyOutput] at hs
    split at hs
    · obtain ⟨t, ht, rfl⟩ := Option.map_eq_some_iff.1 hs
      exact hf t (h.outputs n i t ht)
    · exact h.outputs n i s hs

theorem removeLink (h : g.OneSided) (id : LinkId) : (g.removeLink id).OneSided := by
  cases hl : g.link? id with
  | none => rwa [removeLink_of_none hl]
  | some l =>
    rw [removeLink_of_some hl]
    apply modifyInput
    · apply modifyOutput
      · exact ⟨h.inputs, h.outputs⟩
      · intro s hs
        exact hs
    · intro s hs
      rw [← hs, Slot.unlink]
      split <;> rfl

theorem attach (h : g.OneSided) (origin target : Port) : (g.attach origin target).OneSided := by
  unfold Graph.attach
  apply modifyInput
  · apply modifyOutput
    · exact ⟨h.inputs, h.outputs⟩
    · intro s hs
      exact hs
  · intro s hs
    exact hs

theorem putNode (h : g.OneSided) {id next : NodeId} {node : Node} (hu : node.Unlinked) :
    OneSided { g.putNode id node with nextNodeId := next } where
  inputs n i s hs := by
    have hput := (inputAt?_putNode n i g id node).symm.trans hs
    split at hput
    · exact (hu.input hput).2
    · exact h.inputs n i s hput
  outputs n i s hs := by
    have hput := (outputAt?_putNode n i g id node).symm.trans hs
    split at hput
    · exact (hu.output hput).1
    · exact h.outputs n i s hput

theorem eraseNode (h : g.OneSided) (id : NodeId) :
    OneSided { g with nodes := g.nodes.erase id } where
  inputs n i s hs := by
    obtain ⟨k, hk, hs⟩ := Option.bind_eq_some_iff.1 hs
    exact h.inputs n i s (Option.bind_eq_some_iff.2 ⟨k, node?_of_eraseNode hk, hs⟩)
  outputs n i s hs := by
    obtain ⟨k, hk, hs⟩ := Option.bind_eq_some_iff.1 hs
    exact h.outputs n i s (Option.bind_eq_some_iff.2 ⟨k, node?_of_eraseNode hk, hs⟩)

theorem setWidget (h : g.OneSided) (id : NodeId) (name value : String) :
    (g.setWidget id name value).OneSided where
  inputs n i := by
    rw [inputAt?_setWidget]
    exact h.inputs n i
  outputs n i := by
    rw [outputAt?_setWidget]
    exact h.outputs n i

theorem congr_bare {g' : Graph} (h : g.OneSided) (hb : g'.bare = g.bare) : g'.OneSided where
  inputs n i s hs := by
    rw [view_eq (fun g => g.inputAt? n i) (fun g => g.inputAt?_bare n i) hb] at hs
    exact h.inputs n i s hs
  outputs n i s hs := by
    have ho := view_eq (fun g => (g.outputAt? n i).map Slot.bare) (fun g => g.outputAt?_bare n i) hb
    simp only [hs, Option.map_some] at ho
    obtain ⟨t, ht, hst⟩ := Option.map_eq_some_iff.1 ho.symm
    have hlink : s.link = t.link := (congrArg Slot.link hst).symm
    rw [hlink]
    exact h.outputs n i t ht

end OneSided

namespace Linked

variable {g : Graph}

theorem empty : Linked {} where
  consistent := by
    have hnode (id : NodeId) : node? {} id = none := rfl
    have hlink (id : LinkId) : link? {} id = none := rfl
    refine ⟨?_, ?_, ?_, ?_, ?_, ?_⟩
    all_goals simp [Keyed, held, sent, inputAt?, outputAt?, hnode, hlink]
  apart id l hl := by simp [link?] at hl
  oneSided := .empty
  nodes_below n hn := by
    obtain ⟨k, hk⟩ := Table.mem_keys_iff.1 hn
    simp at hk
  links_below id l hl := by simp [link?] at hl

theorem link?_nextLinkId (h : g.Linked) : g.link? g.nextLinkId = none :=
  LinksBelow.link?_nextLinkId h.links_below

theorem node?_nextNodeId (h : g.Linked) : g.node? g.nextNodeId = none :=
  NodesBelow.node?_nextNodeId h.nodes_below

theorem congr_bare {g' : Graph} (h : g.Linked) (hb : g'.bare = g.bare) : g'.Linked where
  consistent := h.consistent.congr_bare hb
  apart id l hl := h.apart id l ((link?_of_bare_eq hb id).symm.trans hl)
  oneSided := h.oneSided.congr_bare hb
  nodes_below := by
    have hnext : g'.nextNodeId = g.nextNodeId := view_eq nextNodeId (fun _ => rfl) hb
    rw [keys_of_bare_eq hb, hnext]
    exact h.nodes_below
  links_below := by
    have hnext : g'.nextLinkId = g.nextLinkId := view_eq nextLinkId (fun _ => rfl) hb
    intro id l hl
    rw [hnext]
    exact h.links_below id l ((link?_of_bare_eq hb id).symm.trans hl)

theorem removeLink (h : g.Linked) (id : LinkId) : (g.removeLink id).Linked where
  consistent := h.consistent.removeLink id
  apart j l hl := h.apart j l (link?_of_removeLink hl).2
  oneSided := h.oneSided.removeLink id
  nodes_below := by
    rw [keys_removeLink, nextNodeId_removeLink]
    exact h.nodes_below
  links_below := by
    intro j l hl
    rw [nextLinkId_removeLink]
    exact h.links_below j l (link?_of_removeLink hl).2

theorem setWidget (h : g.Linked) (n : NodeId) (name value : String) :
    (g.setWidget n name value).Linked where
  consistent := h.consistent.setWidget n name value
  apart := h.apart
  oneSided := h.oneSided.setWidget n name value
  nodes_below := by
    rw [Graph.setWidget, modifyNode, Table.keys_modify]
    exact h.nodes_below
  links_below := h.links_below

theorem attach (h : g.Linked) {origin target : Port} (hne : origin.node ≠ target.node)
    (room : g.nextLinkId.toNat < lastId) (hc : (g.attach origin target).Consistent) :
    (g.attach origin target).Linked where
  consistent := hc
  apart := by
    intro j l hl
    obtain ⟨-, hlink⟩ | ⟨-, hl⟩ := link?_attach_cases hl
    · rw [hlink]
      exact hne
    · exact h.apart j l hl
  oneSided := h.oneSided.attach origin target
  nodes_below := by
    rw [keys_attach]
    exact h.nodes_below
  links_below := by
    intro j l hl
    have hnext : (g.attach origin target).nextLinkId = g.nextLinkId + 1 := rfl
    rw [hnext]
    apply lt_add_one_of_le _ room
    obtain ⟨hj, -⟩ | ⟨-, hl⟩ := link?_attach_cases hl
    · rw [hj]
      exact UInt64.le_refl _
    · exact UInt64.le_of_lt (h.links_below j l hl)

theorem clearInput (h : g.Linked) (target : Port) : (g.clearInput target).Linked := by
  obtain ⟨-, hg⟩ | ⟨id, -, hg⟩ := clearInput_cases g target
  · rwa [hg]
  · rw [hg]
    exact h.removeLink id

theorem addLink (h : g.Linked) {origin target : Port} {result : LinkId × Graph}
    (room : g.nextLinkId.toNat < lastId) (ok : g.addLink origin target = .ok result) :
    result.2.Linked := by
  have hc := h.consistent.addLink h.link?_nextLinkId ok
  obtain ⟨hne, -, -, rfl⟩ := addLink_eq_ok ok
  apply (h.clearInput target).attach hne _ hc
  obtain ⟨-, hg⟩ | ⟨id, -, hg⟩ := clearInput_cases g target
  · rwa [hg]
  · rwa [hg, nextLinkId_removeLink]

/-- A node without links under an unused id, with a counter that is above all ids again. -/
theorem putNode (h : g.Linked) {id next : NodeId} {node : Node} (hid : g.node? id = none)
    (hu : node.Unlinked) (hlt : id < next) (hle : g.nextNodeId ≤ next) :
    Linked { g.putNode id node with nextNodeId := next } where
  consistent := by
    have hput := h.consistent.putNode hid hu
    exact hput.congr hput.keyed (fun _ => rfl) (fun _ _ => rfl) fun _ _ => rfl
  apart := h.apart
  oneSided := h.oneSided.putNode hu
  nodes_below := by
    intro n hn
    rcases (keys_putNode g id node n).1 hn with rfl | hn
    · exact hlt
    · exact UInt64.lt_of_lt_of_le (h.nodes_below n hn) hle
  links_below := h.links_below

theorem addNode (h : g.Linked) {node : Node} (hu : node.Unlinked)
    (room : g.nextNodeId.toNat < lastId) : (g.addNode node).2.Linked := by
  have hlt := lt_add_one_of_le (UInt64.le_refl g.nextNodeId) room
  exact h.putNode h.node?_nextNodeId hu hlt (UInt64.le_of_lt hlt)

theorem addNodeAt (h : g.Linked) {id : NodeId} {node : Node} {added : Graph} (hu : node.Unlinked)
    (hid : g.node? id = none) (ok : g.addNodeAt id node = .ok added) : added.Linked := by
  unfold Graph.addNodeAt at ok
  split at ok
  · next hroom =>
    have hlt : id < id + 1 := lt_add_one_of_le (UInt64.le_refl id) (by omega)
    obtain ⟨hnext, hsucc⟩ := le_max_both g.nextNodeId (id + 1)
    rw [← Except.ok.inj ok]
    exact h.putNode hid hu (UInt64.lt_of_lt_of_le hlt hsucc) hnext
  · simp at ok

theorem foldl_removeLink (h : g.Linked) (ids : List LinkId) :
    (ids.foldl Graph.removeLink g).Linked := by
  induction ids generalizing g with
  | nil => exact h
  | cons id rest ih => exact ih (h.removeLink id)

theorem eraseNode (h : g.Linked) {id : NodeId} (hu : ∀ k, g.node? id = some k → k.Unlinked) :
    Linked { g with nodes := g.nodes.erase id } where
  consistent := h.consistent.eraseNode hu
  apart := h.apart
  oneSided := h.oneSided.eraseNode id
  nodes_below := by
    intro n hn
    obtain ⟨k, hk⟩ := Table.mem_keys_iff.1 hn
    exact h.nodes_below n (mem_keys_of_node? (node?_of_eraseNode hk))
  links_below := h.links_below

/-- A node that no link touches holds no link. -/
theorem unlinked_of_untouched (h : g.Linked) {id : NodeId}
    (hno : ∀ k l, g.link? k = some l → l.touches id = false) {n : Node}
    (hn : g.node? id = some n) : n.Unlinked := by
  intro s hs
  rw [Slot.isConnected_eq_false_iff]
  rcases List.mem_append.1 hs with hs | hs
  · obtain ⟨i, hi⟩ := List.mem_iff_getElem?.1 hs
    have hat : g.inputAt? id i = some s := by rw [inputAt?, hn, Option.bind_some, hi]
    refine ⟨?_, h.oneSided.inputs id i s hat⟩
    -- a link that the input holds ends at the node
    cases hlink : s.link with
    | none => rfl
    | some k =>
      obtain ⟨l, hl, htarget⟩ := h.consistent.of_held id i k (held_eq_some_iff.2 ⟨s, hat, hlink⟩)
      have htouches := hno k l hl
      simp [Link.touches, htarget.1] at htouches
  · obtain ⟨i, hi⟩ := List.mem_iff_getElem?.1 hs
    have hat : g.outputAt? id i = some s := by rw [outputAt?, hn, Option.bind_some, hi]
    refine ⟨h.oneSided.outputs id i s hat, ?_⟩
    rw [List.eq_nil_iff_forall_not_mem]
    intro k hk
    obtain ⟨l, hl, horigin⟩ := h.consistent.of_sent id i k (mem_sent_iff.2 ⟨s, hat, hk⟩)
    have htouches := hno k l hl
    simp [Link.touches, horigin.1] at htouches

theorem isolate (h : g.Linked) (id : NodeId) : (g.isolate id).Linked :=
  h.foldl_removeLink (g.linksAt id)

/-- Isolating a node removes all links that touch it. -/
theorem untouched_isolate (h : g.Linked) (id : NodeId) (k : LinkId) (l : Link)
    (hl : (g.isolate id).link? k = some l) : l.touches id = false := by
  rw [Graph.isolate, link?_foldl_removeLink] at hl
  split at hl
  · simp at hl
  · next hk =>
    cases ht : l.touches id with
    | false => rfl
    | true =>
      have hmem : l ∈ g.links.values := List.mem_map.2 ⟨(k, l), Table.get?_eq_some_iff.1 hl, rfl⟩
      refine absurd ?_ hk
      rw [linksAt, List.mem_map]
      exact ⟨l, List.mem_filter.2 ⟨hmem, ht⟩, h.consistent.link_id k l hl⟩

theorem unlinked_isolate (h : g.Linked) (id : NodeId) (n : Node)
    (hn : (g.isolate id).node? id = some n) : n.Unlinked :=
  (h.isolate id).unlinked_of_untouched (h.untouched_isolate id) hn

theorem removeNode (h : g.Linked) (id : NodeId) : (g.removeNode id).2.Linked :=
  (h.isolate id).eraseNode (h.unlinked_isolate id)

end Linked

/-- Every graph of a run is linked, and every node that was returned holds no link. -/
theorem Reached.linked {g : Graph} {removed : List Node} (h : Reached g removed) :
    g.Linked ∧ ∀ n ∈ removed, n.Unlinked := by
  induction h with
  | empty => exact ⟨.empty, by simp⟩
  | addNode node _ free room ih =>
    exact ⟨ih.1.addNode (free.elim id (ih.2 node)) room, ih.2⟩
  | addNodeAt id node _ free unused ok ih =>
    exact ⟨ih.1.addNodeAt (free.elim (·) (ih.2 node)) unused ok, ih.2⟩
  | addLink origin target _ room ok ih => exact ⟨ih.1.addLink room ok, ih.2⟩
  | removeLink id _ ih => exact ⟨ih.1.removeLink id, ih.2⟩
  | removeNode id _ ih =>
    refine ⟨ih.1.removeNode id, ?_⟩
    intro n hn
    rcases List.mem_append.1 hn with hn | hn
    · exact ih.1.unlinked_isolate id n (Option.mem_toList.1 hn)
    · exact ih.2 n hn
  | setWidget id name value _ ih => exact ⟨ih.1.setWidget id name value, ih.2⟩
  | session _ step ih => exact ⟨ih.1.congr_bare (step.bare_eq ih.1.consistent.keyed), ih.2⟩

/-- In every graph that is reached, the table of links and the slots agree, no two links lead to one
input, and removing a node leaves no link of it, neither in the node nor in the table. -/
theorem consistent_of_reached {g : Graph} {removed : List Node} (h : Reached g removed) :
    g.Consistent ∧
    (∀ id l, g.link? id = some l → l.origin.node ≠ l.target.node ∧
      (g.output? l.origin).isSome ∧ (g.input? l.target).isSome) ∧
    (∀ a b la lb, g.link? a = some la → g.link? b = some lb → la.target = lb.target → a = b) ∧
    ∀ id, ((g.removeNode id).1.isSome = (g.node? id).isSome) ∧
      (∀ n, (g.removeNode id).1 = some n → n.Unlinked) ∧
      ∀ k l, (g.removeNode id).2.link? k = some l → l.touches id = false := by
  have hg := h.linked.1
  refine ⟨hg.consistent, ?_, ?_, ?_⟩
  · intro id l hl
    exact ⟨hg.apart id l hl, hg.consistent.origin_isSome hl, hg.consistent.target_isSome hl⟩
  · intro a b la lb ha hb
    exact hg.consistent.eq_of_target_eq ha hb
  · intro id
    refine ⟨?_, hg.unlinked_isolate id, hg.untouched_isolate id⟩
    rw [Bool.eq_iff_iff, isSome_node?_iff, Graph.removeNode, isSome_node?_iff, keys_isolate]

def imageLoader : Node := Node.new 0 "LoadImage" |>.addOutput "IMAGE" ⟨"IMAGE"⟩

def joined : Graph :=
  ((addNode {} imageLoader).2.addNode (.setGlobal 0 "image")).2.attach ⟨0, 0⟩ ⟨1, 0⟩

/-- The loader is removed after a pass and added again with a new link. -/
def rejoined : Graph :=
  (((Session.standard.sweep joined).2.removeNode 0).2.addNode imageLoader).2.attach ⟨2, 0⟩ ⟨1, 0⟩

theorem reached_joined : Reached joined [] := by
  have hloader : Reached (addNode {} imageLoader).2 [] :=
    .addNode imageLoader .empty (.inl (by decide)) (by decide)
  have hset : Reached ((addNode {} imageLoader).2.addNode (.setGlobal 0 "image")).2 [] :=
    .addNode _ hloader (.inl (by decide)) (by decide)
  have hlink : ((addNode {} imageLoader).2.addNode (.setGlobal 0 "image")).2.addLink ⟨0, 0⟩ ⟨1, 0⟩ =
      .ok (0, joined) := rfl
  exact .addLink _ _ hset (by decide) hlink

theorem consistent_rejoined :
    Reached rejoined [imageLoader] ∧ rejoined.Consistent ∧
    rejoined.link? 1 = some ⟨1, ⟨2, 0⟩, ⟨1, 0⟩⟩ ∧
    ∀ n, (rejoined.removeNode 1).1 = some n → n.Unlinked := by
  have hswept : Reached (Session.standard.sweep joined).2 [] := .session reached_joined .pass
  have hremoved := Reached.removeNode 0 hswept
  have hreturned : ((Session.standard.sweep joined).2.removeNode 0).1 = some imageLoader := by
    decide
  rw [hreturned] at hremoved
  have hadded := Reached.addNode imageLoader hremoved (.inr (by simp)) (by decide)
  have hlink : (((Session.standard.sweep joined).2.removeNode 0).2.addNode imageLoader).2.addLink
      ⟨2, 0⟩ ⟨1, 0⟩ = .ok (1, rejoined) := rfl
  have hrejoined : Reached rejoined [imageLoader] := .addLink _ _ hadded (by decide) hlink
  obtain ⟨hc, -, -, hn⟩ := consistent_of_reached hrejoined
  exact ⟨hrejoined, hc, by decide, (hn 1).2.1⟩

end Graph

end NodeVariables
