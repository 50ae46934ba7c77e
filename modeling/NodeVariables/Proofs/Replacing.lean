import NodeVariables.Proofs.Counters
import NodeVariables.Proofs.Linking
/-!
Replacing a node. A node that is added under an id in use takes the place of the node that has the
id, but the links of that node stay in the table. The slots at their other ends still hold them, and
no slot of the new node does. So the table and the slots go on agreeing just if no link touched the
replaced node, and then it is as if that node had been removed first.
-/
namespace NodeVariables.Graph

variable {g g' added : Graph} {removed : List Node} {id : NodeId} {node : Node} {k : LinkId}
  {l : Link} {origin target : Port}

def Untouched (g : Graph) (id : NodeId) : Prop :=
  ∀ k l, g.link? k = some l → l.touches id = false

instance (g : Graph) (id : NodeId) : Decidable (g.Untouched id) :=
  decidable_of_iff (∀ e ∈ g.links.entries, e.2.touches id = false)
    ⟨fun h k l hl => h (k, l) (Table.get?_eq_some_iff.1 hl),
      fun h e he => h e.1 e.2 (Table.get?_eq_some_iff.2 he)⟩

def Lists (g : Graph) (k : LinkId) (l : Link) : Prop :=
  k ∈ g.sent l.origin.node l.origin.slot.toNat ∧
    g.held l.target.node l.target.slot.toNat = some k

/-- Every link that a slot holds is in the table and has its end there. -/
structure Backed (g : Graph) : Prop where
  sent : ∀ n i k, k ∈ g.sent n i → ∃ l, g.link? k = some l ∧ l.origin.IsAt n i
  held : ∀ n i k, g.held n i = some k → ∃ l, g.link? k = some l ∧ l.target.IsAt n i

structure Matched (g : Graph) : Prop extends g.Backed where
  listed : ∀ k l, g.link? k = some l → g.Lists k l

theorem Consistent.matched (h : g.Consistent) : g.Matched where
  sent := h.of_sent
  held := h.of_held
  listed k l hl := by
    refine ⟨?_, h.target k l hl⟩
    rw [← List.count_pos_iff, h.origin k l hl]
    exact Nat.one_pos

/-- A node without links has taken an id. -/
structure Overwritten (id : NodeId) (g added : Graph) : Prop where
  links : ∀ k, added.link? k = g.link? k
  sent : ∀ n i, added.sent n i = if n = id then [] else g.sent n i
  held : ∀ n i, added.held n i = if n = id then none else g.held n i

theorem overwritten_of_addNodeAt (hu : node.Unlinked) (ok : g.addNodeAt id node = .ok added) :
    Overwritten id g added := by
  obtain ⟨-, rfl⟩ := addNodeAt_eq_ok ok
  constructor
  case links => exact fun _ => rfl
  case sent =>
    intro n i
    show (((g.putNode id node).outputAt? n i).map (·.links)).getD [] = _
    rw [outputAt?_putNode]
    split
    · cases hs : node.outputs[i]? with
      | none => rfl
      | some s => exact (hu.output hs).2
    · rfl
  case held =>
    intro n i
    show ((g.putNode id node).inputAt? n i).bind (·.link) = _
    rw [inputAt?_putNode]
    split
    · cases hs : node.inputs[i]? with
      | none => rfl
      | some s => exact (hu.input hs).1
    · rfl

namespace Overwritten

variable (h : Overwritten id g added) (hg : g.Matched)

include h hg

theorem backed : added.Backed where
  sent n i k hmem := by
    rw [h.sent] at hmem
    split at hmem
    · simp at hmem
    · rw [h.links]
      exact hg.sent n i k hmem
  held n i k hheld := by
    rw [h.held] at hheld
    split at hheld
    · simp at hheld
    · rw [h.links]
      exact hg.held n i k hheld

theorem lists_iff (hl : added.link? k = some l) : added.Lists k l ↔ l.touches id = false := by
  rw [h.links] at hl
  obtain ⟨hsent, hheld⟩ := hg.listed k l hl
  rw [Lists, h.sent, h.held, Link.touches]
  by_cases horigin : l.origin.node = id
  · simp [horigin]
  by_cases htarget : l.target.node = id
  · simp [htarget]
  · simp [horigin, htarget, hsent, hheld]

theorem matched_iff : added.Matched ↔ g.Untouched id := by
  constructor
  · intro hmatched k l hl
    have hadded := (h.links k).trans hl
    exact (h.lists_iff hg hadded).1 (hmatched.listed k l hadded)
  · intro huntouched
    refine ⟨h.backed hg, fun k l hl => (h.lists_iff hg hl).2 ?_⟩
    exact huntouched k l ((h.links k).symm.trans hl)

/-- After linking an input to an output the input has the new link, and those that an overwritten
node has left. -/
theorem leadsTo_addLink_iff (ok : added.addLink origin target = .ok (k, g')) (j : LinkId) :
    (∃ l, g'.link? j = some l ∧ l.target = target) ↔
      j = k ∨ target.node = id ∧ ∃ l, g.link? j = some l ∧ l.target = target := by
  obtain ⟨-, -, -, hresult⟩ := addLink_eq_ok ok
  obtain ⟨rfl, rfl⟩ := Prod.mk.inj hresult
  have hnext := (added.clearInput_frame target).1
  have hinto : added.linkInto? target = if target.node = id then none else g.linkInto? target :=
    h.held target.node target.slot.toNat
  have hlink : ((added.clearInput target).attach origin target).link? j =
      if j = added.nextLinkId then some ⟨added.nextLinkId, origin, target⟩
      else if added.linkInto? target = some j then none else g.link? j := by
    rw [link?_attach, hnext, link?_clearInput, h.links]
  rw [hlink]
  by_cases hj : j = added.nextLinkId
  · simp [hj]
  by_cases htarget : target.node = id
  · simp [hj, hinto, htarget]
  -- the link that led to the input was replaced
  · simp only [hj, hinto, htarget, if_false, false_and, or_false, iff_false, not_exists, not_and]
    intro l hl hat
    split at hl
    · simp at hl
    · next hne =>
      apply hne
      rw [← hat]
      exact (hg.listed j l hl).2

end Overwritten

section Removal

theorem Untouched.removeNode_eq (h : g.Untouched id) :
    g.removeNode id = (g.node? id, { g with nodes := g.nodes.erase id }) := by
  have hnone : g.linksAt id = [] := by
    rw [List.eq_nil_iff_forall_not_mem]
    intro k hk
    obtain ⟨j, l, hl, htouches, -⟩ := mem_linksAt_iff.1 hk
    simp [h j l hl] at htouches
  rw [removeNode, isolate, hnone]
  rfl

/-- A node that no link touches can be removed before it is replaced. -/
theorem Untouched.addNodeAt_removeNode (h : g.Untouched id) (node : Node) :
    (g.removeNode id).2.addNodeAt id node = g.addNodeAt id node := by
  have hput (v : Node) : (g.nodes.erase id).insert id v = g.nodes.insert id v := by
    apply Table.ext_get?
    intro j
    rw [Table.get?_insert, Table.get?_insert, Table.get?_erase]
    split <;> rfl
  rw [h.removeNode_eq]
  simp only [addNodeAt, putNode, hput]

end Removal

/-- What replacing a node by one without links leaves of the links. What the slots hold is still in
the table, and every link that did not touch the node is still held at both ends. The other links
are not, and one of them keeps leading to its input when the input is linked anew. Without such
links it is as if the node had been removed first. -/
structure Replacement (id : NodeId) (g added : Graph) : Prop where
  backed : added.Backed
  lists_iff : ∀ k l, added.link? k = some l → (added.Lists k l ↔ l.touches id = false)
  matched_iff : added.Matched ↔ g.Untouched id
  relinked : ∀ origin target k g', added.addLink origin target = .ok (k, g') → ∀ j,
    (∃ l, g'.link? j = some l ∧ l.target = target) ↔
      j = k ∨ target.node = id ∧ ∃ l, g.link? j = some l ∧ l.target = target
  reached : g.Untouched id → ∀ removed, Reached g removed →
    Reached added ((g.removeNode id).1.toList ++ removed)

/-- A node without links that is added under an id, in use or not, is refused and nothing is
changed, or it leaves the links as described. -/
theorem replacement_addNodeAt (hg : g.Matched) (hu : node.Unlinked) (id : NodeId) :
    (topId ≤ id → (addInPlace id node).run.run g = (.error (.limit (.nodeId id)), g)) ∧
    (id < topId → ∃ added, (addInPlace id node).run.run g = (.ok id, added) ∧
      Replacement id g added) := by
  rw [run_addInPlace]
  constructor
  · intro hid
    rw [addNodeAt_of_topId_le g hid]
  · intro hid
    obtain ⟨added, hadd⟩ := exists_addNodeAt_of_lt g hid node
    have hover := overwritten_of_addNodeAt hu hadd
    rw [hadd]
    refine ⟨added, rfl, ?_⟩
    constructor
    case backed => exact hover.backed hg
    case lists_iff => exact fun k l hl => hover.lists_iff hg hl
    case matched_iff => exact hover.matched_iff hg
    case relinked => exact fun origin target k g' ok => hover.leadsTo_addLink_iff hg ok
    case reached =>
      intro huntouched removed hreached
      rw [← huntouched.addNodeAt_removeNode] at hadd
      exact .addNodeAt id node (.removeNode id hreached) (.inl hu) (node?_removeNode_self g id) hadd

/-- The loader of masks, which feeds nothing, makes room for a Set node. -/
def refilled : Graph := { contested.putNode 2 (.setGlobal 0 "mask") with nextNodeId := 3 }

theorem replacement_refilled :
    contested.Matched ∧ (Node.setGlobal 0 "mask").Unlinked ∧ (2 : NodeId) < topId ∧
    (contested.node? 2).isSome ∧
    (addInPlace 2 (.setGlobal 0 "mask")).run.run contested = (.ok 2, refilled) ∧
    refilled.Matched ∧ Reached refilled [{ maskLoader with id := 2 }] ∧
    ∃ g', refilled.addLink ⟨0, 0⟩ ⟨2, 0⟩ = .ok (1, g') ∧
      ∀ j, (∃ l, g'.link? j = some l ∧ l.target = ⟨2, 0⟩) ↔ j = 1 := by
  have hreached : Reached contested [] :=
    .addNode maskLoader reached_joined (.inl (by decide)) (by decide)
  have hu : (Node.setGlobal 0 "mask").Unlinked := by decide
  have hrun : (addInPlace 2 (.setGlobal 0 "mask")).run.run contested = (.ok 2, refilled) := rfl
  have hmatched : contested.Matched := hreached.linked.1.consistent.matched
  obtain ⟨added, hadded, hreplacement⟩ := (replacement_addNodeAt hmatched hu 2).2 (by decide)
  obtain rfl : refilled = added := congrArg Prod.snd (hrun.symm.trans hadded)
  have huntouched : contested.Untouched 2 := by decide
  have ok : refilled.addLink ⟨0, 0⟩ ⟨2, 0⟩ =
      .ok (1, (refilled.clearInput ⟨2, 0⟩).attach ⟨0, 0⟩ ⟨2, 0⟩) := rfl
  refine ⟨hmatched, hu, by decide, by decide, hrun, hreplacement.matched_iff.2 huntouched,
    hreplacement.reached huntouched [] hreached, _, ok, fun j => ?_⟩
  rw [hreplacement.relinked _ _ _ _ ok j]
  constructor
  · rintro (rfl | ⟨-, l, hl, htarget⟩)
    · rfl
    · have htouches := huntouched j l hl
      simp [Link.touches, htarget] at htouches
  · exact .inl

/-- The Set node that the loader feeds is replaced by one like it. -/
def usurped : Graph := { joined.putNode 1 (.setGlobal 0 "image") with nextNodeId := 2 }

/-- Not every node can be replaced without the table and the slots disagreeing. The link of a
replaced node is still in the table, and when the input is linked again, two links lead to it. -/
theorem not_matched_usurped :
    (¬∀ g removed id node added, Reached g removed → g.Matched → (g.node? id).isSome →
      node.Unlinked → g.addNodeAt id node = .ok added → added.Matched) ∧
    usurped.link? 0 = some ⟨0, ⟨0, 0⟩, ⟨1, 0⟩⟩ ∧ usurped.linkInto? ⟨1, 0⟩ = none ∧
    ∃ g', usurped.addLink ⟨0, 0⟩ ⟨1, 0⟩ = .ok (1, g') ∧
      g'.link? 0 = some ⟨0, ⟨0, 0⟩, ⟨1, 0⟩⟩ ∧ g'.link? 1 = some ⟨1, ⟨0, 0⟩, ⟨1, 0⟩⟩ := by
  have hlink : usurped.link? 0 = some ⟨0, ⟨0, 0⟩, ⟨1, 0⟩⟩ := by decide
  have hfree : usurped.linkInto? ⟨1, 0⟩ = none := by decide
  refine ⟨fun h => ?_, hlink, hfree, _, rfl, by decide, by decide⟩
  have hmatched : usurped.Matched :=
    h joined [] 1 (.setGlobal 0 "image") usurped reached_joined
      reached_joined.linked.1.consistent.matched (by decide) (by decide) rfl
  have hheld : usurped.linkInto? ⟨1, 0⟩ = some 0 := (hmatched.listed 0 _ hlink).2
  simp [hfree] at hheld

end NodeVariables.Graph
