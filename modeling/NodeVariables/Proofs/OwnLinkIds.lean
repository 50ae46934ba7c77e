import NodeVariables.Graph.Saved
import NodeVariables.Proofs.EditRuns

namespace NodeVariables.Graph

variable {g g' : Graph} {id : NodeId} {k : LinkId}

/-- A node is removed with its links, and no other link is. -/
structure Severed (id : NodeId) (g g' : Graph) : Prop where
  absent : g'.node? id = none
  gone : ∀ k l, g'.link? k = some l → l.touches id = false
  kept : ∀ k l, g.link? k = some l → l.touches id = false → g'.link? k = some l

theorem link?_removeNode (g : Graph) (id : NodeId) (k : LinkId) :
    (g.removeNode id).2.link? k = if k ∈ g.linksAt id then none else g.link? k :=
  link?_foldl_removeLink (g.linksAt id) g k

theorem mem_linksAt_iff :
    k ∈ g.linksAt id ↔ ∃ j l, g.link? j = some l ∧ l.touches id ∧ l.id = k := by
  simp only [linksAt, List.mem_map, List.mem_filter]
  constructor
  · rintro ⟨l, ⟨hl, htouches⟩, hid⟩
    obtain ⟨⟨j, l⟩, hentry, rfl⟩ := List.mem_map.1 hl
    exact ⟨j, l, Table.get?_eq_some_iff.2 hentry, htouches, hid⟩
  · rintro ⟨j, l, hl, htouches, hid⟩
    exact ⟨l, ⟨List.mem_map.2 ⟨(j, l), Table.get?_eq_some_iff.1 hl, rfl⟩, htouches⟩, hid⟩

theorem severed_removeNode_iff : Severed id g (g.removeNode id).2 ↔
    ∀ k l, g.link? k = some l → (l.touches id ↔ k ∈ g.linksAt id) := by
  constructor
  · intro h k l hl
    constructor
    · intro htouches
      by_contra hk
      have hkept : (g.removeNode id).2.link? k = some l := by
        rw [link?_removeNode, if_neg hk, hl]
      simp [h.gone k l hkept] at htouches
    · intro hk
      by_contra htouches
      have hkept := h.kept k l hl (Bool.eq_false_iff.2 htouches)
      rw [link?_removeNode, if_pos hk] at hkept
      simp at hkept
  · intro h
    refine ⟨(node?_eraseNode id _ id).trans (if_pos rfl), fun k l hl => ?_, fun k l hl hno => ?_⟩
    · rw [link?_removeNode] at hl
      split at hl
      · simp at hl
      · next hk => exact Bool.eq_false_iff.2 (mt (h k l hl).1 hk)
    · have hk : k ∉ g.linksAt id := mt (h k l hl).2 (by simp [hno])
      rw [link?_removeNode, if_neg hk, hl]

/-- A node is removed with its links and no others just if the keys of its links are the ids that
they carry, as it is when each of them carries its key. -/
theorem severed_removeNode (g : Graph) (id : NodeId) :
    (Severed id g (g.removeNode id).2 ↔ ∀ k l, g.link? k = some l →
      (l.touches id ↔ ∃ j m, g.link? j = some m ∧ m.touches id ∧ m.id = k)) ∧
    ((∀ k l, g.link? k = some l → l.touches id → l.id = k) →
      Severed id g (g.removeNode id).2) := by
  refine ⟨by simp only [severed_removeNode_iff, mem_linksAt_iff], fun hown => ?_⟩
  rw [severed_removeNode_iff]
  intro k l hl
  rw [mem_linksAt_iff]
  constructor
  · intro htouches
    exact ⟨k, l, hl, htouches, hown k l hl htouches⟩
  · -- the found link is the one under its own id
    rintro ⟨j, m, hm, htouches, hid⟩
    obtain rfl : j = k := (hown j m hm htouches).symm.trans hid
    rwa [Option.some.inj (hl.symm.trans hm)]

/-- A saved graph with a link from each of the nodes 0 and 2 to node 1. The link under the key 0
carries the id of the other one. -/
def crossedText : String :=
  "[\x7b\"0\":[0,\"\",\"\"],\"1\":[1,\"\",\"\"],\"2\":[2,\"\",\"\"]\x7d," ++
  "\x7b\"0\":[1,0,0,1,0],\"1\":[1,2,0,1,0]\x7d]"

def crossed : Graph where
  nodes := .ofList [(0, .new 0 ""), (1, .new 1 ""), (2, .new 2 "")]
  links := .ofList [(0, ⟨1, ⟨0, 0⟩, ⟨1, 0⟩⟩), (1, ⟨1, ⟨2, 0⟩, ⟨1, 0⟩⟩)]
  nextNodeId := 3
  nextLinkId := 2

theorem severed_removeNode_crossed :
    (∀ k l, crossed.link? k = some l → l.touches 2 → l.id = k) ∧
    Severed 2 crossed (crossed.removeNode 2).2 ∧
    (crossed.removeNode 2).2.link? 0 = some ⟨1, ⟨0, 0⟩, ⟨1, 0⟩⟩ := by
  have hown : ∀ k l, crossed.link? k = some l → l.touches 2 → l.id = k := by
    have hentries : ∀ e ∈ crossed.links.entries, e.2.touches 2 → e.2.id = e.1 := by decide
    exact fun k l hl => hentries (k, l) (Table.get?_eq_some_iff.1 hl)
  exact ⟨hown, (severed_removeNode crossed 2).2 hown, by decide⟩

theorem ofText_crossedText : ofText crossedText = .ok crossed := ofText_eq_ok (by decide +kernel)

/-- Not every node of a saved graph is removed with its links and no others. The link from node 0
is still there after its removal, and the link from node 2 is not. -/
theorem not_severed_crossed :
    (¬∀ text g id, ofText text = .ok g → (g.node? id).isSome →
      Severed id g (g.removeNode id).2) ∧
    (crossed.removeNode 0).2.link? 0 = some ⟨1, ⟨0, 0⟩, ⟨1, 0⟩⟩ ∧
    crossed.link? 1 = some ⟨1, ⟨2, 0⟩, ⟨1, 0⟩⟩ ∧ (crossed.removeNode 0).2.link? 1 = none := by
  have hleft : (crossed.removeNode 0).2.link? 0 = some ⟨1, ⟨0, 0⟩, ⟨1, 0⟩⟩ := by decide
  refine ⟨fun h => ?_, hleft, by decide, by decide⟩
  have hgone := (h crossedText crossed 0 ofText_crossedText (by decide)).gone 0 _ hleft
  exact absurd hgone (by decide)

end NodeVariables.Graph
