import NodeVariables.Graph.Saved
import NodeVariables.Proofs.Written
/-!
A full pass over a graph whose nodes need not carry their keys, such as a saved graph may hold. The
pass finds the Set and Get nodes by their keys, but writes what it finds for a node on the node
whose key is the id that the found one carries. So it does right where every named Set and Get node
carries its key, whatever the other nodes carry.
-/
namespace NodeVariables.Graph

variable {g : Graph} {palette : Palette} {c : Cache} {id j : NodeId} {name : String}
  {type : TypeName} {n : Node} {slot : Slot}

/-- Every Set and every Get node with a variable carries its key. -/
def OwnIds (g : Graph) : Prop :=
  ∀ id n, g.node? id = some n → n.isGlobal → n.variableName?.isSome → n.id = id

instance (g : Graph) : Decidable g.OwnIds :=
  decidable_of_iff
    (∀ e ∈ g.nodes.entries, e.2.isGlobal → e.2.variableName?.isSome → e.2.id = e.1)
    ⟨fun h id n hn => h (id, n) (Table.get?_eq_some_iff.1 hn),
      fun h e he => h e.1 e.2 (Table.get?_eq_some_iff.2 he)⟩

/-- The node with a key is a Set or a Get node with a variable and carries an id. -/
def Carries (g : Graph) (j id : NodeId) : Prop :=
  ∃ n, g.node? j = some n ∧ n.isGlobal ∧ n.variableName?.isSome ∧ n.id = id

/-- After a pass the Get nodes show what is recorded, the Set nodes what fed them, and the other
nodes are as they were. -/
structure ShownRight (palette : Palette) (c : Cache) (g : Graph) : Prop where
  gets : ∀ id n name slot, g.node? id = some n → n.isGet → n.variableName? = some name →
    n.output? Node.valueSlot = some slot →
    ((g.pass palette c).2.2.output? (valuePort id)).map Slot.type =
      some (((g.pass palette c).2.1.get? name).getD .wildcard)
  sets : ∀ id n slot, g.node? id = some n → n.isSet → n.variableName?.isSome →
    n.output? Node.valueSlot = some slot →
    ((g.pass palette c).2.2.output? (valuePort id)).map Slot.type = some (g.sourceType n)
  others : ∀ id n, g.node? id = some n → (n.isGlobal → n.variableName? = none) →
    (g.pass palette c).2.2.node? id = some n

theorem mem_values_iff : n ∈ g.nodes.values ↔ ∃ j, g.node? j = some n := by
  constructor
  · intro h
    obtain ⟨⟨j, m⟩, hm, rfl⟩ := List.mem_map.1 h
    exact ⟨j, Table.get?_eq_some_iff.2 hm⟩
  · rintro ⟨j, hn⟩
    exact List.mem_map.2 ⟨(j, n), Table.get?_eq_some_iff.1 hn, rfl⟩

theorem mem_setTypes_iff : (valuePort id, type) ∈ g.setTypes ↔
    ∃ j n, g.node? j = some n ∧ n.isSet ∧ n.variableName?.isSome ∧ n.id = id ∧
      g.sourceType n = type := by
  simp only [setTypes, bindings, List.mem_map, List.mem_filterMap, List.mem_filter,
    mem_values_iff, Option.map_eq_some_iff, Prod.mk.injEq, valuePort_injective.eq_iff]
  constructor
  · rintro ⟨b, ⟨n, ⟨⟨j, hn⟩, hs⟩, name, hv, rfl⟩, hid, htype⟩
    exact ⟨j, n, hn, hs, by simp [hv], hid, htype⟩
  · rintro ⟨j, n, hn, hs, hv, hid, htype⟩
    obtain ⟨name, hv⟩ := Option.isSome_iff_exists.1 hv
    exact ⟨_, ⟨n, ⟨⟨j, hn⟩, hs⟩, name, hv, rfl⟩, hid, htype⟩

theorem mem_getTypes_iff : (valuePort id, type) ∈ g.getTypes c ↔
    ∃ j n name, g.node? j = some n ∧ n.isGet ∧ n.variableName? = some name ∧ n.id = id ∧
      (c.get? name).getD .wildcard = type := by
  simp only [getTypes, readers, List.mem_map, List.mem_filterMap, List.mem_filter,
    mem_values_iff, Option.map_eq_some_iff, Prod.mk.injEq, valuePort_injective.eq_iff]
  constructor
  · rintro ⟨r, ⟨n, ⟨⟨j, hn⟩, hg⟩, name, hv, rfl⟩, hid, htype⟩
    exact ⟨j, n, name, hn, hg, hv, hid, htype⟩
  · rintro ⟨j, n, name, hn, hg, hv, hid, htype⟩
    exact ⟨_, ⟨n, ⟨⟨j, hn⟩, hg⟩, name, hv, rfl⟩, hid, htype⟩

/-- What is written on a node is written for a node that carries its key. -/
theorem carries_of_mem_written (h : (valuePort id, type) ∈ g.written c) : ∃ j, g.Carries j id := by
  rcases List.mem_append.1 h with h | h
  · obtain ⟨j, n, hn, hs, hv, hid, -⟩ := mem_setTypes_iff.1 h
    exact ⟨j, n, hn, by simp [Node.isGlobal, hs], hv, hid⟩
  · obtain ⟨j, n, name, hn, hg, hv, hid, -⟩ := mem_getTypes_iff.1 h
    exact ⟨j, n, hn, by simp [Node.isGlobal, hg], by simp [hv], hid⟩

/-- A node whose key no named Set or Get node carries is left as it is. -/
theorem node?_pass_of_not_carries (palette : Palette) (c : Cache) (h : ∀ j, ¬g.Carries j id) :
    (g.pass palette c).2.2.node? id = g.node? id := by
  have hnone : lastOn (g.written c) (valuePort id) = none := by
    apply lastOn_of_not_mem
    intro hp
    obtain ⟨⟨p, type⟩, hx, rfl⟩ := List.mem_map.1 hp
    obtain ⟨j, hj⟩ := carries_of_mem_written hx
    exact h j hj
  rw [node?_pass, hnone]
  exact Option.map_id' ..

section Alone

variable (hn : g.node? id = some n) (hid : n.id = id) (hid' : ∀ j, g.Carries j id → j = id)

include hn hid hid'

/-- A Get node that alone carries its key is shown what is recorded for its variable. -/
theorem lastOn_written_of_isGet (hg : n.isGet) (hv : n.variableName? = some name) :
    lastOn (g.written c) (valuePort id) =
      some (((g.recorded c).get? name).getD .wildcard) := by
  have hmem : (valuePort id, ((g.recorded c).get? name).getD .wildcard) ∈
      g.getTypes (g.recorded c) :=
    mem_getTypes_iff.2 ⟨id, n, name, hn, hg, hv, hid, rfl⟩
  rw [written, lastOn_append, lastOn_of_forall (List.mem_map_of_mem hmem), Option.some_or]
  intro t ht
  obtain ⟨j, m, other, hm, hmg, hmv, hmid, rfl⟩ := mem_getTypes_iff.1 ht
  obtain rfl := hid' j ⟨m, hm, by simp [Node.isGlobal, hmg], by simp [hmv], hmid⟩
  obtain rfl : n = m := Option.some.inj (hn.symm.trans hm)
  obtain rfl : name = other := Option.some.inj (hv.symm.trans hmv)
  rfl

/-- A Set node that alone carries its key is shown what feeds it. -/
theorem lastOn_written_of_isSet (hs : n.isSet) (hv : n.variableName?.isSome) :
    lastOn (g.written c) (valuePort id) = some (g.sourceType n) := by
  have hmem : (valuePort id, g.sourceType n) ∈ g.setTypes :=
    mem_setTypes_iff.2 ⟨id, n, hn, hs, hv, hid, rfl⟩
  -- the only node that carries the key is a Set node, so no Get node writes over it
  have hgets : lastOn (g.getTypes (g.recorded c)) (valuePort id) = none := by
    apply lastOn_of_not_mem
    intro hp
    obtain ⟨⟨p, type⟩, hx, rfl⟩ := List.mem_map.1 hp
    obtain ⟨j, m, other, hm, hmg, hmv, hmid, -⟩ := mem_getTypes_iff.1 hx
    obtain rfl := hid' j ⟨m, hm, by simp [Node.isGlobal, hmg], by simp [hmv], hmid⟩
    obtain rfl : n = m := Option.some.inj (hn.symm.trans hm)
    simp [n.isGet_eq_false_of_isSet hs] at hmg
  rw [written, lastOn_append, hgets, Option.none_or]
  apply lastOn_of_forall (List.mem_map_of_mem hmem)
  intro t ht
  obtain ⟨j, m, hm, hms, hmv, hmid, rfl⟩ := mem_setTypes_iff.1 ht
  obtain rfl := hid' j ⟨m, hm, by simp [Node.isGlobal, hms], hmv, hmid⟩
  obtain rfl : n = m := Option.some.inj (hn.symm.trans hm)
  rfl

end Alone

theorem ownIds_of_keyed (hk : g.Keyed) : g.OwnIds := fun id n hn _ _ => hk id n hn

namespace OwnIds

variable (h : g.OwnIds)

include h

theorem eq_of_carries (hj : g.Carries j id) : j = id := by
  obtain ⟨n, hn, hglobal, hv, rfl⟩ := hj
  exact (h j n hn hglobal hv).symm

theorem output?_pass_of_isGet (palette : Palette) (c : Cache) (hn : g.node? id = some n)
    (hg : n.isGet) (hv : n.variableName? = some name)
    (hslot : n.output? Node.valueSlot = some slot) :
    (g.pass palette c).2.2.output? (valuePort id) =
      some (slot.display palette (((g.recorded c).get? name).getD .wildcard)) := by
  have hid : n.id = id := h id n hn (by simp [Node.isGlobal, hg]) (by simp [hv])
  have hl := lastOn_written_of_isGet (c := c) hn hid (fun _ => h.eq_of_carries) hg hv
  exact output?_pass hn hl hslot

theorem output?_pass_of_isSet (palette : Palette) (c : Cache) (hn : g.node? id = some n)
    (hs : n.isSet) (hv : n.variableName?.isSome) (hslot : n.output? Node.valueSlot = some slot) :
    (g.pass palette c).2.2.output? (valuePort id) =
      some (slot.display palette (g.sourceType n)) := by
  have hid : n.id = id := h id n hn (by simp [Node.isGlobal, hs]) hv
  have hl := lastOn_written_of_isSet (c := c) hn hid (fun _ => h.eq_of_carries) hs hv
  exact output?_pass hn hl hslot

theorem node?_pass_of_other (palette : Palette) (c : Cache)
    (hother : ∀ n, g.node? id = some n → n.isGlobal → n.variableName? = none) :
    (g.pass palette c).2.2.node? id = g.node? id := by
  apply node?_pass_of_not_carries
  intro j hj
  obtain rfl := h.eq_of_carries hj
  obtain ⟨n, hn, hglobal, hv, -⟩ := hj
  simp [hother n hn hglobal] at hv

end OwnIds

/-- A saved graph with a Get node of a variable that no Set node defines, under the key 0, and a
producer of images, under the key 1. Both carry the id 1. -/
def strayText : String :=
  "[\x7b\"0\":[1,\"GetNodeGlobal\",\"\",[],[[0,\"\",\"\",\"IMAGE\",\"Output\"]]," ++
  "[[\"variable_name\",\"x\"]]]," ++
  "\"1\":[1,\"\",\"\",[],[[0,\"\",\"\",\"IMAGE\",\"Output\"]]]\x7d,\x7b\x7d]"

def stray : Graph where
  nodes := .ofList [
    (0, { Node.new 1 Node.getType with
      title := ""
      outputs := [⟨0, "", "", ⟨"IMAGE"⟩, .output, none, [], none, none⟩]
      widgets := [⟨Node.variableWidget, "x"⟩] }),
    (1, { Node.new 1 "" with
      outputs := [⟨0, "", "", ⟨"IMAGE"⟩, .output, none, [], none, none⟩] })]
  nextNodeId := 2

/-- The same graph with the key of the Get node as its id. The producer carries an id that is not
its key. -/
def mended : Graph :=
  (stray.modifyNode 0 fun n => { n with id := 0 }).modifyNode 1 fun n => { n with id := 0 }

/-- Where every named Set and Get node carries its key, a pass does right by every node. -/
theorem shownRight_of_ownIds (palette : Palette) (c : Cache) (h : g.OwnIds) :
    ShownRight palette c g := by
  constructor
  case gets =>
    intro id n name slot hn hg hv hslot
    rw [h.output?_pass_of_isGet palette c hn hg hv hslot]
    rfl
  case sets =>
    intro id n slot hn hs hv hslot
    rw [h.output?_pass_of_isSet palette c hn hs hv hslot]
    rfl
  case others =>
    intro id n hn hother
    rw [h.node?_pass_of_other palette c, hn]
    intro m hm
    obtain rfl : n = m := Option.some.inj (hn.symm.trans hm)
    exact hother

theorem shownRight_mended :
    mended.OwnIds ∧ ¬mended.Keyed ∧ ShownRight .builtin .empty mended ∧
    ((mended.pass .builtin .empty).2.2.output? (valuePort 0)).map Slot.type = some .wildcard := by
  have h : mended.OwnIds := by decide
  exact ⟨h, by decide, shownRight_of_ownIds .builtin .empty h, by decide⟩

theorem ofText_strayText : ofText strayText = .ok stray := ofText_eq_ok (by decide +kernel)

/-- Not every saved graph is shown right. The Get node still shows images after a pass, though no
type is recorded for its variable, and the producer does not show them any more. -/
theorem not_shownRight_stray :
    (¬∀ text g palette c, ofText text = .ok g → ShownRight palette c g) ∧
    (stray.pass .builtin .empty).2.1.get? "x" = none ∧
    ((stray.pass .builtin .empty).2.2.output? (valuePort 0)).map Slot.type = some ⟨"IMAGE"⟩ ∧
    ((stray.pass .builtin .empty).2.2.output? (valuePort 1)).map Slot.type = some .wildcard := by
  have hc : (stray.pass .builtin .empty).2.1.get? "x" = none := by decide
  have hget : ((stray.pass .builtin .empty).2.2.output? (valuePort 0)).map Slot.type =
      some ⟨"IMAGE"⟩ := by decide
  refine ⟨fun h => ?_, hc, hget, by decide⟩
  have hright := (h strayText stray .builtin .empty ofText_strayText).gets 0 _ "x" _ rfl
    (by decide) (by decide) rfl
  rw [hget, hc] at hright
  exact absurd hright (by decide)

end NodeVariables.Graph
