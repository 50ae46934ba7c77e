import NodeVariables.Proofs.EditFrame
import NodeVariables.Proofs.EditRuns

namespace NodeVariables

variable {g g' : Graph} {origin target : Port} {id k : LinkId} {l : Link}

section Tables

variable {κ ν : Type} [LT κ] [DecidableEq κ] [KeyOrder κ]

theorem Table.erase_insert [DecidableLT κ] {t : Table κ ν} {k : κ} (v : ν) (h : t.get? k = none) :
    (t.insert k v).erase k = t := by
  apply Table.ext_get?
  intro j
  rw [Table.get?_erase, Table.get?_insert]
  split
  · next hj => rw [hj, h]
  · rfl

theorem Table.modify_modify (t : Table κ ν) (k : κ) (f f' : ν → ν) :
    (t.modify k f).modify k f' = t.modify k (f' ∘ f) := by
  apply Table.ext_get?
  intro j
  simp only [Table.get?_modify]
  split
  · exact Option.map_map ..
  · rfl

theorem Table.modify_comm (t : Table κ ν) {j k : κ} (h : j ≠ k) (f f' : ν → ν) :
    (t.modify j f).modify k f' = (t.modify k f').modify j f := by
  apply Table.ext_get?
  intro i
  simp only [Table.get?_modify]
  split
  · next hi => rw [if_neg (hi ▸ h.symm), if_neg (hi ▸ h.symm)]
  · rfl

end Tables

def Node.shell (n : Node) : Node := { n with inputs := [], outputs := [] }

namespace Graph

section Refusals

/-- Linking is refused for one of five reasons. -/
theorem exists_error_addLink_iff : (∃ refusal, g.addLink origin target = .error refusal) ↔
    origin.node = target.node ∨ g.node? origin.node = none ∨ g.node? target.node = none ∨
      g.output? origin = none ∨ g.input? target = none := by
  unfold addLink linkRefusal?
  split_ifs <;> simp_all

/-- A change of a graph that can be refused on the way, with what was changed up to then. -/
abbrev InPlace := ExceptT LinkRefusal (StateM Graph)

section InPlace

variable {α β : Type} (g : Graph)

theorem run_get_bind (f : Graph → InPlace α) : (get >>= f).run.run g = (f g).run.run g := rfl

end InPlace

def linkInPlace (origin target : Port) : InPlace LinkId := do
  if origin.node = target.node then throw .toItself
  let g ← get
  if (g.node? origin.node).isNone then throw .noSource
  if (g.output? origin).isNone then throw .noSourceSlot
  if (g.node? target.node).isNone then throw .noTarget
  let some slot := g.input? target | throw .noTargetSlot
  if let some old := slot.link then modify (·.removeLink old)
  let g ← get
  let id := g.nextLinkId
  modify fun g => { g with nextLinkId := id + 1 }
  modify fun g => { g with links := g.links.insert id ⟨id, origin, target⟩ }
  modify (·.modifyOutput origin (Slot.addLink id))
  modify (·.modifyInput target (Slot.setLink (some id)))
  return id

theorem run_linkInPlace (g : Graph) (origin target : Port) :
    (linkInPlace origin target).run.run g =
      match g.addLink origin target with
      | .ok (id, g') => (.ok id, g')
      | .error refusal => (.error refusal, g) := by
  unfold addLink linkRefusal? linkInPlace
  split_ifs with hself hsource hoslot htarget htslot
  · rfl
  · simp only [run_get_bind, if_pos hsource]
    rfl
  · simp only [run_get_bind, if_neg hsource, if_pos hoslot]
    rfl
  · simp only [run_get_bind, if_neg hsource, if_neg hoslot, if_pos htarget]
    rfl
  · have hslot : g.input? target = none := Option.isNone_iff_eq_none.1 htslot
    simp only [run_get_bind, if_neg hsource, if_neg hoslot, if_neg htarget, hslot]
    rfl
  · obtain ⟨slot, hslot⟩ := Option.ne_none_iff_exists'.1 (mt Option.isNone_iff_eq_none.2 htslot)
    have hinto : g.linkInto? target = slot.link := by rw [linkInto?, hslot, Option.bind_some]
    simp only [run_get_bind, if_neg hsource, if_neg hoslot, if_neg htarget, hslot, clearInput,
      hinto]
    cases hlink : slot.link with
    | none => rfl
    | some old =>
      rw [← g.nextLinkId_removeLink old]
      rfl

end Refusals

section Changes

def shell? (g : Graph) (n : NodeId) : Option Node := (g.node? n).map Node.shell

/-- What linking an output to an input changes. The input holds the new link in place of the one
that it held before, which is in the table and at its origin no more. -/
structure Linking (g : Graph) (origin target : Port) (id : LinkId) (g' : Graph) : Prop where
  counted : id = g.nextLinkId ∧ g'.nextLinkId = g.nextLinkId + 1
  fresh : g.link? id = none
  links : ∀ k, g'.link? k = if k = id then some ⟨id, origin, target⟩
    else if g.linkInto? target = some k then none else g.link? k
  inputs : ∀ n i, g'.inputAt? n i = if target.IsAt n i
    then (g.inputAt? n i).map fun s => { s with link := some id } else g.inputAt? n i
  outputs : ∀ n i, g'.outputAt? n i = (g.outputAt? n i).map fun s =>
    { s with links := s.links.filter (fun k => g.linkInto? target ≠ some k) ++
      if origin.IsAt n i then [id] else [] }
  /-- The link that is replaced led to the input, and its origin alone held it. -/
  replaced : ∀ k, g.linkInto? target = some k → ∃ l, g.link? k = some l ∧ l.target = target ∧
    ∀ n i, k ∈ g.sent n i ↔ l.origin.IsAt n i
  shells : ∀ n, g'.shell? n = g.shell? n
  rest : g'.nextNodeId = g.nextNodeId ∧ g'.redraws = g.redraws

variable (n : NodeId) (i : Nat)

theorem shell?_modifyInput (g : Graph) (p : Port) (f : Slot → Slot) :
    (g.modifyInput p f).shell? n = g.shell? n :=
  g.map_node?_modifyNode p.node n fun _ => rfl

theorem shell?_modifyOutput (g : Graph) (p : Port) (f : Slot → Slot) :
    (g.modifyOutput p f).shell? n = g.shell? n :=
  g.map_node?_modifyNode p.node n fun _ => rfl

theorem shell?_removeLink (g : Graph) (id : LinkId) : (g.removeLink id).shell? n = g.shell? n := by
  cases hl : g.link? id with
  | none => rw [removeLink_of_none hl]
  | some l =>
    rw [removeLink_of_some hl, shell?_modifyInput, shell?_modifyOutput]
    rfl

theorem shell?_attach (g : Graph) (origin target : Port) :
    (g.attach origin target).shell? n = g.shell? n := by
  rw [attach, shell?_modifyInput, shell?_modifyOutput]
  rfl

section Clearing

theorem link?_clearInput (g : Graph) (target : Port) (k : LinkId) :
    (g.clearInput target).link? k = if g.linkInto? target = some k then none else g.link? k := by
  obtain ⟨hnone, hg⟩ | ⟨old, hold, hg⟩ := clearInput_cases g target
  · simp [hg, hnone]
  · simp only [hg, hold, link?_removeLink, Option.some.injEq, eq_comm]

theorem clearInput_frame (g : Graph) (target : Port) :
    (g.clearInput target).nextLinkId = g.nextLinkId ∧
    (g.clearInput target).nextNodeId = g.nextNodeId ∧
    (g.clearInput target).redraws = g.redraws ∧
    ∀ n, (g.clearInput target).shell? n = g.shell? n := by
  obtain ⟨-, hg⟩ | ⟨old, -, hg⟩ := clearInput_cases g target
  · simp [hg]
  · rw [hg]
    refine ⟨nextLinkId_removeLink g old, nextNodeId_removeLink g old, ?_, ?_⟩
    · cases hl : g.link? old with
      | none => rw [removeLink_of_none hl]
      | some l =>
        rw [removeLink_of_some hl]
        rfl
    · exact fun n => shell?_removeLink n g old

/-- The link that an input holds leads to the input, and its origin alone holds it. -/
theorem Consistent.link?_of_linkInto? (h : g.Consistent) (hk : g.linkInto? target = some k) :
    ∃ l, g.link? k = some l ∧ l.target = target ∧ ∀ n i, k ∈ g.sent n i ↔ l.origin.IsAt n i := by
  obtain ⟨l, hl, hat⟩ := h.of_held target.node target.slot.toNat k hk
  refine ⟨l, hl, Port.eq_of_isAt hat target.isAt_self, fun n i => ⟨fun hmem => ?_, ?_⟩⟩
  · obtain ⟨l', hl', hat'⟩ := h.of_sent n i k hmem
    obtain rfl := Option.some.inj (hl.symm.trans hl')
    exact hat'
  · rintro ⟨rfl, rfl⟩
    rw [← List.count_pos_iff, h.origin k l hl]
    exact Nat.one_pos

theorem Consistent.inputAt?_clearInput (h : g.Consistent) (target : Port) :
    (g.clearInput target).inputAt? n i = if target.IsAt n i
      then (g.inputAt? n i).map (Slot.setLink none) else g.inputAt? n i := by
  have hkept (hat : target.IsAt n i) {s : Slot} (hs : g.inputAt? n i = some s) :
      g.linkInto? target = s.link := by
    rw [linkInto?, ← inputAt?_port, hat.1, hat.2, hs, Option.bind_some]
  obtain ⟨hnone, hg⟩ | ⟨old, hold, hg⟩ := clearInput_cases g target
  · rw [hg]
    split
    · next hat =>
      cases hs : g.inputAt? n i with
      | none => rfl
      | some s =>
        have hlink := (hkept hat hs).symm.trans hnone
        cases s
        obtain rfl := hlink
        rfl
    · rfl
  · obtain ⟨l, hl, rfl, -⟩ := h.link?_of_linkInto? hold
    rw [hg, inputAt?_removeLink n i hl]
    split
    · next hat =>
      cases hs : g.inputAt? n i with
      | none => rfl
      | some s =>
        have hlink := (hkept hat hs).symm.trans hold
        simp [Slot.unlink, hlink]
    · rfl

theorem Consistent.outputAt?_clearInput (h : g.Consistent) (target : Port) :
    (g.clearInput target).outputAt? n i = (g.outputAt? n i).map fun s =>
      { s with links := s.links.filter fun k => g.linkInto? target ≠ some k } := by
  obtain ⟨hnone, hg⟩ | ⟨old, hold, hg⟩ := clearInput_cases g target
  · rw [hg]
    simp [hnone]
  · have hdrop (s : Slot) :
        { s with links := s.links.filter fun k => g.linkInto? target ≠ some k } =
          s.dropLink old := by
      simp only [Slot.dropLink, hold, ne_eq, Option.some.injEq, eq_comm]
    obtain ⟨l, hl, -, horigin⟩ := h.link?_of_linkInto? hold
    simp only [hg, outputAt?_removeLink n i hl, hdrop]
    split
    · rfl
    · next hat =>
      -- the link is held by its origin alone
      cases hs : g.outputAt? n i with
      | none => rfl
      | some s =>
        have hfilter : s.links.filter (· ≠ old) = s.links := by
          rw [List.filter_eq_self]
          intro k hk
          have hne : k ≠ old := by
            rintro rfl
            exact hat ((horigin n i).1 (mem_sent_iff.2 ⟨s, hs, hk⟩))
          simpa using hne
        rw [Option.map_some, Slot.dropLink, hfilter]

end Clearing

theorem Consistent.linking_addLink (h : g.Consistent) (hb : g.LinksBelow)
    (ok : g.addLink origin target = .ok (id, g')) : Linking g origin target id g' := by
  obtain ⟨-, -, -, hresult⟩ := addLink_eq_ok ok
  obtain ⟨rfl, rfl⟩ := Prod.mk.inj hresult
  obtain ⟨hnextLink, hnextNode, hredraws, hshell⟩ := g.clearInput_frame target
  have hfresh := hb.link?_nextLinkId
  refine ⟨⟨rfl, ?_⟩, hfresh, ?_, ?_, ?_, fun k => h.link?_of_linkInto?, ?_, ?_⟩
  · rw [← hnextLink]
    rfl
  · intro k
    rw [link?_attach, hnextLink, link?_clearInput]
  · intro n i
    rw [inputAt?_attach, hnextLink, h.inputAt?_clearInput]
    split
    · rw [Option.map_map]
      rfl
    · rfl
  · intro n i
    rw [outputAt?_attach, hnextLink, h.outputAt?_clearInput]
    split
    · rw [Option.map_map]
      rfl
    · simp
  · intro n
    rw [shell?_attach, hshell]
  · exact ⟨hnextNode, hredraws⟩

end Changes

section Undoing

theorem modifyNode_modifyNode (g : Graph) (n : NodeId) (f f' : Node → Node) :
    (g.modifyNode n f).modifyNode n f' = g.modifyNode n (f' ∘ f) := by
  rw [modifyNode, modifyNode, modifyNode, Table.modify_modify]

theorem modifyNode_comm (g : Graph) {n m : NodeId} (h : n ≠ m) (f f' : Node → Node) :
    (g.modifyNode n f).modifyNode m f' = (g.modifyNode m f').modifyNode n f := by
  rw [modifyNode, modifyNode, modifyNode, modifyNode, Table.modify_comm _ h]

theorem modifyOutput_modifyOutput (g : Graph) (p : Port) (f f' : Slot → Slot) :
    (g.modifyOutput p f).modifyOutput p f' = g.modifyOutput p (f' ∘ f) := by
  have hnode : Node.modifyOutput p.slot f' ∘ Node.modifyOutput p.slot f =
      Node.modifyOutput p.slot (f' ∘ f) := by
    funext n
    simp only [Function.comp, Node.modifyOutput, List.modify_modify_eq]
  rw [modifyOutput, modifyOutput, modifyOutput, modifyNode_modifyNode, hnode]

theorem modifyInput_modifyInput (g : Graph) (p : Port) (f f' : Slot → Slot) :
    (g.modifyInput p f).modifyInput p f' = g.modifyInput p (f' ∘ f) := by
  have hnode : Node.modifyInput p.slot f' ∘ Node.modifyInput p.slot f =
      Node.modifyInput p.slot (f' ∘ f) := by
    funext n
    simp only [Function.comp, Node.modifyInput, List.modify_modify_eq]
  rw [modifyInput, modifyInput, modifyInput, modifyNode_modifyNode, hnode]

/-- Removing a new link leaves nothing of it but the count. -/
theorem Consistent.removeLink_attach (h : g.Consistent) (hne : origin.node ≠ target.node)
    (hfree : g.linkInto? target = none) (hnew : g.link? g.nextLinkId = none) :
    (g.attach origin target).removeLink g.nextLinkId =
      { g with nextLinkId := g.nextLinkId + 1 } := by
  let id := g.nextLinkId
  let slots := (((g.modifyOutput origin (Slot.addLink id)).modifyInput target
    (Slot.setLink (some id))).modifyOutput origin (Slot.dropLink id)).modifyInput target
    (Slot.unlink id)
  have hlink : (g.attach origin target).link? id = some ⟨id, origin, target⟩ :=
    (link?_attach origin target g id).trans (if_pos rfl)
  have hremoved : (g.attach origin target).removeLink id = { slots with
      links := (g.links.insert id ⟨id, origin, target⟩).erase id
      nextLinkId := id + 1 } := removeLink_of_some hlink
  -- dropping the new link drops no other, as no slot held its id before
  have hout : ∀ s, g.output? origin = some s → (s.addLink id).dropLink id = s := by
    intro s hs
    have hkept : s.links.filter (· ≠ id) = s.links := by
      rw [List.filter_eq_self]
      intro k hk
      have hmem : k ∈ g.sent origin.node origin.slot.toNat := mem_sent_iff.2 ⟨s, hs, hk⟩
      simpa using ne_of_mem_of_not_mem hmem (h.not_mem_sent hnew _ _)
    rw [Slot.addLink, Slot.dropLink, List.filter_append, hkept]
    simp
  have hin : ∀ s, g.input? target = some s → (s.setLink (some id)).unlink id = s := by
    intro s hs
    have hlink : s.link = none := by rwa [linkInto?, hs] at hfree
    cases s
    obtain rfl := hlink
    simp [Slot.setLink, Slot.unlink]
  have hsent : g.modifyOutput origin (Slot.dropLink id ∘ Slot.addLink id) = g :=
    modifyOutput_eq_self hout
  have hheld : g.modifyInput target (Slot.unlink id ∘ Slot.setLink (some id)) = g :=
    modifyInput_eq_self hin
  -- the slots are on different nodes, so the two changes of each can be brought together
  have hslots : slots = g := calc
    slots = (((g.modifyOutput origin (Slot.addLink id)).modifyOutput origin
        (Slot.dropLink id)).modifyInput target (Slot.setLink (some id))).modifyInput target
        (Slot.unlink id) :=
      congrArg (modifyInput · target _) (modifyNode_comm _ hne.symm _ _)
    _ = g := by
      rw [modifyOutput_modifyOutput, hsent, modifyInput_modifyInput, hheld]
  rw [hremoved, Table.erase_insert _ hnew, hslots]

theorem Consistent.removeLink_addLink (h : g.Consistent) (hb : g.LinksBelow)
    (ok : g.addLink origin target = .ok (id, g')) :
    g'.removeLink id = { g.clearInput target with nextLinkId := g.nextLinkId + 1 } := by
  obtain ⟨hne, -, -, hresult⟩ := addLink_eq_ok ok
  obtain ⟨rfl, rfl⟩ := Prod.mk.inj hresult
  have hnext := (g.clearInput_frame target).1
  have hnew : (g.clearInput target).link? (g.clearInput target).nextLinkId = none := by
    rw [hnext, link?_clearInput, hb.link?_nextLinkId, ite_self]
  have hremoved := (h.clearInput target).removeLink_attach hne (h.linkInto?_clearInput target) hnew
  rwa [hnext] at hremoved

end Undoing

section Results

/-- A new link concerns the type of no node but the one that it leads to. -/
theorem Relinked.sourceTypeAt_eq (h : Relinked target g g') {n : NodeId} (hn : n ≠ target.node) :
    g'.sourceTypeAt n = g.sourceTypeAt n := by
  apply sourceTypeAt_congr
  · apply feeders_congr
    intro i
    apply h.origins
    exact fun hat => hn hat.1.symm
  · intro p _
    rw [h.look]

/-- Linking changes what it is to change, feeds no other node anew, and leaves nothing but the
counter once the new link is removed. -/
structure LinksOnly (g : Graph) (origin target : Port) (id : LinkId) (g' : Graph) : Prop where
  linking : Linking g origin target id g'
  types : ∀ n, n ≠ target.node → g'.sourceTypeAt n = g.sourceTypeAt n
  undone : g'.removeLink id = { g.clearInput target with nextLinkId := g.nextLinkId + 1 }

theorem Consistent.linksOnly_addLink (h : g.Consistent) (hb : g.LinksBelow)
    (ok : g.addLink origin target = .ok (id, g')) : LinksOnly g origin target id g' where
  linking := h.linking_addLink hb ok
  types _ := (h.relinked_addLink ok (h.addLink hb.link?_nextLinkId ok)).sourceTypeAt_eq
  undone := h.removeLink_addLink hb ok

/-- On a graph that a run has reached, links and slots agree and the counter of links is above every
id in use. -/
theorem Reached.linksOnly_addLink {removed : List Node} (h : Reached g removed)
    (ok : g.addLink origin target = .ok (id, g')) : LinksOnly g origin target id g' :=
  h.linked.1.consistent.linksOnly_addLink h.linked.1.links_below ok

/-- Linking is refused only for a missing or common end, and then leaves the graph as it is. Where
links and slots agree and the counter of links is above every id in use, it changes nothing but the
input, the origins of its two links, the table and the counter, no other node is fed anew, and all
but the counter is undone when the new link is removed. The counter is above every id in use on the
graphs that runs reach and on those that are loaded. -/
theorem addLink_atomic (g : Graph) (origin target : Port) :
    ((∃ refusal, g.addLink origin target = .error refusal) ↔
      origin.node = target.node ∨ g.node? origin.node = none ∨ g.node? target.node = none ∨
        g.output? origin = none ∨ g.input? target = none) ∧
    (∀ refusal, g.addLink origin target = .error refusal →
      (linkInPlace origin target).run.run g = (.error refusal, g)) ∧
    ∀ id g', g.addLink origin target = .ok (id, g') →
      (linkInPlace origin target).run.run g = (.ok id, g') ∧
      (g.Consistent → g.LinksBelow →
        Linking g origin target id g' ∧
        (∀ n, n ≠ target.node → g'.sourceTypeAt n = g.sourceTypeAt n) ∧
        g'.removeLink id = { g.clearInput target with nextLinkId := g.nextLinkId + 1 }) := by
  have hrun := run_linkInPlace g origin target
  refine ⟨exists_error_addLink_iff, fun refusal hrefused => ?_, fun id g' ok => ⟨?_, ?_⟩⟩
  · rw [hrun, hrefused]
  · rw [hrun, ok]
  · intro h hb
    have honly := h.linksOnly_addLink hb ok
    exact ⟨honly.linking, honly.types, honly.undone⟩

def maskLoader : Node := Node.new 0 "LoadMask" |>.addOutput "MASK" ⟨"MASK"⟩

/-- A Set node that a loader of images feeds, and a loader of masks beside it. -/
def contested : Graph := (joined.addNode maskLoader).2

theorem addLink_atomic_contested :
    contested.Consistent ∧ contested.LinksBelow ∧ contested.linkInto? ⟨1, 0⟩ = some 0 ∧
    ∃ g', contested.addLink ⟨2, 0⟩ ⟨1, 0⟩ = .ok (1, g') ∧
      Linking contested ⟨2, 0⟩ ⟨1, 0⟩ 1 g' ∧
      g'.sourceTypeAt 1 = ⟨"MASK"⟩ ∧ g'.sourceTypeAt 0 = contested.sourceTypeAt 0 ∧
      g'.removeLink 1 = { contested.removeLink 0 with nextLinkId := 2 } := by
  have hreached : Reached contested [] :=
    .addNode maskLoader reached_joined (.inl (by decide)) (by decide)
  have hlinked := hreached.linked.1
  have hlinks := (addLink_atomic contested ⟨2, 0⟩ ⟨1, 0⟩).2.2
  have ok : contested.addLink ⟨2, 0⟩ ⟨1, 0⟩ =
      .ok (1, (contested.clearInput ⟨1, 0⟩).attach ⟨2, 0⟩ ⟨1, 0⟩) := rfl
  obtain ⟨-, hconsistent⟩ := hlinks _ _ ok
  obtain ⟨hlinking, hlocal, hundone⟩ := hconsistent hlinked.consistent hlinked.links_below
  exact ⟨hlinked.consistent, hlinked.links_below, by decide, _, ok, hlinking, by decide,
    hlocal 0 (by decide), hundone⟩

end Results

end Graph

end NodeVariables
